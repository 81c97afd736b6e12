import EventTables.Config.Document
import EventTables.Proofs.Json.Order
import EventTables.Proofs.Json.Printer

/-!
# Stored Integrations

An integration is decoded from its bytes as it is from its parsed document.

A store in memory keeps the bytes of a document and decodes them when it is read.
A database parses the document first, which brings its members into key order and
forgets the text, and decodes what it has parsed. Both ways go through the same
description of the format, so what is shown of each record is that it reads values
(`Codec.ReadsValues`), from the scalars up. In the end the two ways accept the same
documents and get the same integrations from them, no matter in which order the
members come, which of them are missing or unknown, and whether a record is an
object or an array. Only the error that is reported may be a different one.

## Theorems

* `Format.readsValues_integration`: The format of integrations reads values.
* `Integration.ofBytes_eq_ok_iff`: Bytes and value are decoded alike.
-/

namespace EventTables

open Json

namespace Format

/-! ### Members that may come in any order -/

theorem apart_source : sourceShape.members.Pairwise Member.Apart := by
  simp only [sourceShape, List.pairwise_cons, List.forall_mem_cons, List.not_mem_nil,
    IsEmpty.forall_iff, implies_true, List.Pairwise.nil, and_true]
  and_intros <;>
    exact Member.apart_of_sets (fun _ _ _ => rfl) (fun _ _ _ => rfl) fun _ _ _ => rfl

theorem apart_column : columnShape.members.Pairwise Member.Apart := by
  simp only [columnShape, List.pairwise_cons, List.forall_mem_cons, List.not_mem_nil,
    IsEmpty.forall_iff, implies_true, List.Pairwise.nil, and_true]
  exact Member.apart_of_sets (fun _ _ _ => rfl) (fun _ _ _ => rfl) fun _ _ _ => rfl

theorem apart_table : tableShape.members.Pairwise Member.Apart := by
  simp only [tableShape, List.pairwise_cons, List.forall_mem_cons, List.not_mem_nil,
    IsEmpty.forall_iff, implies_true, List.Pairwise.nil, and_true]
  and_intros <;>
    exact Member.apart_of_sets (fun _ _ _ => rfl) (fun _ _ _ => rfl) fun _ _ _ => rfl

theorem apart_blockField : blockFieldShape.members.Pairwise Member.Apart := by
  simp only [blockFieldShape, List.pairwise_cons, List.forall_mem_cons, List.not_mem_nil,
    IsEmpty.forall_iff, implies_true, List.Pairwise.nil, and_true]
  exact Member.apart_of_sets (fun _ _ _ => rfl) (fun _ _ _ => rfl) fun _ _ _ => rfl

theorem apart_input : inputShape.members.Pairwise Member.Apart := by
  simp only [inputShape, List.pairwise_cons, List.forall_mem_cons, List.not_mem_nil,
    IsEmpty.forall_iff, implies_true, List.Pairwise.nil, and_true]
  -- The last two members may be null.
  and_intros <;>
    first
    | exact Member.apart_of_sets (fun _ _ _ => rfl) (fun _ _ _ => rfl) fun _ _ _ => rfl
    | exact Member.apart_of_sets (fun _ _ _ => rfl) (Member.sets_optional _ _ _ _)
        fun _ _ _ => rfl
    | exact Member.apart_of_sets (Member.sets_optional _ _ _ _) (Member.sets_optional _ _ _ _)
        fun _ _ _ => rfl

theorem apart_event : eventShape.members.Pairwise Member.Apart := by
  simp only [eventShape, List.pairwise_cons, List.forall_mem_cons, List.not_mem_nil,
    IsEmpty.forall_iff, implies_true, List.Pairwise.nil, and_true]
  and_intros <;>
    exact Member.apart_of_sets (fun _ _ _ => rfl) (fun _ _ _ => rfl) fun _ _ _ => rfl

theorem apart_compiled : compiledShape.members.Pairwise Member.Apart := by
  simp only [compiledShape, List.pairwise_cons, List.forall_mem_cons, List.not_mem_nil,
    IsEmpty.forall_iff, implies_true, List.Pairwise.nil, and_true]
  exact Member.apart_of_sets (fun _ _ _ => rfl) (fun _ _ _ => rfl) fun _ _ _ => rfl

theorem apart_integration : integrationShape.members.Pairwise Member.Apart := by
  simp only [integrationShape, List.pairwise_cons, List.forall_mem_cons, List.not_mem_nil,
    IsEmpty.forall_iff, implies_true, List.Pairwise.nil, and_true]
  and_intros <;>
    exact Member.apart_of_sets (fun _ _ _ => rfl) (fun _ _ _ => rfl) fun _ _ _ => rfl

/-! ### Records that read values -/

theorem readsValues_setting : setting.ReadsValues :=
  Codec.readsValues_convert _ Codec.readsValues_string _ _

theorem readsValues_source : source.ReadsValues :=
  Shape.readsValues_closed apart_source
    ⟨Member.readsValues_needed Codec.readsValues_string,
      Member.readsValues_withDefault Codec.readsValues_uint64,
      Member.readsValues_withDefault readsValues_setting,
      Member.readsValues_withDefault Codec.readsValues_uint64,
      Member.readsValues_withDefault Codec.readsValues_uint64,
      Member.readsValues_withDefault Codec.readsValues_uint32,
      Member.readsValues_withDefault Codec.readsValues_uint32⟩

theorem readsValues_column : column.ReadsValues :=
  Shape.readsValues_closed apart_column
    ⟨Member.readsValues_needed Codec.readsValues_string,
      Member.readsValues_needed Codec.readsValues_string⟩

theorem readsValues_table : table.ReadsValues :=
  Shape.readsValues_closed apart_table
    ⟨Member.readsValues_needed Codec.readsValues_string,
      Member.readsValues_withDefault (Codec.readsValues_listOf _ readsValues_column),
      Member.readsValues_withDefault
        (Codec.readsValues_listOf _ (Codec.readsValues_listOf _ Codec.readsValues_string))⟩

theorem readsValues_blockField : blockField.ReadsValues :=
  Shape.readsValues_closed apart_blockField
    ⟨Member.readsValues_needed Codec.readsValues_string,
      Member.readsValues_withDefault Codec.readsValues_string⟩

theorem readsValues_input : input.ReadsValues := by
  refine Shape.readsValues_opened _ _ apart_input ?_ ?_ fun k l v w i hne => ?_
  · exact ⟨Member.readsValues_needed Codec.readsValues_string,
      Member.readsValues_withDefault Codec.readsValues_string,
      Member.readsValues_withDefault Codec.readsValues_boolean,
      Member.readsValues_optional Codec.readsValues_string,
      Member.readsValues_optional Codec.readsValues_string⟩
  · and_intros <;>
      first
      | exact Member.aside_of_sets (fun _ _ _ => rfl) fun _ _ _ _ => rfl
      | exact Member.aside_of_sets (Member.sets_optional _ _ _ _) fun _ _ _ _ => rfl
  · exact congrArg (fun extra => { i with extra := extra })
      (Keyed.put_comm l k w v hne.symm i.extra)

theorem readsValues_event : event.ReadsValues := by
  refine Shape.readsValues_opened _ _ apart_event ?_ ?_ fun k l v w e hne => ?_
  · exact ⟨Member.readsValues_withDefault Codec.readsValues_string,
      Member.readsValues_withDefault Codec.readsValues_string,
      Member.readsValues_withDefault Codec.readsValues_boolean,
      Member.readsValues_withDefault (Codec.readsValues_listOf _ readsValues_input)⟩
  · and_intros <;> exact Member.aside_of_sets (fun _ _ _ => rfl) fun _ _ _ _ => rfl
  · exact congrArg (fun extra => { e with extra := extra })
      (Keyed.put_comm l k w v hne.symm e.extra)

theorem readsValues_compiled : compiled.ReadsValues :=
  Shape.readsValues_closed apart_compiled
    ⟨Member.readsValues_withDefault Codec.readsValues_string,
      Member.readsValues_withDefault Codec.readsValues_any⟩

theorem readsValues_integration : integration.ReadsValues :=
  Shape.readsValues_closed apart_integration
    ⟨Member.readsValues_needed Codec.readsValues_string,
      Member.readsValues_withDefault Codec.readsValues_boolean,
      Member.readsValues_withDefault (Codec.readsValues_listOf _ readsValues_source),
      Member.readsValues_withDefault readsValues_table,
      Member.readsValues_withDefault readsValues_compiled,
      Member.readsValues_withDefault (Codec.readsValues_listOf _ readsValues_blockField),
      Member.readsValues_withDefault readsValues_event⟩

end Format

/-! ### Bytes and values -/

/-- Where the bytes of a document repeat no member and are a value, an integration
    is decoded from them exactly if it is decoded from that value. -/
theorem Integration.ofBytes_eq_ok_iff (bytes : List UInt8) (v : Value)
    (hvalue : Codec.any.ofBytes bytes = .ok v)
    (hrepeat : (Document.ofGlyphs (Glyph.ofBytes bytes)).root.NoRepeat)
    (context context' : String) (ig : Integration) :
    ofBytes context bytes = .ok ig ↔ ofValue context' v = .ok ig := by
  rcases (Codec.ofDocument_eq_ok_iff _ _ _).mp hvalue with ⟨hroot, htrailing⟩
  have hread := Format.readsValues_integration _ _ v hroot hrepeat
  rw [ofBytes, ofValue, mapError_eq_ok_iff, mapError_eq_ok_iff, Codec.ofBytes, Codec.ofGlyphs,
    Codec.ofDocument_eq_ok_iff, htrailing, Codec.ofValue]
  simp only [and_true]
  exact eq_ok_iff_of_toOption_eq _ _ hread ig

namespace Integration

/-- A document with its members in no order, one of them unknown, one kept in the
    event, and the source written as an array. -/
def unordered : Value :=
  .object [("sources", .array [.array [.string "mainnet", .number (.natural 1)]]),
    ("note", .object [("at", .null)]), ("name", .string "transfers"),
    ("event", .object [("tag", .string "\u00fc"), ("inputs", .array [])])]

theorem fits_unordered : unordered.Fits Codec.depthLimit := by
  refine .object (by decide) ?_
  simp only [List.forall_mem_cons, List.not_mem_nil, IsEmpty.forall_iff, implies_true, and_true]
  refine ⟨.array ?_, .object (by decide) ?_, .string _ _, .object (by decide) ?_⟩
  · simp only [List.forall_mem_cons, List.not_mem_nil, IsEmpty.forall_iff, implies_true, and_true]
    refine .array ?_
    simp only [List.forall_mem_cons, List.not_mem_nil, IsEmpty.forall_iff, implies_true, and_true]
    exact ⟨.string _ _, .natural _ _⟩
  · simp only [List.forall_mem_cons, List.not_mem_nil, IsEmpty.forall_iff, implies_true, and_true]
    exact .null _
  · simp only [List.forall_mem_cons, List.not_mem_nil, IsEmpty.forall_iff, implies_true, and_true]
    exact ⟨.string _ _, .array (List.forall_mem_nil _)⟩

/-- What that document is read as, from bytes and from a value. -/
theorem ofBytes_eq_ok_iff_unordered :
    Codec.any.ofBytes (Text.bytes unordered.text) = .ok unordered.sorted ∧
      (Document.ofGlyphs (Glyph.ofBytes (Text.bytes unordered.text))).root.NoRepeat ∧
        ofBytes "row" (Text.bytes unordered.text) = .ok
          { blank "transfers" with
            sources := [Source.named "mainnet" 1 ⟨""⟩]
            event := { Event.blank with extra := [("tag", .string "\u00fc")] } } := by
  have hvalue := Codec.any_ofBytes_text unordered fits_unordered
  have hrepeat : (Document.ofGlyphs (Glyph.ofBytes (Text.bytes unordered.text))).root.NoRepeat := by
    rw [Document.ofGlyphs_bytes fits_unordered]
    exact Value.noRepeat_tree_of_fits fits_unordered
  exact ⟨hvalue, hrepeat, (ofBytes_eq_ok_iff _ _ hvalue hrepeat "row" "column" _).mpr rfl⟩

end Integration

end EventTables
