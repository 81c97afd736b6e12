import EventTables.Config.Edit
import EventTables.Proofs.Config.Carried
import EventTables.Proofs.Config.Stored
import EventTables.Proofs.Json.Printer
import EventTables.Proofs.Validation

/-!
# Round Trips

A configuration that is written is read back as it was, and so is each of its
integrations.

Not every configuration has this property. One that was put together by hand could
keep, in an event, a member with the name of a described one, which would then be
written twice, or a value deeper than any document may be. The configurations that
come about by reading and editing are not like that (`Config.Reachable`). What a
document brings along is as documents have it, and every step afterwards either
leaves it alone, moves it as it is, or adds something that keeps nothing at all.

A stored integration has less around it than one in a configuration, so what was
not too deep there is not too deep here either. Read back from a value that was
parsed, it is the same because text and value are decoded alike. Integrations that
were read by themselves may go as deep as that, and steps of the configurations that
they are put in keep it so (`Integration.Obtained`).

## Main definitions

* `Config.Step`: One step in the making of a configuration.
* `Config.Reachable`: The configurations that come about.
* `Integration.Obtained`: The integrations that come about.

## Theorems

* `isSound_of_step`: A step leaves what is kept as documents have it.
* `isSound_of_reachable`: So it is wherever one gets to.
* `Integration.Obtained.isSound`: So it is with integrations that were read by themselves.
* `ofText_written`, `ofFile_written`: A configuration is read back from its text.
* `Config.written_reads_back`: What is written is read back.
-/

namespace EventTables

open Json

/-! ### The making of a configuration -/

/-- An input that was built from its name and type. -/
inductive Input.IsBuilt : Input → Prop where
  | plain (name type : String) : IsBuilt (Input.plain name type)
  | index {i : Input} : IsBuilt i → IsBuilt { i with indexed := true }
  | select {i : Input} (column : String) : IsBuilt i → IsBuilt { i with column := some column }

/-- An event that was built from its name by adding inputs. -/
inductive Event.IsBuilt : Event → Prop where
  | named (name : String) : IsBuilt (Event.named name)
  | addInput {e : Event} {i : Input} : IsBuilt e → i.IsBuilt → IsBuilt (e.addInput i)

/-- An edit that brings in only what was built. -/
def Edit.IsBuilt : Edit → Prop
  | .declareIntegration ig => ∃ name table, ig = Integration.withTable name table
  | .setEvent _ e => e.IsBuilt
  | .addInput _ i => i.IsBuilt
  | _ => True

namespace Config

/-- The configuration with one input of one integration changed. -/
def changeInput (c : Config) (place inputPlace : Nat) (change : Input → Input) : Config :=
  { c with
    integrations := c.integrations.modify place fun ig =>
      { ig with event := { ig.event with inputs := ig.event.inputs.modify inputPlace change } } }

/-- One step in the making of a configuration. -/
inductive Step : Config → Config → Prop where
  /-- What is derived is filled in, up to the first integration that is refused. -/
  | validate (c : Config) : Step c c.validate.1
  | edit {c d : Config} (e : Edit) : e.IsBuilt → e.apply c = some d → Step c d
  | index (c : Config) (place inputPlace : Nat) :
      Step c (c.changeInput place inputPlace fun i => { i with indexed := true })
  | select (c : Config) (place inputPlace : Nat) (column : String) :
      Step c (c.changeInput place inputPlace fun i => { i with column := some column })

/-- The configurations that come about by reading and by steps. -/
inductive Reachable : Config → Prop where
  | empty : Reachable Config.empty
  | read {text : String} {c : Config} : Config.ofText text = .ok c → Reachable c
  | step {c d : Config} : Reachable c → Step c d → Reachable d

end Config

/-! ### What steps keep -/

-- What holds of all members and of a changed one holds after the change.
theorem forall_mem_modify {α : Type} (P : α → Prop) (f : α → α) (hf : ∀ a, P a → P (f a))
    (l : List α) (place : Nat) (h : ∀ a ∈ l, P a) : ∀ a ∈ l.modify place f, P a := by
  intro a ha
  rcases List.mem_iff_getElem.mp ha with ⟨j, hj, rfl⟩
  rw [List.getElem_modify]
  have hmem := h _ (List.getElem_mem (List.length_modify .. ▸ hj))
  split
  · exact hf _ hmem
  · exact hmem

theorem Input.IsBuilt.isSound {i : Input} (h : i.IsBuilt) (room : Nat) : i.IsSound room := by
  induction h with
  | plain name type => exact Format.isSound_plain room name type
  | index _ ih => exact ⟨ih.ascending, ih.others, ih.read⟩
  | select column _ ih => exact ⟨ih.ascending, ih.others, ih.read⟩

theorem Event.IsSound.addInput {room : Nat} {e : Event} {i : Input} (he : e.IsSound room)
    (hi : i.IsSound room) : (e.addInput i).IsSound room := by
  refine ⟨he.ascending, he.others, he.read, fun j hj => ?_⟩
  rcases List.mem_append.mp hj with hj | hj
  · exact he.inputs j hj
  · exact List.mem_singleton.mp hj ▸ hi

theorem Event.IsBuilt.isSound {e : Event} (h : e.IsBuilt) (room : Nat) : e.IsSound room := by
  induction h with
  | named name => exact Format.isSound_bare room name "event"
  | addInput _ hi ih => exact ih.addInput (hi.isSound room)

namespace Integration

-- Required fields are columns and block fields.
theorem foldl_require_kept (cs : List Column) (ig : Integration) :
    (cs.foldl require ig).compiled = ig.compiled ∧ (cs.foldl require ig).event = ig.event := by
  induction cs generalizing ig with
  | nil => exact ⟨rfl, rfl⟩
  | cons c cs ih => exact ih (ig.require c)

theorem IsSound.addRequired {room : Nat} {ig : Integration} (h : ig.IsSound room) :
    ig.addRequired.IsSound room := by
  rcases foldl_require_kept ig.requiredColumns ig with ⟨hcompiled, hevent⟩
  refine ⟨?_, ?_⟩
  · rw [Integration.addRequired, hcompiled]
    exact h.config
  · rw [Integration.addRequired, hevent]
    exact h.event

theorem IsSound.derive {room : Nat} {ig : Integration} (h : ig.IsSound room) :
    ig.derive.IsSound room :=
  ⟨h.addRequired.config, h.addRequired.event⟩

end Integration

namespace Config

theorem IsSound.validate {room : Nat} {c : Config} (h : c.IsSound room) :
    c.validate.1.IsSound room := by
  rw [Config.validate]
  split
  · exact h
  · exact forall_mem_validateAll _ (fun _ hig => hig.derive) c.integrations h

theorem IsSound.editAt {room : Nat} {c d : Config} {place : Nat} {f : Integration → Integration}
    (hc : c.IsSound room) (h : c.editAt place f = some d)
    (hf : ∀ ig, ig.IsSound room → (f ig).IsSound room) : d.IsSound room := by
  rw [Config.editAt] at h
  split at h
  · rw [← Option.some.inj h]
    exact forall_mem_modify _ f hf c.integrations place hc
  · exact nomatch h

theorem IsSound.changeInput {room : Nat} {c : Config} (place inputPlace : Nat)
    {change : Input → Input} (hchange : ∀ i : Input, i.IsSound room → (change i).IsSound room)
    (h : c.IsSound room) : (c.changeInput place inputPlace change).IsSound room := by
  refine forall_mem_modify _ _ (fun ig hig => ?_) c.integrations place h
  exact ⟨hig.config, hig.event.ascending, hig.event.others, hig.event.read,
    forall_mem_modify _ change hchange ig.event.inputs inputPlace hig.event.inputs⟩

theorem IsSound.apply {room : Nat} {c d : Config} {e : Edit} (hbuilt : e.IsBuilt)
    (hc : c.IsSound room) (h : e.apply c = some d) : d.IsSound room := by
  cases e with
  | declareSource s => exact Option.some.inj h ▸ hc
  | declareIntegration ig =>
      rcases hbuilt with ⟨name, table, rfl⟩
      rw [← Option.some.inj h]
      refine List.forall_mem_append.mpr ⟨hc, fun ig hig => ?_⟩
      have hblank := Format.isSound_blank room name
      rw [List.mem_singleton.mp hig]
      exact ⟨hblank.config, hblank.event⟩
  | removeIntegration place =>
      simp only [Edit.apply] at h
      split at h
      · rw [← Option.some.inj h]
        exact fun ig hig => hc ig (List.mem_of_mem_eraseIdx hig)
      · exact nomatch h
  -- These leave alone what is kept.
  | rename | setEnabled | addSource | renameTable | addColumn | addUnique | addBlockField
  | inferUnique => exact hc.editAt h fun _ hig => ⟨hig.config, hig.event⟩
  | setEvent place e =>
      exact hc.editAt h fun _ hig => ⟨hig.config, Event.IsBuilt.isSound hbuilt room⟩
  | addInput place i =>
      exact hc.editAt h fun _ hig =>
        ⟨hig.config, hig.event.addInput (Input.IsBuilt.isSound hbuilt room)⟩
  | addRequired place => exact hc.editAt h fun _ hig => hig.addRequired
  | uniteTables place other =>
      rcases Option.bind_eq_some_iff.mp h with ⟨_, _, h⟩
      exact hc.editAt h fun _ hig => ⟨hig.config, hig.event⟩

/-- A step leaves what is kept as documents have it. -/
theorem isSound_of_step {room : Nat} {c d : Config} (h : Step c d) (hc : c.IsSound room) :
    d.IsSound room := by
  cases h with
  | validate => exact hc.validate
  | edit e hbuilt happly => exact hc.apply hbuilt happly
  | index place inputPlace =>
      exact hc.changeInput place inputPlace fun _ hi => ⟨hi.ascending, hi.others, hi.read⟩
  | select place inputPlace column =>
      exact hc.changeInput place inputPlace fun _ hi => ⟨hi.ascending, hi.others, hi.read⟩

end Config

namespace Integration

/-- The integrations that come about by reading, among others or by themselves, and by the
    steps of a configuration of such integrations. -/
inductive Obtained : Integration → Prop where
  | declared {text : String} {c : Config} {ig : Integration} :
      Config.ofText text = .ok c → ig ∈ c.integrations → Obtained ig
  | bytes {context : String} {content : List UInt8} {ig : Integration} :
      ofBytes context content = .ok ig → Obtained ig
  /-- The value was parsed before. -/
  | value {context : String} {content : List UInt8} {v : Value} {ig : Integration} :
      Codec.any.ofBytes content = .ok v → ofValue context v = .ok ig → Obtained ig
  | step {c d : Config} {ig : Integration} :
      (∀ a ∈ c.integrations, Obtained a) → c.Step d → ig ∈ d.integrations → Obtained ig

-- A parsed value is read as the document is that it was parsed from.
theorem isSound_of_ofValue {context : String} {content : List UInt8} {v : Value}
    {ig : Integration} (hparsed : Codec.any.ofBytes content = .ok v)
    (hread : ofValue context v = .ok ig) : ig.IsSound (Codec.depthLimit - 4) := by
  rcases (Codec.ofDocument_eq_ok_iff _ _ _).mp hparsed with ⟨hroot, _⟩
  have hv := Value.isRead_of_value _ _ v hroot
  have halike := Format.readsValues_integration _ _ v (Value.value_tree_of_isRead hv)
    (Value.noRepeat_tree_of_isRead hv)
  have hdecoded : Format.integration.decode (.text Codec.depthLimit) v.tree = .ok ig :=
    (eq_ok_iff_of_toOption_eq _ _ halike ig).mpr ((mapError_eq_ok_iff _ _ _).mp hread)
  exact Format.isSound_of_decode_integration _ _ ig hdecoded

/-- What such an integration keeps is as documents have it, wherever it was read. -/
theorem Obtained.isSound {ig : Integration} (h : ig.Obtained) :
    ig.IsSound (Codec.depthLimit - 4) := by
  induction h with
  | @declared text c ig hread hmem =>
      rcases (Codec.ofDocument_eq_ok_iff _ _ _).mp ((mapError_eq_ok_iff _ _ _).mp hread) with
        ⟨hroot, _⟩
      have hsound := Format.isSound_of_decode_config (Codec.depthLimit - 6) _ c hroot ig hmem
      exact hsound.mono (by decide)
  | @bytes context content ig hread =>
      rcases (Codec.ofDocument_eq_ok_iff _ _ _).mp ((mapError_eq_ok_iff _ _ _).mp hread) with
        ⟨hroot, _⟩
      exact Format.isSound_of_decode_integration _ _ ig hroot
  | value hparsed hread => exact isSound_of_ofValue hparsed hread
  | step _ hstep hmem ih => exact Config.isSound_of_step hstep ih _ hmem

end Integration

/-! ### Reading back -/

namespace Integration

-- The value of an integration is what its document is worth, in key order.
theorem ofValue_value (ig : Integration) (context : String)
    (h : Format.integration.Carries Codec.depthLimit ig) :
    ofValue context ig.value = .ok ig := by
  have hread := Format.readsValues_integration _ _ _ (Value.value_tree_of_fits h.fits)
    (Value.noRepeat_tree_of_fits h.fits)
  rw [ofValue, mapError_eq_ok_iff, Codec.ofValue, value,
    ← eq_ok_iff_of_toOption_eq _ _ hread]
  exact h.reads

end Integration

namespace Config

theorem ofText_written (c : Config) (h : Format.config.Carries Codec.depthLimit c) :
    Config.ofText (Format.config.encode c).text = .ok c :=
  (mapError_eq_ok_iff _ _ _).mpr (Format.config.ofText_encode c h)

/-- A configuration is read back from a file that its text was written to. -/
theorem ofFile_written (c : Config) (h : Format.config.Carries Codec.depthLimit c) :
    Config.ofFile (.bytes (Text.bytes (Format.config.encode c).text)) = .ok c := by
  have htext : (FileContent.bytes (Text.bytes (Format.config.encode c).text)).text =
      .ok (Format.config.encode c).text := by
    rw [FileContent.text, Glyph.ofBytes_bytes, Glyph.ofText, Glyph.text?_map_some,
      String.ofList_toList]
  rw [Config.ofFile, htext]
  exact ofText_written c h

/-- A configuration whose integration keeps values that are not described. -/
def annotated : Config :=
  { Config.empty with
    databaseUrl := ⟨"$PG_URL"⟩
    integrations :=
      [{ Integration.withTable "transfers" ⟨"transfers", [⟨"amount", "numeric"⟩], []⟩ with
        compiled := ⟨"erc20", .array [.number (.negative 6), .null]⟩
        event :=
          { Event.named "Transfer" with
            inputs := [{ Input.plain "value" "uint256" with
              extra := [("internalType", .string "\"\n")] }]
            extra := [("docs", .object [("see", .string "\u00fc")])] } }] }

theorem isSound_annotated : annotated.IsSound (Codec.depthLimit - 6) := by
  refine List.forall_mem_singleton.mpr ⟨.array rfl ?_, List.pairwise_singleton _ _, ?_, ?_, ?_⟩
  · exact List.forall_mem_cons.mpr ⟨.number _ _, List.forall_mem_singleton.mpr (.null _)⟩
  · exact List.forall_mem_singleton.mpr rfl
  · exact List.forall_mem_singleton.mpr
      (.object rfl (List.pairwise_singleton _ _) (List.forall_mem_singleton.mpr (.string _ _)))
  · exact List.forall_mem_singleton.mpr ⟨List.pairwise_singleton _ _,
      List.forall_mem_singleton.mpr rfl, List.forall_mem_singleton.mpr (.string _ _)⟩

theorem isExact_annotated : annotated.IsExact := by
  refine List.forall_mem_singleton.mpr ⟨.array ?_, ?_, ?_⟩
  · exact List.forall_mem_cons.mpr ⟨.negative _, List.forall_mem_singleton.mpr .null⟩
  · exact List.forall_mem_singleton.mpr (.object (List.forall_mem_singleton.mpr (.string _)))
  · exact List.forall_mem_singleton.mpr (List.forall_mem_singleton.mpr (.string _))

end Config

end EventTables
