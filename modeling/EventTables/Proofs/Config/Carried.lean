import EventTables.Config.Format
import EventTables.Proofs.Json.Written

/-!
# Configurations That Were Written

Which configurations come back when their documents are read.

Every part of a configuration is carried, with two exceptions: what a compiled
integration holds, and the members that events and inputs keep without a
description. Both are JSON values that came from a document or from nowhere, and
what makes them carry is what they have from there. Their members are in key
order, they do not go deeper than the document allowed at their place, and no
member that is kept has the name of a described one (`Integration.IsSound`). What
is left to ask is that their numbers are exact.

The places count down from the outermost object. Where `room` more arrays and
objects may be opened inside the kept members of an input, it is two more in an
event, and four more outside of an integration.

## Main definitions

* `Input.IsSound`, `Event.IsSound`, `Integration.IsSound`, `Config.IsSound`: What
  is kept without a description is as documents have it.
* `Integration.IsExact`, `Config.IsExact`: The numbers in it are exact.

## Theorems

* `Format.carries_integration`, `Format.carries_config`: What is sound and exact
  is carried.
* `Format.isExact_encode_integration`: Numbers stay exact when they are written.
* `Format.isSound_of_decode_integration`, `Format.isSound_of_decode_config`: What
  is read is sound.
-/

namespace EventTables

open Json

/-! ### What is kept without a description -/

/-- The members that an input keeps are as documents have them, at a place where
    so many arrays and objects may be opened. -/
structure Input.IsSound (room : Nat) (i : Input) : Prop where
  ascending : Keyed.Ascending i.extra
  others : ∀ e ∈ i.extra, Format.inputShape.knows e.1 = false
  read : ∀ e ∈ i.extra, e.2.IsRead (.text room)

/-- The members that an event and its inputs keep are as documents have them. -/
structure Event.IsSound (room : Nat) (e : Event) : Prop where
  ascending : Keyed.Ascending e.extra
  others : ∀ m ∈ e.extra, Format.eventShape.knows m.1 = false
  read : ∀ m ∈ e.extra, m.2.IsRead (.text (room + 2))
  inputs : ∀ i ∈ e.inputs, i.IsSound room

/-- What an integration keeps without a description is as documents have it. -/
structure Integration.IsSound (room : Nat) (ig : Integration) : Prop where
  config : ig.compiled.config.IsRead (.text (room + 2))
  event : ig.event.IsSound room

theorem Integration.IsSound.mono {room more : Nat} {ig : Integration} (h : ig.IsSound room)
    (hmore : room ≤ more) : ig.IsSound more where
  config := h.config.mono (Nat.add_le_add_right hmore 2)
  event :=
    { ascending := h.event.ascending
      others := h.event.others
      read := fun m hm => (h.event.read m hm).mono (Nat.add_le_add_right hmore 2)
      inputs := fun i hi =>
        { ascending := (h.event.inputs i hi).ascending
          others := (h.event.inputs i hi).others
          read := fun e he => ((h.event.inputs i hi).read e he).mono hmore } }

/-- What the integrations keep without a description is as the document of a
    configuration has it. -/
def Config.IsSound (room : Nat) (c : Config) : Prop :=
  ∀ ig ∈ c.integrations, ig.IsSound room

/-- All numbers in what an integration keeps without a description are exact. -/
structure Integration.IsExact (ig : Integration) : Prop where
  config : ig.compiled.config.IsExact
  event : ∀ m ∈ ig.event.extra, m.2.IsExact
  inputs : ∀ i ∈ ig.event.inputs, ∀ e ∈ i.extra, e.2.IsExact

/-- All numbers in what a configuration keeps without a description are exact. -/
def Config.IsExact (c : Config) : Prop :=
  ∀ ig ∈ c.integrations, ig.IsExact

namespace Format

/-! ### Carrying -/

theorem carries_setting (room : Nat) (s : Setting) : setting.Carries room s :=
  Codec.carries_convert _ _ _ room s rfl (Codec.carries_string room s.text)

theorem carries_source (room : Nat) (s : Source) : source.Carries (room + 1) s :=
  Shape.carries_closed room s _ (by decide)
    (.cons (Member.restores_needed (Codec.carries_string room s.name)) <|
     .cons (Member.restores_withDefault (Codec.carries_uint64 room s.chainId)) <|
     .cons (Member.restores_withDefault (carries_setting room s.url)) <|
     .cons (Member.restores_withDefault (Codec.carries_uint64 room s.start)) <|
     .cons (Member.restores_withDefault (Codec.carries_uint64 room s.stop)) <|
     .cons (Member.restores_withDefault (Codec.carries_uint32 room s.concurrency)) <|
     .cons (Member.restores_withDefault (Codec.carries_uint32 room s.batchSize)) .nil)
    rfl

theorem carries_sources (room : Nat) (ss : List Source) :
    (Codec.listOf source).Carries (room + 2) ss :=
  Codec.carries_listOf _ _ ss fun s _ => carries_source room s

theorem carries_column (room : Nat) (c : Column) : column.Carries (room + 1) c :=
  Shape.carries_closed room c _ (by decide)
    (.cons (Member.restores_needed (Codec.carries_string room c.name)) <|
     .cons (Member.restores_needed (Codec.carries_string room c.type)) .nil)
    rfl

theorem carries_table (room : Nat) (t : Table) : table.Carries (room + 3) t :=
  Shape.carries_closed (room + 2) t _ (by decide)
    (.cons (Member.restores_needed (Codec.carries_string _ t.name)) <|
     .cons (Member.restores_withDefault
       (Codec.carries_listOf _ _ t.columns fun c _ => carries_column room c)) <|
     .cons (Member.restores_withDefault
       (Codec.carries_listOf _ _ t.unique fun group _ =>
         Codec.carries_listOf _ room group fun name _ => Codec.carries_string room name)) .nil)
    rfl

theorem carries_blockField (room : Nat) (b : BlockField) : blockField.Carries (room + 1) b :=
  Shape.carries_closed room b _ (by decide)
    (.cons (Member.restores_needed (Codec.carries_string room b.name)) <|
     .cons (Member.restores_withDefault (Codec.carries_string room b.column)) .nil)
    rfl

theorem carries_kept {room : Nat} {v : Value} (hread : v.IsRead (.text room))
    (hexact : v.IsExact) : Codec.any.Carries room v :=
  Codec.carries_any room v hread.parsed (Value.fits_of_isRead hread hexact)

-- Members that are kept in key order are put back one by one.
theorem foldl_keep {α : Type} (holding : Keyed String Value → α) (add : String → Value → α → α)
    (hadd : ∀ k v kept, add k v (holding kept) = holding (kept.put k v))
    (extra : Keyed String Value) (h : Keyed.Ascending extra) :
    extra.foldl (fun a e => add e.1 e.2 a) (holding []) = holding extra := by
  refine Eq.trans (List.foldl_hom holding fun kept e => ?_)
    (congrArg holding (Keyed.ofList_of_ascending _ h))
  exact hadd e.1 e.2 kept

theorem carries_input (room : Nat) (i : Input) (hsound : i.IsSound room)
    (hexact : ∀ e ∈ i.extra, e.2.IsExact) : input.Carries (room + 1) i := by
  refine Shape.carries_opened _ _ room i _ (by decide)
    (.cons (Member.restores_needed (Codec.carries_string room i.name)) <|
     .cons (Member.restores_withDefault (Codec.carries_string room i.type)) <|
     .cons (Member.restores_withDefault (Codec.carries_boolean room i.indexed)) <|
     .cons (Member.restores_optional fun v _ =>
       ⟨Codec.carries_string room v, fun h => nomatch h⟩) <|
     .cons (Member.restores_optional fun v _ =>
       ⟨Codec.carries_string room v, fun h => nomatch h⟩) .nil)
    (Keyed.nodup_keys_of_ascending _ hsound.ascending) hsound.others
    (fun e he => carries_kept (hsound.read e he) (hexact e he)) ?_
  -- The described members bring back all but what is kept.
  rcases i with ⟨name, type, indexed, _ | column, _ | columnType, extra⟩ <;>
    exact foldl_keep (fun kept => Input.mk name type indexed _ _ kept)
      (fun k v i => { i with extra := i.extra.put k v }) (fun _ _ _ => rfl) extra hsound.ascending

theorem carries_event (room : Nat) (e : Event) (hsound : e.IsSound room)
    (hexact : ∀ m ∈ e.extra, m.2.IsExact)
    (hinputs : ∀ i ∈ e.inputs, ∀ m ∈ i.extra, m.2.IsExact) : event.Carries (room + 3) e :=
  Shape.carries_opened _ _ (room + 2) e _ (by decide)
    (.cons (Member.restores_withDefault (Codec.carries_string _ e.name)) <|
     .cons (Member.restores_withDefault (Codec.carries_string _ e.type)) <|
     .cons (Member.restores_withDefault (Codec.carries_boolean _ e.anonymous)) <|
     .cons (Member.restores_withDefault
       (Codec.carries_listOf _ _ e.inputs fun i hi =>
         carries_input room i (hsound.inputs i hi) (hinputs i hi))) .nil)
    (Keyed.nodup_keys_of_ascending _ hsound.ascending) hsound.others
    (fun m hm => carries_kept (hsound.read m hm) (hexact m hm))
    (foldl_keep (fun kept => { e with extra := kept })
      (fun k v e => { e with extra := e.extra.put k v }) (fun _ _ _ => rfl) e.extra
      hsound.ascending)

theorem carries_compiled (room : Nat) (c : Compiled) (hread : c.config.IsRead (.text room))
    (hexact : c.config.IsExact) : compiled.Carries (room + 1) c :=
  Shape.carries_closed room c _ (by decide)
    (.cons (Member.restores_withDefault (Codec.carries_string room c.name)) <|
     .cons (Member.restores_withDefault (carries_kept hread hexact)) .nil)
    rfl

/-- An integration is carried if what it keeps is sound and exact. -/
theorem carries_integration (room : Nat) (ig : Integration) (hsound : ig.IsSound room)
    (hexact : ig.IsExact) : integration.Carries (room + 4) ig :=
  Shape.carries_closed (room + 3) ig _ (by decide)
    (.cons (Member.restores_needed (Codec.carries_string _ ig.name)) <|
     .cons (Member.restores_withDefault (Codec.carries_boolean _ ig.enabled)) <|
     .cons (Member.restores_withDefault (carries_sources (room + 1) ig.sources)) <|
     .cons (Member.restores_withDefault (carries_table room ig.table)) <|
     .cons (Member.restores_withDefault
       (carries_compiled (room + 2) ig.compiled hsound.config hexact.config)) <|
     .cons (Member.restores_withDefault
       (Codec.carries_listOf _ _ ig.block fun b _ => carries_blockField (room + 1) b)) <|
     .cons (Member.restores_withDefault
       (carries_event room ig.event hsound.event hexact.event hexact.inputs)) .nil)
    rfl

/-! ### Numbers

What is written has no numbers but those of the fixed parts, which are exact, and those
that are kept without a description. That is so even of an integration that is not carried.
-/

-- The last two members of an input may be missing.
theorem isExact_encode_input (i : Input) (h : ∀ e ∈ i.extra, e.2.IsExact) :
    (input.encode i).IsExact := by
  refine Shape.isExact_write i i.extra ⟨?_, ?_, ?_, ?_, ?_⟩ h
  · exact fun v hv => Option.some.inj hv ▸ .string _
  · exact fun v hv => Option.some.inj hv ▸ .string _
  · exact fun v hv => Option.some.inj hv ▸ .boolean _
  · intro v hv
    rcases Option.map_eq_some_iff.mp hv with ⟨column, _, rfl⟩
    exact .string column
  · intro v hv
    rcases Option.map_eq_some_iff.mp hv with ⟨type, _, rfl⟩
    exact .string type

theorem isExact_encode_event (e : Event) (h : ∀ m ∈ e.extra, m.2.IsExact)
    (hinputs : ∀ i ∈ e.inputs, ∀ m ∈ i.extra, m.2.IsExact) : (event.encode e).IsExact := by
  refine Shape.isExact_write e e.extra ⟨?_, ?_, ?_, ?_⟩ h
  · exact fun v hv => Option.some.inj hv ▸ .string _
  · exact fun v hv => Option.some.inj hv ▸ .string _
  · exact fun v hv => Option.some.inj hv ▸ .boolean _
  · intro v hv
    rw [← Option.some.inj hv]
    refine .array fun w hw => ?_
    rcases List.mem_map.mp hw with ⟨i, hi, rfl⟩
    exact isExact_encode_input i (hinputs i hi)

theorem isExact_encode_compiled (c : Compiled) (h : c.config.IsExact) :
    (compiled.encode c).IsExact := by
  have hwrite := Shape.isExact_write (s := compiledShape) c []
    ⟨fun v hv => Option.some.inj hv ▸ .string _, fun v hv => Option.some.inj hv ▸ h⟩
    (List.forall_mem_nil _)
  rwa [List.append_nil] at hwrite

/-- If the numbers that it keeps are exact, all numbers are that are written for an
    integration. -/
theorem isExact_encode_integration (ig : Integration) (h : ig.IsExact) :
    (integration.encode ig).IsExact := by
  have hwrite := Shape.isExact_write (s := integrationShape) ig [] ⟨?_, ?_, ?_, ?_, ?_, ?_, ?_⟩
    (List.forall_mem_nil _)
  · rwa [List.append_nil] at hwrite
  · exact fun v hv => Option.some.inj hv ▸ .string _
  · exact fun v hv => Option.some.inj hv ▸ .boolean _
  · exact fun v hv => Option.some.inj hv ▸ (carries_sources 0 ig.sources).fits.isExact
  · exact fun v hv => Option.some.inj hv ▸ (carries_table 0 ig.table).fits.isExact
  · exact fun v hv => Option.some.inj hv ▸ isExact_encode_compiled ig.compiled h.config
  · have hblock := Codec.carries_listOf _ _ ig.block fun b _ => carries_blockField 0 b
    exact fun v hv => Option.some.inj hv ▸ hblock.fits.isExact
  · exact fun v hv => Option.some.inj hv ▸ isExact_encode_event ig.event h.event h.inputs

theorem carries_dashboard (room : Nat) (d : Dashboard) : dashboard.Carries (room + 1) d :=
  Shape.carries_closed room d _ (by decide)
    (.cons (Member.restores_withDefault (Codec.carries_boolean room d.enableLoopbackAuthn)) <|
     .cons (Member.restores_withDefault (Codec.carries_boolean room d.disableAuthn)) <|
     .cons (Member.restores_withDefault (carries_setting room d.rootPassword)) .nil)
    rfl

/-- A configuration is carried if what its integrations keep is sound and
    exact. -/
theorem carries_config (room : Nat) (c : Config) (hsound : c.IsSound room)
    (hexact : c.IsExact) : config.Carries (room + 6) c :=
  Shape.carries_closed (room + 5) c _ (by decide)
    (.cons (Member.restores_withDefault (carries_dashboard (room + 4) c.dashboard)) <|
     .cons (Member.restores_withDefault (carries_setting _ c.databaseUrl)) <|
     .cons (Member.restores_withDefault (carries_sources (room + 3) c.sources)) <|
     .cons (Member.restores_withDefault
       (Codec.carries_listOf _ _ c.integrations fun ig hig =>
         carries_integration room ig (hsound ig hig) (hexact ig hig))) .nil)
    rfl

/-! ### Reading -/

-- One array or object further in there is room for one less.
theorem eq_text_of_enter {room : Nat} {inner : Origin}
    (h : (Origin.text (room + 1)).enter = .ok inner) : inner = .text room :=
  (Except.ok.inj h).symm

-- Where nothing is kept, nothing can be amiss.
theorem isSound_plain (room : Nat) (name type : String) : (Input.plain name type).IsSound room :=
  ⟨Keyed.ascending_nil, List.forall_mem_nil _, List.forall_mem_nil _⟩

theorem isSound_bare (room : Nat) (name type : String) :
    (⟨name, type, false, [], []⟩ : Event).IsSound room :=
  ⟨Keyed.ascending_nil, List.forall_mem_nil _, List.forall_mem_nil _, List.forall_mem_nil _⟩

theorem isSound_blank (room : Nat) (name : String) : (Integration.blank name).IsSound room :=
  ⟨.null _, isSound_bare room "" ""⟩

theorem isSound_empty (room : Nat) : Config.empty.IsSound room :=
  List.forall_mem_nil _

theorem isSound_of_decode_input (room : Nat) (t : Tree) (i : Input)
    (h : input.decode (.text (room + 1)) t = .ok i) : i.IsSound room := by
  refine Shape.decode_opened_preserves _ _ _ (Input.IsSound room) (isSound_plain room "" "")
    (fun inner _ => ?_) (fun inner hinner name v i hname hv hi => ?_) t i h
  · exact ⟨Member.keeps_needed fun _ _ _ _ hi => ⟨hi.1, hi.2, hi.3⟩,
      Member.keeps_withDefault fun _ _ _ _ hi => ⟨hi.1, hi.2, hi.3⟩,
      Member.keeps_withDefault fun _ _ _ _ hi => ⟨hi.1, hi.2, hi.3⟩,
      Member.keeps_optional fun _ _ hi => ⟨hi.1, hi.2, hi.3⟩,
      Member.keeps_optional fun _ _ hi => ⟨hi.1, hi.2, hi.3⟩⟩
  · rw [eq_text_of_enter hinner] at hv
    exact ⟨Keyed.ascending_put name v i.extra hi.ascending, Keyed.forall_mem_put hname hi.others,
      Keyed.forall_mem_put hv hi.read⟩

theorem isSound_of_decode_event (room : Nat) (t : Tree) (e : Event)
    (h : event.decode (.text (room + 3)) t = .ok e) : e.IsSound room := by
  refine Shape.decode_opened_preserves _ _ _ (Event.IsSound room) (isSound_bare room "" "")
    (fun inner hinner => ?_) (fun inner hinner name v e hname hv he => ?_) t e h
  · rw [eq_text_of_enter hinner]
    refine ⟨Member.keeps_withDefault fun _ _ _ _ he => ⟨he.1, he.2, he.3, he.4⟩,
      Member.keeps_withDefault fun _ _ _ _ he => ⟨he.1, he.2, he.3, he.4⟩,
      Member.keeps_withDefault fun _ _ _ _ he => ⟨he.1, he.2, he.3, he.4⟩,
      Member.keeps_withDefault fun t is e his he =>
        ⟨he.ascending, he.others, he.read, fun i hi => ?_⟩⟩
    · rcases Codec.exists_of_decode_listOf _ _ t is his i hi with ⟨inner, u, hinner, hu⟩
      rw [eq_text_of_enter hinner] at hu
      exact isSound_of_decode_input room u i hu
  · rw [eq_text_of_enter hinner] at hv
    exact ⟨Keyed.ascending_put name v e.extra he.ascending, Keyed.forall_mem_put hname he.others,
      Keyed.forall_mem_put hv he.read, he.inputs⟩

theorem isRead_of_decode_compiled (room : Nat) (t : Tree) (c : Compiled)
    (h : compiled.decode (.text (room + 1)) t = .ok c) : c.config.IsRead (.text room) := by
  refine Shape.decode_closed_preserves _ (fun c => c.config.IsRead (.text room)) (.null _)
    (fun inner hinner => ?_) t c h
  rw [eq_text_of_enter hinner]
  exact ⟨Member.keeps_withDefault fun _ _ _ _ hc => hc,
    Member.keeps_withDefault fun t v _ hv _ => Value.isRead_of_value t _ v hv⟩

/-- What an integration that was read keeps is sound. -/
theorem isSound_of_decode_integration (room : Nat) (t : Tree) (ig : Integration)
    (h : integration.decode (.text (room + 4)) t = .ok ig) : ig.IsSound room := by
  refine Shape.decode_closed_preserves _ (Integration.IsSound room) (isSound_blank room "")
    (fun inner hinner => ?_) t ig h
  rw [eq_text_of_enter hinner]
  exact ⟨Member.keeps_needed fun _ _ _ _ hig => ⟨hig.config, hig.event⟩,
    Member.keeps_withDefault fun _ _ _ _ hig => ⟨hig.config, hig.event⟩,
    Member.keeps_withDefault fun _ _ _ _ hig => ⟨hig.config, hig.event⟩,
    Member.keeps_withDefault fun _ _ _ _ hig => ⟨hig.config, hig.event⟩,
    Member.keeps_withDefault fun t c _ hc hig =>
      ⟨isRead_of_decode_compiled (room + 2) t c hc, hig.event⟩,
    Member.keeps_withDefault fun _ _ _ _ hig => ⟨hig.config, hig.event⟩,
    Member.keeps_withDefault fun t e _ he hig =>
      ⟨hig.config, isSound_of_decode_event room t e he⟩⟩

/-- What a configuration that was read keeps is sound. -/
theorem isSound_of_decode_config (room : Nat) (t : Tree) (c : Config)
    (h : config.decode (.text (room + 6)) t = .ok c) : c.IsSound room := by
  refine Shape.decode_closed_preserves _ (Config.IsSound room)
    (isSound_empty room) (fun inner hinner => ?_) t c h
  rw [eq_text_of_enter hinner]
  refine ⟨Member.keeps_withDefault fun _ _ _ _ hc => hc,
    Member.keeps_withDefault fun _ _ _ _ hc => hc, Member.keeps_withDefault fun _ _ _ _ hc => hc,
    Member.keeps_withDefault fun t igs _ higs _ ig hig => ?_⟩
  rcases Codec.exists_of_decode_listOf _ _ t igs higs ig hig with ⟨inner, u, hinner, hu⟩
  rw [eq_text_of_enter hinner] at hu
  exact isSound_of_decode_integration room u ig hu

end Format

end EventTables
