import EventTables.Proofs.Json.Record

/-!
# Records That Were Written

What is written for a record is read back as that record.

A record is written as an object with one member after another, a missing one left
out. Reading starts from the blank record, and each member that was written sets
its part again. What is left out must therefore be in the blank record as it was
in the one that was written (`Member.Restores`). A record that keeps members which
are not described writes them after the others, so none of them may have the name
of a described one: it would be a repeated member.

## Main definitions

* `Member.Restores`: What is written for a member sets it again.

## Theorems

* `Member.restores_needed`, `Member.restores_withDefault`,
  `Member.restores_optional`: The three kinds of members.
* `readObject_write`: The members that were written lead back to the record.
* `isExact_write`: The numbers of an object that is written are exact.
* `carries_closed`, `carries_opened`: A record that is written is read back.
-/

namespace EventTables

namespace Json

variable {α β : Type}

namespace Member

/-- What is written for the member of a record, if anything, is read back and then
    changes any record as `u` does. -/
structure Restores (m : Member α) (room : Nat) (a : α) (u : α → α) : Prop where
  fits : ∀ v, m.load a = some v → v.Fits room
  stores : ∀ v, m.load a = some v → ∀ b, m.store (.text room) v.tree b = .ok (u b)
  missing : m.load a = none → m.required = false ∧ ∀ b, u b = b

theorem restores_needed {name : String} {c : Codec β} {get : α → β} {set : β → α → α}
    {room : Nat} {a : α} (h : c.Carries room (get a)) :
    (needed name c get set).Restores room a (set (get a)) where
  fits v hv := Option.some.inj hv ▸ h.fits
  stores v hv b := by
    rw [← Option.some.inj hv]
    exact congrArg (Except.map (set · b)) h.reads
  missing hv := nomatch hv

theorem restores_withDefault {name : String} {c : Codec β} {get : α → β} {set : β → α → α}
    {room : Nat} {a : α} (h : c.Carries room (get a)) :
    (withDefault name c get set).Restores room a (set (get a)) := by
  have hneeded : (needed name c get set).Restores room a (set (get a)) := restores_needed h
  exact ⟨hneeded.fits, hneeded.stores, fun hv => nomatch hv⟩

/-- Sets what is given, and leaves the record alone if nothing is. -/
def setGiven (set : Option β → α → α) : Option β → α → α
  | some v, a => set (some v) a
  | none, a => a

-- What is missing is written as nothing, so what is written must not be read as
-- missing.
theorem restores_optional {name : String} {c : Codec β} {get : α → Option β}
    {set : Option β → α → α} {room : Nat} {a : α}
    (h : ∀ v, get a = some v → c.Carries room v ∧ c.encode v ≠ .null) :
    (optional name c get set).Restores room a (setGiven set (get a)) := by
  rcases hget : get a with _ | v
  · refine ⟨fun v hv => ?_, fun v hv => ?_, fun _ => ⟨rfl, fun _ => rfl⟩⟩ <;>
      simp only [optional, hget, Option.map_none, reduceCtorEq] at hv
  · rcases h v hget with ⟨hcarries, hnull⟩
    have hload : (optional name c get set).load a = some (c.encode v) := by
      simp only [optional, hget, Option.map_some]
    refine ⟨fun w hw => ?_, fun w hw b => ?_, fun hw => ?_⟩
    · rw [← Option.some.inj (hload.symm.trans hw)]
      exact hcarries.fits
    · rw [← Option.some.inj (hload.symm.trans hw)]
      have hreads := hcarries.reads
      generalize c.encode v = w at hnull hreads
      cases w with
      | null => exact absurd rfl hnull
      | _ => exact congrArg (Except.map fun v => set (some v) b) hreads
    · exact absurd (hload.symm.trans hw) (Option.some_ne_none _)

end Member

namespace Shape

variable {s : Shape α}

theorem find?_of_mem (hnames : (s.members.map (·.name)).Nodup) {m : Member α}
    (hm : m ∈ s.members) : (s.members.find? fun n => n.name == m.name) = some m := by
  rcases hfind : s.members.find? fun n => n.name == m.name with _ | n
  · exact absurd (beq_self_eq_true m.name) (List.find?_eq_none.mp hfind m hm)
  · exact hfind.trans (congrArg some (List.inj_on_of_nodup_map hnames
      (List.mem_of_find?_eq_some hfind) hm (s.name_of_find? hfind)))

/-- The members that are written restore the record one by one. -/
theorem foldl_step_write (unknown : String → Tree → α → Except Error α) (room : Nat) (a : α)
    (hnames : (s.members.map (·.name)).Nodup) (ms : List (Member α)) (us : List (α → α))
    (hmembers : ∀ m ∈ ms, m ∈ s.members)
    (h : List.Forall₂ (fun m u => m.Restores room a u) ms us) (b : α) :
    ((ms.filterMap fun m => (m.load a).map fun v => (m.name, v)).map
        fun e => (e.1, e.2.tree)).foldl (s.step (.text room) unknown) (some b) =
      some (us.foldl (fun b u => u b) b) := by
  induction h generalizing b with
  | nil => rfl
  | @cons m u ms us hm _ ih =>
      rcases List.forall_mem_cons.mp hmembers with ⟨hmem, hmems⟩
      rcases hload : m.load a with _ | v
      · rw [List.filterMap_cons_none (by rw [hload]; rfl), List.foldl_cons, (hm.missing hload).2 b]
        exact ih hmems b
      · rw [List.filterMap_cons_some (by rw [hload]; rfl), List.map_cons, List.foldl_cons,
          List.foldl_cons, ← ih hmems (u b)]
        congr 1
        rw [step, Option.bind_some, take_of_known s (.text room) _ (find?_of_mem hnames hmem),
          hm.stores v hload b]
        rfl

theorem foldl_step_extra (unknown : String → Tree → α → Except Error α) (o : Origin)
    (add : String → Value → α → α) (extra : List (String × Value))
    (hother : ∀ e ∈ extra, s.knows e.1 = false)
    (hadd : ∀ e ∈ extra, ∀ b, unknown e.1 e.2.tree b = .ok (add e.1 e.2 b)) (b : α) :
    (extra.map fun e => (e.1, e.2.tree)).foldl (s.step o unknown) (some b) =
      some (extra.foldl (fun b e => add e.1 e.2 b) b) := by
  induction extra generalizing b with
  | nil => rfl
  | cons e extra ih =>
      rcases List.forall_mem_cons.mp hother with ⟨hname, hnames⟩
      rcases List.forall_mem_cons.mp hadd with ⟨he, hes⟩
      rw [List.map_cons, List.foldl_cons, List.foldl_cons, ← ih hnames hes (add e.1 e.2 b)]
      congr 1
      rw [step, Option.bind_some, take_of_other s o unknown (s.find?_of_knows_eq_false hname), he]
      rfl

theorem sublist_names_write (a : α) (ms : List (Member α)) :
    ((ms.filterMap fun m => (m.load a).map fun v => (m.name, v)).map (·.1)).Sublist
      (ms.map (·.name)) := by
  induction ms with
  | nil => exact .slnil
  | cons m ms ih =>
      rcases hload : m.load a with _ | v
      · rw [List.filterMap_cons_none (by rw [hload]; rfl), List.map_cons]
        exact ih.cons m.name
      · rw [List.filterMap_cons_some (by rw [hload]; rfl), List.map_cons, List.map_cons]
        exact ih.cons_cons m.name

theorem nodup_names_write (a : α) (extra : List (String × Value))
    (hnames : (s.members.map (·.name)).Nodup) (hextra : (extra.map (·.1)).Nodup)
    (hother : ∀ e ∈ extra, s.knows e.1 = false) :
    ((s.write a ++ extra).map (·.1)).Nodup := by
  have hsublist := sublist_names_write a s.members
  rw [List.map_append, List.nodup_append]
  refine ⟨hsublist.nodup hnames, hextra, fun name hname name' hname' heq => ?_⟩
  rcases List.mem_map.mp (hsublist.subset hname) with ⟨m, hm, rfl⟩
  rcases List.mem_map.mp hname' with ⟨e, he, rfl⟩
  have hknown : s.knows e.1 = true := List.find?_isSome.mpr ⟨m, hm, beq_iff_eq.mpr heq⟩
  rw [hother e he] at hknown
  exact nomatch hknown

theorem complete_write (a : α) (extra : List (String × Value))
    (h : ∀ m ∈ s.members, m.load a = none → m.required = false) :
    s.complete ((s.write a ++ extra).map (·.1)) = true := by
  refine List.all_eq_true.mpr fun m hm => ?_
  rcases hload : m.load a with _ | v
  · rw [h m hm hload]
    rfl
  · have hmem : m.name ∈ (s.write a ++ extra).map (·.1) := by
      refine List.mem_map.mpr ⟨(m.name, v), List.mem_append_left _ ?_, rfl⟩
      exact List.mem_filterMap.mpr ⟨m, hm, by rw [hload]; rfl⟩
    rw [List.contains_iff_mem.mpr hmem, Bool.or_true]

-- Every member of the record comes with what restores it.
theorem exists_restores {ms : List (Member α)} {us : List (α → α)} {room : Nat} {a : α}
    (h : List.Forall₂ (fun m u => m.Restores room a u) ms us) (m : Member α) (hm : m ∈ ms) :
    ∃ u, m.Restores room a u := by
  induction h with
  | nil => exact absurd hm List.not_mem_nil
  | cons hhead _ ih =>
      rcases List.mem_cons.mp hm with rfl | hm
      · exact ⟨_, hhead⟩
      · exact ih hm

/-- What is written for a record, and for what it keeps besides, is read back. -/
theorem readObject_write (unknown : Origin → String → Tree → α → Except Error α)
    (add : String → Value → α → α) (room : Nat) (a : α) (us : List (α → α))
    (extra : List (String × Value)) (hnames : (s.members.map (·.name)).Nodup)
    (h : List.Forall₂ (fun m u => m.Restores room a u) s.members us)
    (hextra : (extra.map (·.1)).Nodup) (hother : ∀ e ∈ extra, s.knows e.1 = false)
    (hadd : ∀ e ∈ extra, ∀ b, unknown (.text room) e.1 e.2.tree b = .ok (add e.1 e.2 b)) :
    s.readObject (.text (room + 1)) unknown (Value.memberTrees (s.write a ++ extra)) none =
      .ok (extra.foldl (fun b e => add e.1 e.2 b) (us.foldl (fun b u => u b) s.blank)) := by
  have hkeys : ((s.write a ++ extra).map fun e => (e.1, e.2.tree)).map (·.1) =
      (s.write a ++ extra).map (·.1) := List.map_map
  have hentries : Value.memberTrees (s.write a ++ extra) =
      ((s.write a ++ extra).map fun e => (e.1, e.2.tree)).map entry := by
    rw [Value.memberTrees_eq_map, List.map_map]
    rfl
  have hcomplete := complete_write a extra fun m hm hload =>
    let ⟨_, hu⟩ := exists_restores h m hm
    (hu.missing hload).1
  rw [← toOption_eq_some_iff, hentries, toOption_readObject s _ (.text room) unknown _ rfl
    (hkeys ▸ nodup_names_write a extra hnames hextra hother), hkeys, if_pos hcomplete,
    List.map_append, List.foldl_append, write,
    foldl_step_write (unknown (.text room)) room a hnames s.members us (fun _ hm => hm) h]
  exact foldl_step_extra (unknown (.text room)) (.text room) add extra hother hadd _

theorem fits_write (room : Nat) (a : α) (us : List (α → α)) (extra : List (String × Value))
    (hnames : (s.members.map (·.name)).Nodup)
    (h : List.Forall₂ (fun m u => m.Restores room a u) s.members us)
    (hextra : (extra.map (·.1)).Nodup) (hother : ∀ e ∈ extra, s.knows e.1 = false)
    (hfits : ∀ e ∈ extra, e.2.Fits room) :
    (Value.object (s.write a ++ extra)).Fits (room + 1) := by
  refine .object (nodup_names_write a extra hnames hextra hother) fun e he => ?_
  rcases List.mem_append.mp he with he | he
  · rcases List.mem_filterMap.mp he with ⟨m, hm, hload⟩
    rcases exists_restores h m hm with ⟨u, hu⟩
    rcases Option.map_eq_some_iff.mp hload with ⟨v, hv, rfl⟩
    exact hu.fits v hv
  · exact hfits e he

-- The numbers of an object that is written are those of its members.
theorem isExact_write (a : α) (extra : List (String × Value))
    (h : s.members.Forall fun m => ∀ v, m.load a = some v → v.IsExact)
    (hextra : ∀ e ∈ extra, e.2.IsExact) : (Value.object (s.write a ++ extra)).IsExact := by
  refine .object fun e he => ?_
  rcases List.mem_append.mp he with he | he
  · rcases List.mem_filterMap.mp he with ⟨m, hm, hload⟩
    rcases Option.map_eq_some_iff.mp hload with ⟨v, hv, rfl⟩
    exact List.forall_iff_forall_mem.mp h m hm v hv
  · exact hextra e he

theorem carries_closed (room : Nat) (a : α) (us : List (α → α))
    (hnames : (s.members.map (·.name)).Nodup)
    (h : List.Forall₂ (fun m u => m.Restores room a u) s.members us)
    (hall : us.foldl (fun b u => u b) s.blank = a) : s.closed.Carries (room + 1) a where
  fits := by
    have hfits := fits_write room a us [] hnames h .nil (List.forall_mem_nil _)
      (List.forall_mem_nil _)
    rwa [List.append_nil] at hfits
  reads := by
    have hread := readObject_write (fun _ _ t a => t.skip.map fun _ => a)
      (fun _ _ b => b) room a us [] hnames h .nil (List.forall_mem_nil _) (List.forall_mem_nil _)
    rw [List.append_nil, List.foldl_nil, hall] at hread
    exact hread

theorem carries_opened (add : String → Value → α → α) (extra : α → List (String × Value))
    (room : Nat) (a : α) (us : List (α → α)) (hnames : (s.members.map (·.name)).Nodup)
    (h : List.Forall₂ (fun m u => m.Restores room a u) s.members us)
    (hextra : ((extra a).map (·.1)).Nodup) (hother : ∀ e ∈ extra a, s.knows e.1 = false)
    (hcarries : ∀ e ∈ extra a, Codec.any.Carries room e.2)
    (hall : (extra a).foldl (fun b e => add e.1 e.2 b) (us.foldl (fun b u => u b) s.blank) = a) :
    (s.opened add extra).Carries (room + 1) a where
  fits := fits_write room a us (extra a) hnames h hextra hother fun e he => (hcarries e he).fits
  reads := by
    have hread := readObject_write
      (fun inner name t a => (t.value inner).map (add name · a)) add room a us (extra a)
      hnames h hextra hother fun e he b => congrArg (Except.map (add e.1 · b)) (hcarries e he).reads
    rw [hall] at hread
    exact hread

end Shape

end Json

end EventTables
