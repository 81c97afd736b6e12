import EventTables.Proofs.Keyed
import EventTables.Store.Effective

/-!
# Laws of Effective Records

Which of the declared and stored records count.

Sources and integrations are put together in the same way, only under different
keys, so what is said here is said of records with any key. One history is made of
what is stored and what is declared, and of several records under one key the last
one in it counts. Told from behind, that is the last declared one, and a stored one
only where none is declared. Whether a record counts is a question to the two lists
that the answer for other keys has no part in, which is why a record that was
replaced leaves no trace in any result. What is stored has a say only under keys that
are not declared, and there by its last record alone (`map_effectiveRecords_eq_iff`).

## Main definitions

* `latest?`: The last record under a key.
* `effective?`: The record that counts under a key.
* `effectiveRecords`: The records that count, in the order of their keys.

## Theorems

* `latest?_eq_some_iff`: Behind the last record of a key there is no other one.
* `find?_effectiveRecords`: Under each key is the record that counts.
* `mem_effectiveRecords_iff`, `pairwise_effectiveRecords`: The same of the records
  without their keys.
* `latest?_eq_some_iff_mem`: What the result has under keys that are not declared.
* `map_effectiveRecords_eq_iff`: When two lists of stored records come to the same.
* `effectiveRecords_append`: Storing once more what counts changes nothing.
-/

namespace EventTables

variable {κ β : Type}

/-- The last of the records that has the key. -/
def latest? [BEq κ] (key : β → κ) (records : List β) (k : κ) : Option β :=
  records.reverse.find? fun r => key r == k

/-- The record that counts under a key: the last one that is declared, or else the
    last one that is stored. -/
def effective? [BEq κ] (key : β → κ) (declared stored : List β) (k : κ) : Option β :=
  (latest? key declared k).or (latest? key stored k)

/-- The records that count, in the order of their keys. -/
def effectiveRecords [Ord κ] (key : β → κ) (declared stored : List β) : Keyed κ β :=
  Keyed.ofList ((stored ++ declared).map fun r => (key r, r))

/-! ### The last record -/

section Latest

variable [BEq κ]

theorem latest?_append (key : β → κ) (first second : List β) (k : κ) :
    latest? key (first ++ second) k = (latest? key second k).or (latest? key first k) := by
  rw [latest?, List.reverse_append, List.find?_append]
  rfl

theorem latest?_concat (key : β → κ) (records : List β) (r : β) (k : κ) :
    latest? key (records ++ [r]) k = if key r == k then some r else latest? key records k := by
  rw [latest?, List.reverse_concat, List.find?_cons]
  cases key r == k <;> rfl

-- Records that are changed are found where their keys are found.
theorem latest?_map {γ : Type} (key : β → κ) (f : γ → β) (records : List γ) (k : κ) :
    latest? key (records.map f) k = (latest? (fun r => key (f r)) records k).map f := by
  rw [latest?, ← List.map_reverse, List.find?_map]
  rfl

variable [LawfulBEq κ]

theorem latest?_eq_none_iff (key : β → κ) (records : List β) (k : κ) :
    latest? key records k = none ↔ k ∉ records.map key := by
  simp only [latest?, List.find?_eq_none, List.mem_reverse, beq_iff_eq, List.mem_map, not_exists,
    not_and]

theorem mem_of_latest? {key : β → κ} {records : List β} {k : κ} {r : β}
    (h : latest? key records k = some r) : r ∈ records ∧ key r = k := by
  have hkey := List.find?_some h
  exact ⟨List.mem_reverse.mp (List.mem_of_find?_eq_some h), eq_of_beq hkey⟩

/-- A record is the last one of its key if it stands in a place behind which no other
    one has that key. -/
theorem latest?_eq_some_iff (key : β → κ) (records : List β) (k : κ) (r : β) :
    latest? key records k = some r ↔
      key r = k ∧ ∃ before after, records = before ++ r :: after ∧ ∀ a ∈ after, key a ≠ k := by
  constructor
  · intro h
    rcases List.find?_eq_some_iff_append.mp h with ⟨hkey, behind, before, hrecords, hbehind⟩
    refine ⟨eq_of_beq hkey, before.reverse, behind.reverse, ?_, fun a ha heq => ?_⟩
    · rw [← List.reverse_reverse records, hrecords, List.reverse_append, List.reverse_cons,
        List.append_assoc, List.singleton_append]
    · have hnot := hbehind a (List.mem_reverse.mp ha)
      rw [heq, beq_self_eq_true] at hnot
      exact nomatch hnot
  · -- The record is found from behind after passing over all that stand there.
    rintro ⟨hkey, before, after, rfl, hafter⟩
    have hnone : latest? key after k = none := (latest?_eq_none_iff key after k).mpr fun hmem =>
      let ⟨a, ha, heq⟩ := List.mem_map.mp hmem
      hafter a ha heq
    rw [List.append_cons, latest?_append, hnone, Option.none_or, latest?_concat,
      if_pos (beq_iff_eq.mpr hkey)]

end Latest

/-! ### Records under their keys -/

section Records

variable [Ord κ] (key : β → κ) (declared stored : List β)

-- A record is kept under its own key.
theorem key_of_mem_effectiveRecords (e : κ × β) (he : e ∈ effectiveRecords key declared stored) :
    key e.2 = e.1 := by
  rcases List.mem_map.mp (Keyed.mem_ofList _ e he) with ⟨r, _, rfl⟩
  rfl

variable [Std.LawfulEqOrd κ]

-- The keys of the list are those of the records, so either may be asked for.
theorem find?_map_key [BEq κ] [LawfulBEq κ] (records : List β) (k : κ) :
    Keyed.find? k (records.map fun r => (key r, r)) = records.find? fun r => key r == k := by
  induction records with
  | nil => rfl
  | cons r rest ih =>
      rw [List.map_cons, Keyed.find?, List.find?_cons, ih]
      by_cases h : key r = k
      · rw [if_pos (Std.compare_eq_iff_eq.mpr h.symm), beq_iff_eq.mpr h]
      · rw [if_neg fun heq => h (Std.compare_eq_iff_eq.mp heq).symm, beq_eq_false_iff_ne.mpr h]

/-- Under each key is the record that counts. -/
theorem find?_effectiveRecords [BEq κ] [LawfulBEq κ] (k : κ) :
    (effectiveRecords key declared stored).find? k = effective? key declared stored k := by
  rw [effectiveRecords, Keyed.find?_ofList, ← List.map_reverse, find?_map_key, effective?,
    ← latest?_append]
  rfl

variable [Std.TransOrd κ]

theorem ascending_effectiveRecords : (effectiveRecords key declared stored).Ascending :=
  Keyed.ascending_ofList _

/-- The records of the result are those that count under their own keys. -/
theorem mem_effectiveRecords_iff [BEq κ] [LawfulBEq κ] (r : β) :
    r ∈ (effectiveRecords key declared stored).map (·.2) ↔
      effective? key declared stored (key r) = some r := by
  rw [← find?_effectiveRecords,
    ← Keyed.mem_iff_find? _ _ _ (ascending_effectiveRecords key declared stored)]
  constructor
  · intro h
    rcases List.mem_map.mp h with ⟨e, he, rfl⟩
    rw [key_of_mem_effectiveRecords key declared stored e he]
    exact he
  · exact fun h => List.mem_map.mpr ⟨_, h, rfl⟩

/-- The records of the result are in the order of their keys. -/
theorem pairwise_effectiveRecords :
    ((effectiveRecords key declared stored).map (·.2)).Pairwise fun a b =>
      compare (key a) (key b) = .lt := by
  refine List.pairwise_map.mpr
    ((ascending_effectiveRecords key declared stored).imp_of_mem fun {a b} ha hb hlt => ?_)
  rw [key_of_mem_effectiveRecords key declared stored a ha,
    key_of_mem_effectiveRecords key declared stored b hb]
  exact hlt

/-! ### Other stored records -/

/-- What is stored counts by the last record under each key that is not declared. -/
theorem effectiveRecords_congr [BEq κ] [LawfulBEq κ] (stored' : List β)
    (h : ∀ k, k ∉ declared.map key → latest? key stored k = latest? key stored' k) :
    effectiveRecords key declared stored = effectiveRecords key declared stored' := by
  refine Keyed.eq_of_find?_eq _ _ (ascending_effectiveRecords key declared stored)
    (ascending_effectiveRecords key declared stored') fun k => ?_
  rw [find?_effectiveRecords, find?_effectiveRecords, effective?, effective?]
  rcases hdeclared : latest? key declared k with _ | r
  · rw [Option.none_or, Option.none_or, h k ((latest?_eq_none_iff key declared k).mp hdeclared)]
  · rw [Option.some_or, Option.some_or]

/-- Under a key that is not declared, the last stored record is the one in the result. -/
theorem latest?_eq_some_iff_mem [BEq κ] [LawfulBEq κ] (k : κ) (hk : k ∉ declared.map key) (r : β) :
    latest? key stored k = some r ↔
      key r = k ∧ r ∈ (effectiveRecords key declared stored).map (·.2) := by
  rw [mem_effectiveRecords_iff, effective?]
  constructor
  · intro hr
    have hkey := (mem_of_latest? hr).2
    rw [hkey, (latest?_eq_none_iff key declared k).mpr hk, Option.none_or]
    exact ⟨rfl, hr⟩
  · rintro ⟨rfl, hr⟩
    rwa [(latest?_eq_none_iff key declared _).mpr hk, Option.none_or] at hr

/-- What is stored counts in no other way. -/
theorem map_effectiveRecords_eq_iff [BEq κ] [LawfulBEq κ] (stored' : List β) :
    (effectiveRecords key declared stored).map (·.2) =
        (effectiveRecords key declared stored').map (·.2) ↔
      ∀ k, k ∉ declared.map key → latest? key stored k = latest? key stored' k := by
  refine ⟨fun h k hk => Option.ext fun r => ?_,
    fun h => congrArg _ (effectiveRecords_congr key declared stored stored' h)⟩
  rw [latest?_eq_some_iff_mem key declared stored k hk,
    latest?_eq_some_iff_mem key declared stored' k hk, h]

/-- Storing once more what counts changes nothing, no matter what is stored again, how
    often and in which order. -/
theorem effectiveRecords_append [BEq κ] [LawfulBEq κ] (more : List β)
    (h : ∀ r ∈ more, key r ∉ declared.map key → latest? key stored (key r) = some r) :
    effectiveRecords key declared (stored ++ more) = effectiveRecords key declared stored := by
  refine effectiveRecords_congr key declared _ _ fun k hk => ?_
  rw [latest?_append]
  rcases hmore : latest? key more k with _ | r
  · rw [Option.none_or]
  · rcases mem_of_latest? hmore with ⟨hr, rfl⟩
    rw [Option.some_or, h r hr hk]

end Records

/-- The effective sources over what a store was read as. -/
theorem Config.allSources_eq_ok (c : Config) (store : Store) (stored : List Source)
    (h : store.sources = .ok stored) :
    c.allSources store = .ok ((effectiveRecords (·.chainId) c.sources stored).map (·.2)) := by
  rw [allSources, h]
  rfl

end EventTables
