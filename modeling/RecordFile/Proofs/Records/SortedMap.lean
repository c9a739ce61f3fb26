/-
Records as a finite map in key order.

Looking up after a write gives the value written under its key and what was there before
under every other key. The least record, and the least one above a key, are least among
the keys that the map holds. No statement here depends on how the records are stored.
-/

import RecordFile.Records

namespace RecordFile

abbrev Content := Bytes → Option Bytes

namespace Records

/-! ### Single records -/

private def lookup (key : Bytes) (records : List Record) : Option Bytes :=
  (records.find? (·.1 == key)).map (·.2)

private theorem lookup_cons_self (key value : Bytes) (rest : List Record) :
    lookup key ((key, value) :: rest) = some value := by
  simp [lookup]

private theorem lookup_cons_of_ne {key : Bytes} {record : Record} (rest : List Record)
    (different : record.1 ≠ key) : lookup key (record :: rest) = lookup key rest := by
  simp [lookup, different]

private theorem lookup_eq_some_iff_mem {key value : Bytes} {records : List Record}
    (ascending : Ascending records) :
    lookup key records = some value ↔ (key, value) ∈ records := by
  induction records with
  | nil => simp [lookup]
  | cons head rest ih =>
      have above : ∀ record ∈ rest, head.1 < record.1 :=
        fun record member => List.rel_of_pairwise_cons ascending member
      by_cases here : head.1 = key
      · obtain ⟨headKey, headValue⟩ := head
        cases here
        rw [lookup_cons_self, List.mem_cons]
        constructor
        · intro same
          cases same
          exact Or.inl rfl
        · intro member
          rcases member with same | deeper
          · cases same
            rfl
          · exact absurd (above _ deeper) (Bytes.lt_irrefl headKey)
      · rw [lookup_cons_of_ne rest here, ih ascending.of_cons, List.mem_cons]
        constructor
        · exact Or.inr
        · intro member
          rcases member with same | deeper
          · exact absurd (congrArg Prod.fst same).symm here
          · exact deeper

private theorem lookup_insertInto_self (key value : Bytes) (records : List Record) :
    lookup key (insertInto key value records) = some value := by
  induction records with
  | nil => exact lookup_cons_self key value []
  | cons head rest ih =>
      unfold insertInto
      split
      · exact lookup_cons_self key value (head :: rest)
      · split
        · exact lookup_cons_self key value rest
        · next different =>
            rw [lookup_cons_of_ne _ (Ne.symm different)]
            exact ih

private theorem lookup_insertInto_of_ne {key other : Bytes} (value : Bytes)
    (different : other ≠ key) (records : List Record) :
    lookup other (insertInto key value records) = lookup other records := by
  induction records with
  | nil => exact lookup_cons_of_ne [] (Ne.symm different)
  | cons head rest ih =>
      unfold insertInto
      split
      · exact lookup_cons_of_ne _ (Ne.symm different)
      · split
        · next same =>
            rw [lookup_cons_of_ne _ (Ne.symm different),
              lookup_cons_of_ne _ (same ▸ Ne.symm different)]
        · by_cases here : head.1 = other
          · obtain ⟨headKey, headValue⟩ := head
            cases here
            rw [lookup_cons_self, lookup_cons_self]
          · rw [lookup_cons_of_ne _ here, lookup_cons_of_ne _ here]
            exact ih

/-! ### The map -/

@[simp]
theorem find?_empty (key : Bytes) : empty.find? key = none := rfl

theorem find?_eq_some_iff (records : Records) (key value : Bytes) :
    records.find? key = some value ↔ (key, value) ∈ records.toList :=
  lookup_eq_some_iff_mem records.ascending

/-- Storing a value changes what stands under its key, and nothing else. -/
theorem find?_insert (records : Records) (key value other : Bytes) :
    (records.insert key value).find? other =
      if other = key then some value else records.find? other := by
  by_cases same : other = key
  · rw [if_pos same, same]
    exact lookup_insertInto_self key value records.toList
  · rw [if_neg same]
    exact lookup_insertInto_of_ne value same records.toList

/-- Erasing a key leaves nothing under it, and changes nothing else. -/
theorem find?_erase (records : Records) (key other : Bytes) :
    (records.erase key).find? other = if other = key then none else records.find? other := by
  unfold find? erase
  rw [List.find?_filter]
  by_cases same : other = key
  · rw [if_pos same, List.find?_eq_none.mpr, Option.map_none]
    intro record _ both
    simp [same] at both
  · rw [if_neg same]
    congr 2
    funext record
    by_cases here : record.1 = other
    · simp [here, same]
    · simp [here]

/-- Erasing a key that is absent changes nothing. -/
theorem erase_of_absent {records : Records} {key : Bytes} (absent : records.find? key = none) :
    records.erase key = records := by
  obtain ⟨list, ascending⟩ := records
  unfold erase
  congr 1
  apply List.filter_eq_self.mpr
  intro record member
  apply bne_iff_ne.mpr
  intro same
  have here := (find?_eq_some_iff ⟨list, ascending⟩ record.1 record.2).mpr member
  rw [same, absent] at here
  cases here

/-! ### The order -/

/-- A record that a map holds above a key, or anywhere when no key is given. -/
def IsAbove (content : Content) (last? : Option Bytes) (record : Record) : Prop :=
  content record.1 = some record.2 ∧ ∀ last, last? = some last → last < record.1

/-- The answer to a search for the least key above another: the record with that key, or
nothing when the map holds no key above. -/
def IsNext (content : Content) (last? : Option Bytes) : Option Record → Prop
  | none => ∀ record, ¬ IsAbove content last? record
  | some record => IsAbove content last? record ∧
      ∀ other, IsAbove content last? other → other = record ∨ record.1 < other.1

theorem isAbove_find?_iff (records : Records) (last? : Option Bytes) (record : Record) :
    IsAbove records.find? last? record ↔
      record ∈ records.toList ∧ ∀ last, last? = some last → last < record.1 := by
  unfold IsAbove
  rw [find?_eq_some_iff]

theorem isNext_first? (records : Records) : IsNext records.find? none records.first? := by
  obtain ⟨list, ascending⟩ := records
  cases list with
  | nil =>
      intro record held
      exact absurd ((isAbove_find?_iff _ _ _).mp held).1 List.not_mem_nil
  | cons head rest =>
      refine ⟨(isAbove_find?_iff _ _ _).mpr ⟨List.mem_cons_self, nofun⟩, ?_⟩
      intro other held
      rcases List.mem_cons.mp ((isAbove_find?_iff _ _ _).mp held).1 with same | deeper
      · exact Or.inl same
      · exact Or.inr (List.rel_of_pairwise_cons ascending deeper)

/-- In an ascending list the first record above a key has the least key of those above. -/
private theorem least_of_find? {records : List Record} (ascending : Ascending records)
    {last : Bytes} {record : Record}
    (found : records.find? (fun record => decide (last < record.1)) = some record)
    {other : Record} (member : other ∈ records) (above : last < other.1) :
    other = record ∨ record.1 < other.1 := by
  induction records with
  | nil => cases member
  | cons head rest ih =>
      by_cases passed : last < head.1
      · rw [List.find?_cons_of_pos (by simpa using passed)] at found
        cases found
        rcases List.mem_cons.mp member with same | deeper
        · exact Or.inl same
        · exact Or.inr (List.rel_of_pairwise_cons ascending deeper)
      · rw [List.find?_cons_of_neg (by simpa using passed)] at found
        rcases List.mem_cons.mp member with same | deeper
        · exact absurd (same ▸ above) passed
        · exact ih ascending.of_cons found deeper

theorem isNext_after? (records : Records) (last : Bytes) :
    IsNext records.find? (some last) (records.after? last) := by
  unfold after?
  cases found : records.toList.find? (fun record => decide (last < record.1)) with
  | none =>
      intro record held
      obtain ⟨member, above⟩ := (isAbove_find?_iff _ _ _).mp held
      exact List.find?_eq_none.mp found record member (decide_eq_true (above last rfl))
  | some record =>
      have above : last < record.1 := by simpa using List.find?_some found
      refine ⟨(isAbove_find?_iff _ _ _).mpr ⟨List.mem_of_find?_eq_some found, ?_⟩, ?_⟩
      · intro other same
        cases same
        exact above
      · intro other held
        obtain ⟨member, past⟩ := (isAbove_find?_iff _ _ _).mp held
        exact least_of_find? records.ascending found member (past last rfl)

private theorem find?_above {records : List Record} (ascending : Ascending records) {n : Nat}
    {record : Record} (found : records[n]? = some record) :
    records.find? (fun other => decide (record.1 < other.1)) = records[n + 1]? := by
  induction records generalizing n with
  | nil => cases found
  | cons head rest ih =>
      have above : ∀ other ∈ rest, head.1 < other.1 :=
        fun other member => List.rel_of_pairwise_cons ascending member
      cases n with
      | zero =>
          cases found
          rw [List.find?_cons_of_neg (by simp)]
          cases rest with
          | nil => rfl
          | cons next later =>
              exact List.find?_cons_of_pos (by simpa using above next List.mem_cons_self)
      | succ n =>
          have passed := Bytes.lt_asymm (above record (List.mem_of_getElem? found))
          rw [List.find?_cons_of_neg (by simpa using passed)]
          exact ih ascending.of_cons found

/-- The record above another is the one after it. -/
theorem after?_eq_getElem? {records : Records} {n : Nat} {record : Record}
    (found : records.toList[n]? = some record) :
    records.after? record.1 = records.toList[n + 1]? :=
  find?_above records.ascending found

end Records

end RecordFile
