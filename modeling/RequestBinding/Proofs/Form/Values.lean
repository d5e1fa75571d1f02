import RequestBinding.Form.Values

/-!
# The index of form values

A form keeps its entries in an array and finds the place of a key in an index. The index tells the
place of every key and of nothing else (`FormValues.Indexed`), and every value that is added keeps
it so. With that a form that is made from pairs holds what the pairs say; when no key occurs twice
it holds each pair as an entry of its own, in the order of the pairs
(`FormValues.toList_ofPairs`).
-/

namespace RequestBinding

namespace FormValues

/-- The index tells the place of every key, and of no other. -/
def Indexed (form : FormValues) : Prop :=
  ∀ (key : String) (place : Nat),
    form.index[key]? = some place ↔ form.entries[place]?.map FormEntry.key = some key

variable {form : FormValues}

theorem indexed_empty : Indexed empty := by
  intro key place
  simp [empty]

/-- A key that the index does not know is none of the keys. -/
theorem Indexed.mem_keys_iff (indexed : Indexed form) (key : String) :
    key ∈ form.keys ↔ ∃ place, form.index[key]? = some place := by
  constructor
  · intro member
    obtain ⟨e, present, named⟩ := List.mem_map.mp member
    obtain ⟨place, within, found⟩ := Array.mem_iff_getElem.mp (Array.mem_toList_iff.mp present)
    refine ⟨place, (indexed key place).mpr ?_⟩
    rw [Array.getElem?_eq_getElem within, found, Option.map_some, named]
  · rintro ⟨place, known⟩
    obtain ⟨e, found, named⟩ := Option.map_eq_some_iff.mp ((indexed key place).mp known)
    exact List.mem_map.mpr ⟨e, Array.mem_toList_iff.mpr (Array.mem_of_getElem? found), named⟩

/-- Another value for a key leaves all keys where they are. -/
theorem Indexed.modify (indexed : Indexed form) (place : Nat) (value : String) :
    Indexed { form with entries := form.entries.modify place (·.push value) } := by
  intro key spot
  have keys : ((form.entries.modify place (·.push value))[spot]?).map FormEntry.key =
      (form.entries[spot]?).map FormEntry.key := by
    rw [Array.getElem?_modify]
    split
    · rw [Option.map_map]
      rfl
    · rfl
  simp only [keys]
  exact indexed key spot

/-- A new key is found behind all others. -/
theorem Indexed.push (indexed : Indexed form) {key : String} (unknown : form.index[key]? = none)
    (values : Array String) :
    Indexed
      { entries := form.entries.push ⟨key, values⟩
        index := form.index.insert key form.entries.size } := by
  intro other spot
  have fresh : ∀ place : Nat, form.entries[place]?.map FormEntry.key ≠ some key := by
    intro place held
    rw [(indexed key place).mpr held] at unknown
    cases unknown
  simp only [Std.TreeMap.getElem?_insert, Std.compare_eq_iff_eq, Array.getElem?_push]
  by_cases own : key = other
  · subst own
    rw [if_pos rfl]
    by_cases last : spot = form.entries.size
    · subst last
      simp
    · rw [if_neg last]
      constructor
      · intro place
        exact absurd (Option.some.inj place).symm last
      · intro held
        exact absurd held (fresh spot)
  · rw [if_neg own]
    by_cases last : spot = form.entries.size
    · subst last
      have beyond : form.entries[form.entries.size]? = none := by simp
      rw [indexed other, beyond, if_pos rfl]
      simp [own]
    · rw [if_neg last]
      exact indexed other spot

theorem Indexed.append (indexed : Indexed form) (key value : String) :
    Indexed (form.append key value) := by
  unfold FormValues.append
  cases known : form.index[key]? with
  | some place => exact indexed.modify place value
  | none => exact indexed.push known #[value]

/-- The first value of a key becomes an entry behind all others. -/
theorem Indexed.toList_append (indexed : Indexed form) {key : String} (fresh : key ∉ form.keys)
    (value : String) : (form.append key value).toList = form.toList ++ [(key, [value])] := by
  cases known : form.index[key]? with
  | some place => exact absurd ((indexed.mem_keys_iff key).mpr ⟨place, known⟩) fresh
  | none =>
    unfold FormValues.append
    rw [known]
    simp [toList]

theorem keys_eq (form : FormValues) : form.keys = form.toList.map (·.1) := by
  simp [keys, toList]

theorem Indexed.toList_appendAll (indexed : Indexed form) {pairs : List (String × String)}
    (distinct : (form.keys ++ pairs.map (·.1)).Nodup) :
    (form.appendAll pairs).toList = form.toList ++ pairs.map fun p => (p.1, [p.2]) := by
  induction pairs generalizing form with
  | nil => simp [appendAll]
  | cons p rest ih =>
    have fresh : p.1 ∉ form.keys := by
      intro member
      exact (List.nodup_append.mp distinct).2.2 p.1 member p.1 List.mem_cons_self rfl
    have added := indexed.toList_append fresh p.2
    have keys : (form.append p.1 p.2).keys = form.keys ++ [p.1] := by
      rw [keys_eq, added, List.map_append, ← keys_eq]
      rfl
    have others := ih (indexed.append p.1 p.2) (by
      rw [keys, List.append_assoc]
      exact distinct)
    rw [appendAll, List.foldl_cons, ← appendAll, others, added, List.append_assoc]
    rfl

/-- A form of pairs with different keys holds the pairs as they came. -/
theorem toList_ofPairs {pairs : List (String × String)} (distinct : (pairs.map (·.1)).Nodup) :
    (ofPairs pairs).toList = pairs.map fun p => (p.1, [p.2]) :=
  indexed_empty.toList_appendAll distinct

end FormValues

end RequestBinding
