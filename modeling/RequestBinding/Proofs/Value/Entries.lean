import Mathlib.Data.List.Induction
import RequestBinding.Value.Basic

/-!
# The entries of a map

Map keys are ordered by `Value.keyLt`, and a map keeps its entries ascending. Entries whose keys
are all apart may therefore come in any order: the map that is made of them is always the one with
the entries sorted (`Value.ofEntries_of_perm`). Of entries whose keys come again the map holds the
last of each key (`Value.ofEntries_spec`).
-/

namespace RequestBinding

namespace Value

theorem keyLt_trans {a b c : Value} (first : a.keyLt b = true) (second : b.keyLt c = true) :
    a.keyLt c = true := by
  fun_induction keyLt a b generalizing c with
  | case1 a b => cases c <;> simp_all [keyLt]
  | case2 a b =>
    cases c with
    | int c => simp only [keyLt, decide_eq_true_eq] at *; omega
    | _ => simp [keyLt] at second
  | case3 a b =>
    cases c with
    | text c =>
      simp only [keyLt, decide_eq_true_eq] at *
      exact String.lt_trans first second
    | _ => simp [keyLt] at second
  | case4 v => cases c <;> simp_all [keyLt]
  | case5 a b ih =>
    cases c with
    | present c => exact ih first second
    | _ => simp [keyLt] at second
  | case6 => cases first

theorem keyLt_asymm {a b : Value} (below : a.keyLt b = true) : b.keyLt a = false := by
  fun_induction keyLt a b with
  | case1 a b => simp_all [keyLt]
  | case2 a b =>
    simp only [keyLt, decide_eq_true_eq, decide_eq_false_iff_not] at *
    omega
  | case3 a b =>
    simp only [keyLt, decide_eq_true_eq, decide_eq_false_iff_not] at *
    exact String.lt_asymm below
  | case4 v => rfl
  | case5 a b ih => exact ih below
  | case6 => cases below

theorem keyLt_irrefl (a : Value) : a.keyLt a = false := by
  rw [Bool.eq_false_iff]
  intro below
  have above := keyLt_asymm below
  rw [below] at above
  cases above

/-- Two entries whose keys are in order one way or the other. -/
def EntriesApart (p q : Value × Value) : Prop :=
  p.1.keyLt q.1 = true ∨ q.1.keyLt p.1 = true

/-- The entries stand in the order of their keys. -/
def Ascending (entries : List (Value × Value)) : Prop :=
  entries.Pairwise fun p q => p.1.keyLt q.1 = true

theorem insertEntry_perm {key value : Value} {entries : List (Value × Value)}
    (fresh : ∀ p ∈ entries, EntriesApart (key, value) p) :
    (insertEntry key value entries).Perm ((key, value) :: entries) := by
  induction entries with
  | nil => exact .refl _
  | cons p rest ih =>
    have others := ih fun q member => fresh q (List.mem_cons_of_mem p member)
    unfold insertEntry
    split
    · exact .refl _
    · rename_i notBelow
      rcases fresh p List.mem_cons_self with below | above
      · exact absurd below notBelow
      · rw [if_pos above]
        exact (others.cons p).trans (.swap _ _ rest)

theorem ne_of_keyLt {a b : Value} (below : a.keyLt b = true) : a ≠ b := by
  rintro rfl
  rw [keyLt_irrefl] at below
  cases below

/-- Two keys are in order one way or the other, or they are the same. -/
def Comparable (a b : Value) : Prop :=
  a.keyLt b = true ∨ b.keyLt a = true ∨ a = b

theorem Comparable.eq {a b : Value} (comparable : Comparable a b) (notBelow : ¬ a.keyLt b = true)
    (notAbove : ¬ b.keyLt a = true) : a = b :=
  (comparable.resolve_left notBelow).resolve_left notAbove

theorem EntriesApart.comparable {p q : Value × Value} (apart : EntriesApart p q) :
    Comparable p.1 q.1 :=
  apart.elim Or.inl fun above => Or.inr (Or.inl above)

section

variable {key : Value} (value : Value) {entries : List (Value × Value)}
  (comparable : ∀ p ∈ entries, Comparable key p.1) (ascending : Ascending entries)

include comparable ascending

/-- An entry takes the place of the one with its key, and all others stay. -/
theorem mem_insertEntry_iff {p : Value × Value} :
    p ∈ insertEntry key value entries ↔ p = (key, value) ∨ p ∈ entries ∧ p.1 ≠ key := by
  induction entries with
  | nil => simp [insertEntry]
  | cons q rest ih =>
    obtain ⟨least, ascendingRest⟩ := List.pairwise_cons.mp ascending
    have others := ih (fun r later => comparable r (List.mem_cons_of_mem q later)) ascendingRest
    unfold insertEntry
    split
    · rename_i below
      have above : p ∈ q :: rest → p.1 ≠ key := by
        intro member
        rcases List.mem_cons.mp member with rfl | later
        · exact (ne_of_keyLt below).symm
        · exact (ne_of_keyLt (keyLt_trans below (least p later))).symm
      rw [List.mem_cons]
      exact or_congr_right ⟨fun member => ⟨member, above member⟩, And.left⟩
    · rename_i notBelow
      split
      · rename_i above
        rw [List.mem_cons, others, List.mem_cons]
        constructor
        · rintro (rfl | rfl | ⟨later, different⟩)
          · exact Or.inr ⟨Or.inl rfl, ne_of_keyLt above⟩
          · exact Or.inl rfl
          · exact Or.inr ⟨Or.inr later, different⟩
        · rintro (rfl | ⟨rfl | later, different⟩)
          · exact Or.inr (Or.inl rfl)
          · exact Or.inl rfl
          · exact Or.inr (Or.inr ⟨later, different⟩)
      · rename_i notAbove
        have own : key = q.1 := (comparable q List.mem_cons_self).eq notBelow notAbove
        subst own
        rw [List.mem_cons, List.mem_cons]
        constructor
        · rintro (rfl | later)
          · exact Or.inl rfl
          · exact Or.inr ⟨Or.inr later, (ne_of_keyLt (least p later)).symm⟩
        · rintro (rfl | ⟨rfl | later, different⟩)
          · exact Or.inl rfl
          · exact absurd rfl different
          · exact Or.inr later

theorem insertEntry_ascending : Ascending (insertEntry key value entries) := by
  induction entries with
  | nil => exact List.pairwise_singleton _ _
  | cons p rest ih =>
    obtain ⟨least, ascendingRest⟩ := List.pairwise_cons.mp ascending
    have comparableRest := fun q (later : q ∈ rest) => comparable q (List.mem_cons_of_mem p later)
    unfold insertEntry
    split
    · rename_i below
      refine List.pairwise_cons.mpr ⟨?_, ascending⟩
      intro q member
      rcases List.mem_cons.mp member with rfl | later
      · exact below
      · exact keyLt_trans below (least q later)
    · rename_i notBelow
      split
      · rename_i above
        refine List.pairwise_cons.mpr ⟨?_, ih comparableRest ascendingRest⟩
        intro q member
        rcases (mem_insertEntry_iff value comparableRest ascendingRest).mp member with
          rfl | ⟨later, _⟩
        · exact above
        · exact least q later
      · rename_i notAbove
        refine List.pairwise_cons.mpr ⟨?_, ascendingRest⟩
        rw [(comparable p List.mem_cons_self).eq notBelow notAbove]
        exact least

end

/-- Entries that are apart are all kept, in the order of their keys. -/
theorem foldl_insertEntry {entries sorted : List (Value × Value)}
    (apart : (sorted ++ entries).Pairwise EntriesApart) (ascending : Ascending sorted) :
    let filled := entries.foldl (fun sorted p => insertEntry p.1 p.2 sorted) sorted
    filled.Perm (sorted ++ entries) ∧ Ascending filled := by
  induction entries generalizing sorted with
  | nil => exact ⟨by simp, ascending⟩
  | cons p rest ih =>
    have fresh : ∀ q ∈ sorted, EntriesApart (p.1, p.2) q := fun q member =>
      ((List.pairwise_append.mp apart).2.2 q member p List.mem_cons_self).symm
    have added : (insertEntry p.1 p.2 sorted ++ rest).Perm (sorted ++ p :: rest) :=
      ((insertEntry_perm fresh).append_right rest).trans List.perm_middle.symm
    have apartStill := apart.perm added.symm fun either => either.symm
    have ordered :=
      insertEntry_ascending p.2 (fun q member => (fresh q member).comparable) ascending
    obtain ⟨perm, inOrder⟩ := ih apartStill ordered
    exact ⟨perm.trans added, inOrder⟩

/-- In whatever order ascending entries arrive, they make the map of these entries. -/
theorem ofEntries_of_perm {entries sorted : List (Value × Value)} (arrival : entries.Perm sorted)
    (ascending : Ascending sorted) : ofEntries entries = dict sorted := by
  have apart : ([] ++ entries).Pairwise EntriesApart :=
    (ascending.imp fun below => Or.inl below).perm arrival.symm fun either => either.symm
  obtain ⟨perm, inOrder⟩ := foldl_insertEntry apart List.Pairwise.nil
  have same := (perm.trans arrival).eq_of_pairwise (by
    intro p q _ _ below above
    rw [keyLt_asymm below] at above
    cases above) inOrder ascending
  exact congrArg dict same

/-! ## Keys that come again -/

/-- The entry is there, and none behind it has its key. -/
def LastEntry (entries : List (Value × Value)) (p : Value × Value) : Prop :=
  ∃ before after, entries = before ++ p :: after ∧ ∀ q ∈ after, q.1 ≠ p.1

theorem LastEntry.mem {entries : List (Value × Value)} {p : Value × Value}
    (last : LastEntry entries p) : p ∈ entries := by
  obtain ⟨before, after, rfl, _⟩ := last
  exact List.mem_append_right before List.mem_cons_self

theorem not_lastEntry_nil (p : Value × Value) : ¬ LastEntry [] p :=
  fun last => nomatch last.mem

theorem lastEntry_concat {entries : List (Value × Value)} {p q : Value × Value} :
    LastEntry (entries ++ [q]) p ↔ p = q ∨ LastEntry entries p ∧ p.1 ≠ q.1 := by
  constructor
  · rintro ⟨before, after, split, fresh⟩
    cases after using List.reverseRecOn with
    | nil =>
      obtain ⟨_, same⟩ := List.append_inj' split rfl
      exact Or.inl (List.singleton_inj.mp same).symm
    | append_singleton front r =>
      rw [← List.cons_append, ← List.append_assoc] at split
      obtain ⟨rfl, same⟩ := List.append_inj' split rfl
      obtain rfl := List.singleton_inj.mp same
      have fresher := fun s (member : s ∈ front) => fresh s (List.mem_append_left _ member)
      exact Or.inr ⟨⟨before, front, rfl, fresher⟩,
        (fresh q (List.mem_append_right _ (List.mem_singleton_self q))).symm⟩
  · rintro (rfl | ⟨⟨before, after, rfl, fresh⟩, different⟩)
    · exact ⟨entries, [], rfl, nofun⟩
    · refine ⟨before, after ++ [q], by simp, fun r member => ?_⟩
      rcases List.mem_append.mp member with earlier | own
      · exact fresh r earlier
      · rw [List.mem_singleton.mp own]
        exact different.symm

/-- Of several entries with one key a map holds the last. -/
theorem ofEntries_spec {entries : List (Value × Value)}
    (comparable : ∀ p ∈ entries, ∀ q ∈ entries, Comparable p.1 q.1) :
    ∃ sorted, ofEntries entries = dict sorted ∧ Ascending sorted ∧
      ∀ p, p ∈ sorted ↔ LastEntry entries p := by
  induction entries using List.reverseRecOn with
  | nil => exact ⟨[], rfl, List.Pairwise.nil, fun p => by simp [not_lastEntry_nil]⟩
  | append_singleton front q ih =>
    obtain ⟨sorted, made, ascending, each⟩ := ih fun p member r other =>
      comparable p (List.mem_append_left _ member) r (List.mem_append_left _ other)
    have against : ∀ p ∈ sorted, Comparable q.1 p.1 := by
      intro p member
      exact comparable q (List.mem_append_right _ (List.mem_singleton_self q)) p
        (List.mem_append_left _ ((each p).mp member).mem)
    refine ⟨insertEntry q.1 q.2 sorted, ?_, insertEntry_ascending q.2 against ascending, ?_⟩
    · have filled := Value.dict.inj made
      rw [ofEntries, List.foldl_append, filled]
      rfl
    · intro p
      rw [mem_insertEntry_iff q.2 against ascending, each, lastEntry_concat]

end Value

end RequestBinding
