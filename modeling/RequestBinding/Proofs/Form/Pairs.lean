import Mathlib.Data.List.Induction
import Mathlib.Data.List.Nodup
import RequestBinding.Form.UrlEncoded
import RequestBinding.Proofs.Form.Values

/-!
# Forms and the pairs they are made of

A form groups pairs by key. What it holds under a key are the values that come with the key in the
pairs, in their order (`FormValues.valuesAt_ofPairs`), and its keys are the different keys of the
pairs, each where it comes first (`FormValues.keys_ofPairs`). Taking a form apart into pairs again
regroups them, which neither of the two can see as long as no key is without values
(`FormValues.WellFormed`, `FormValues.WellFormed.valuesUnder_pairs`,
`FormValues.WellFormed.eraseDups_pairs`).
-/

namespace RequestBinding

/-! ## Keys that repeat -/

/-- A key that comes again at once is not a new one. -/
theorem eraseDups_repeat (front back : List String) (key : String) (n : Nat) :
    (front ++ (key :: List.replicate n key ++ back)).eraseDups =
      (front ++ key :: back).eraseDups := by
  induction n with
  | zero => rfl
  | succ n ih =>
    rw [← ih, List.eraseDups_append, List.eraseDups_append]
    congr 1
    by_cases old : key ∈ front
    · simp [List.removeAll, List.replicate_succ, old]
    · simp [List.removeAll, List.replicate_succ, old, List.eraseDups_cons]

theorem eraseDups_concat (keys : List String) (key : String) :
    (keys ++ [key]).eraseDups =
      if key ∈ keys.eraseDups then keys.eraseDups else keys.eraseDups ++ [key] := by
  rw [List.eraseDups_append]
  by_cases old : key ∈ keys
  · rw [if_pos (List.mem_eraseDups.mpr old)]
    simp [List.removeAll, old]
  · rw [if_neg (mt List.mem_eraseDups.mp old)]
    simp [List.removeAll, old, List.eraseDups_cons]

/-- Of entries with different keys the one of a key is found. -/
theorem lookup_eq_some_of_mem {κ α : Type} [BEq κ] [LawfulBEq κ] {entries : List (κ × α)}
    {key : κ} {a : α} (distinct : (entries.map (·.1)).Nodup) (member : (key, a) ∈ entries) :
    entries.lookup key = some a := by
  induction entries with
  | nil => cases member
  | cons entry rest ih =>
    obtain ⟨first, others⟩ := List.nodup_cons.mp distinct
    rcases List.mem_cons.mp member with rfl | later
    · exact List.lookup_cons_self
    · have apart : (key == entry.1) = false := by
        refine beq_eq_false_iff_ne.mpr fun same => first ?_
        exact List.mem_map.mpr ⟨_, later, same⟩
      rw [List.lookup_cons, apart]
      exact ih others later

namespace FormValues

/-- The values that come with a key in pairs. -/
def valuesUnder (pairs : List (String × String)) (key : String) : List String :=
  (pairs.filter (·.1 == key)).map (·.2)

/-- The values of a key; none when the key does not occur. -/
def valuesAt (form : FormValues) (key : String) : List String :=
  (form.get? key).getD []

theorem valuesUnder_append (pairs others : List (String × String)) (key : String) :
    valuesUnder (pairs ++ others) key = valuesUnder pairs key ++ valuesUnder others key := by
  rw [valuesUnder, List.filter_append, List.map_append]
  rfl

/-! ## One more value -/

namespace Indexed

variable {form : FormValues} (indexed : Indexed form)

include indexed

/-- One more value under a key changes what is found under that key alone. -/
theorem get?_append (key other value : String) :
    (form.append other value).get? key =
      if key = other then some (form.valuesAt other ++ [value]) else form.get? key := by
  unfold FormValues.append valuesAt get?
  cases known : form.index[other]? with
  | some place =>
    simp only
    by_cases own : key = other
    · subst own
      obtain ⟨e, found, -⟩ := Option.map_eq_some_iff.mp ((indexed key place).mp known)
      simp [known, found, Array.getElem?_modify, FormEntry.push]
    · rw [if_neg own]
      cases spotted : form.index[key]? with
      | none => rfl
      | some spot =>
        have apart : place ≠ spot := by
          rintro rfl
          have named := (indexed other place).mp known
          rw [(indexed key place).mp spotted] at named
          exact own (Option.some.inj named)
        simp [Array.getElem?_modify, apart]
  | none =>
    simp only [Std.TreeMap.getElem?_insert, Std.compare_eq_iff_eq]
    by_cases own : key = other
    · subst own
      simp
    · rw [if_neg own, if_neg (Ne.symm own)]
      cases spotted : form.index[key]? with
      | none => rfl
      | some spot =>
        obtain ⟨e, found, -⟩ := Option.map_eq_some_iff.mp ((indexed key spot).mp spotted)
        have within : spot < form.entries.size := (Array.getElem?_eq_some_iff.mp found).1
        simp [Array.getElem?_push_lt within, within]

/-- A key that is not there yet comes behind all others. -/
theorem keys_append (key value : String) :
    (form.append key value).keys =
      if key ∈ form.keys then form.keys else form.keys ++ [key] := by
  split
  · rename_i old
    obtain ⟨place, known⟩ := (indexed.mem_keys_iff key).mp old
    unfold FormValues.append
    rw [known]
    apply List.ext_getElem?
    intro i
    simp only [keys, List.getElem?_map, Array.getElem?_toList, Array.getElem?_modify]
    split
    · rw [Option.map_map]
      rfl
    · rfl
  · rename_i fresh
    rw [keys_eq, indexed.toList_append fresh, List.map_append, ← keys_eq]
    rfl

/-- No key occurs twice. -/
theorem nodup_keys : form.keys.Nodup := by
  refine List.nodup_iff_getElem?_ne_getElem?.mpr fun i j before within same => ?_
  simp only [keys, List.getElem?_map, Array.getElem?_toList, List.length_map,
    Array.length_toList] at same within
  have named : form.entries[j]?.map FormEntry.key = some form.entries[j].key := by
    rw [Array.getElem?_eq_getElem within]
    rfl
  have first := (indexed form.entries[j].key i).mpr (same.trans named)
  rw [(indexed form.entries[j].key j).mpr named] at first
  exact absurd (Option.some.inj first) (Nat.ne_of_gt before)

theorem nodup_toList : (form.toList.map (·.1)).Nodup := by
  rw [← keys_eq]
  exact indexed.nodup_keys

/-- What the index finds under a key is what stands with the key among the entries. -/
theorem get?_eq_lookup (key : String) : form.get? key = form.toList.lookup key := by
  unfold get?
  cases known : form.index[key]? with
  | none =>
    have unknown : key ∉ form.keys := by
      rw [indexed.mem_keys_iff, known]
      rintro ⟨place, found⟩
      cases found
    have missing : form.toList.lookup key = none := by
      refine List.lookup_eq_none_iff.mpr fun entry member => ?_
      refine bne_iff_ne.mpr fun same => unknown ?_
      rw [keys_eq]
      exact List.mem_map.mpr ⟨entry, member, same.symm⟩
    rw [missing]
    rfl
  | some place =>
    obtain ⟨e, found, rfl⟩ := Option.map_eq_some_iff.mp ((indexed key place).mp known)
    have member : (e.key, e.values.toList) ∈ form.toList :=
      List.mem_map.mpr ⟨e, Array.mem_toList_iff.mpr (Array.mem_of_getElem? found), rfl⟩
    rw [lookup_eq_some_of_mem indexed.nodup_toList member, Option.bind_some, found, Option.map_some]

theorem appendAll (pairs : List (String × String)) : Indexed (form.appendAll pairs) := by
  induction pairs generalizing form with
  | nil => exact indexed
  | cons pair rest ih => exact ih (indexed.append pair.1 pair.2)

theorem valuesAt_append (key other value : String) :
    (form.append other value).valuesAt key =
      form.valuesAt key ++ if other == key then [value] else [] := by
  rw [valuesAt, indexed.get?_append]
  by_cases own : key = other
  · rw [if_pos own, if_pos (beq_iff_eq.mpr own.symm), own]
    rfl
  · rw [if_neg own, if_neg (mt beq_iff_eq.mp (Ne.symm own)), List.append_nil]
    rfl

theorem valuesAt_appendAll (pairs : List (String × String)) (key : String) :
    (form.appendAll pairs).valuesAt key = form.valuesAt key ++ valuesUnder pairs key := by
  induction pairs generalizing form with
  | nil => exact (List.append_nil _).symm
  | cons pair rest ih =>
    have split : valuesUnder (pair :: rest) key =
        (if pair.1 == key then [pair.2] else []) ++ valuesUnder rest key := by
      rw [valuesUnder, List.filter_cons]
      split <;> rfl
    rw [FormValues.appendAll, List.foldl_cons, ← FormValues.appendAll,
      ih (indexed.append pair.1 pair.2), indexed.valuesAt_append, split, List.append_assoc]

end Indexed

/-! ## A form of pairs -/

/-- The entries can be read off the keys and values. -/
theorem toList_injective {form other : FormValues} (same : form.toList = other.toList) :
    form.entries = other.entries := by
  refine Array.ext' (List.map_injective_iff.mpr (fun e e' pair => ?_) same)
  rcases Prod.mk.inj pair with ⟨key, texts⟩
  exact FormEntry.mk.injEq .. ▸ ⟨key, Array.ext' texts⟩

/-- Under a key a form of pairs holds the values that come with the key. -/
theorem valuesAt_ofPairs (pairs : List (String × String)) (key : String) :
    (ofPairs pairs).valuesAt key = valuesUnder pairs key :=
  (indexed_empty.valuesAt_appendAll pairs key).trans (by simp [valuesAt, get?, empty])

theorem ofPairs_appendAll (pairs others : List (String × String)) :
    (ofPairs pairs).appendAll others = ofPairs (pairs ++ others) := by
  rw [ofPairs, ofPairs, appendAll, appendAll, appendAll, List.foldl_append]

/-- The keys of a form of pairs are the different keys of the pairs, each where it comes first. -/
theorem keys_ofPairs (pairs : List (String × String)) :
    (ofPairs pairs).keys = (pairs.map (·.1)).eraseDups := by
  induction pairs using List.reverseRecOn with
  | nil => rfl
  | append_singleton others pair ih =>
    have indexed : Indexed (ofPairs others) := indexed_empty.appendAll others
    have added : ofPairs (others ++ [pair]) = (ofPairs others).append pair.1 pair.2 :=
      (ofPairs_appendAll others [pair]).symm
    rw [added, indexed.keys_append, ih, List.map_append, List.map_singleton, eraseDups_concat]

/-! ## Taking a form apart -/

/-- The index tells the place of every key, and every key has a value. -/
structure WellFormed (form : FormValues) : Prop where
  indexed : Indexed form
  valued : ∀ key ∈ form.keys, form.valuesAt key ≠ []

theorem wellFormed_empty : WellFormed empty :=
  ⟨indexed_empty, fun _ member => nomatch member⟩

namespace WellFormed

variable {form : FormValues} (wellFormed : WellFormed form)

include wellFormed

theorem append (key value : String) : WellFormed (form.append key value) where
  indexed := wellFormed.indexed.append key value
  valued := by
    intro other member
    rw [wellFormed.indexed.valuesAt_append]
    rw [wellFormed.indexed.keys_append] at member
    by_cases own : key = other
    · rw [if_pos (beq_iff_eq.mpr own)]
      exact List.append_ne_nil_of_right_ne_nil _ (List.cons_ne_nil _ _)
    · have old : other ∈ form.keys := by
        split at member
        · exact member
        · rcases List.mem_append.mp member with old | new
          · exact old
          · exact absurd (List.mem_singleton.mp new).symm own
      exact List.append_ne_nil_of_left_ne_nil (wellFormed.valued other old) _

theorem appendAll (pairs : List (String × String)) : WellFormed (form.appendAll pairs) := by
  induction pairs generalizing form with
  | nil => exact wellFormed
  | cons pair rest ih => exact ih (wellFormed.append pair.1 pair.2)

theorem valuesAt_of_mem {entry : String × List String} (member : entry ∈ form.toList) :
    form.valuesAt entry.1 = entry.2 := by
  rw [valuesAt, wellFormed.indexed.get?_eq_lookup,
    lookup_eq_some_of_mem wellFormed.indexed.nodup_toList member]
  rfl

/-- The entries of a form are its keys with their values. -/
theorem toList_eq :
    form.toList = form.keys.map fun key => (key, form.valuesAt key) := by
  rw [keys_eq, List.map_map]
  symm
  apply (List.map_congr_left ?_).trans (List.map_id _)
  intro entry member
  exact Prod.ext rfl (wellFormed.valuesAt_of_mem member)

/-- A key is found when it has values, and then all of them are. -/
theorem get?_eq (key : String) :
    form.get? key =
      if (form.valuesAt key).isEmpty then none else some (form.valuesAt key) := by
  cases found : form.get? key with
  | none => rw [valuesAt, found, Option.getD_none, List.isEmpty_nil, if_pos rfl]
  | some values =>
    have member : key ∈ form.keys := by
      obtain ⟨e, placed, -⟩ := Option.map_eq_some_iff.mp found
      obtain ⟨place, known, -⟩ := Option.bind_eq_some_iff.mp placed
      exact (wellFormed.indexed.mem_keys_iff key).mpr ⟨place, known⟩
    have held : form.valuesAt key = values := by
      rw [valuesAt, found, Option.getD_some]
    have given := wellFormed.valued key member
    rw [held] at given ⊢
    rw [if_neg (mt List.isEmpty_iff.mp given)]

/-- Among the pairs of a form each key has the values that the form holds under it. -/
theorem valuesUnder_pairs (key : String) :
    valuesUnder form.pairs key = form.valuesAt key := by
  have distinct := wellFormed.indexed.nodup_toList
  rw [valuesAt, wellFormed.indexed.get?_eq_lookup, pairs]
  generalize form.toList = entries at distinct
  induction entries with
  | nil => rfl
  | cons entry rest ih =>
    obtain ⟨first, others⟩ := List.nodup_cons.mp distinct
    rw [List.flatMap_cons, valuesUnder_append, ih others, List.lookup_cons]
    by_cases own : key = entry.1
    · subst own
      have missing : rest.lookup entry.1 = none := by
        refine List.lookup_eq_none_iff.mpr fun other member => bne_iff_ne.mpr fun same => first ?_
        exact List.mem_map.mpr ⟨other, member, same.symm⟩
      simp [valuesUnder, missing, List.filter_map, Function.comp_def]
    · have foreign : (entry.1 == key) = false := beq_eq_false_iff_ne.mpr (Ne.symm own)
      have missed : (key == entry.1) = false := beq_eq_false_iff_ne.mpr own
      simp [valuesUnder, foreign, missed, List.filter_map, Function.comp_def]

/-- The different keys of pairs are the same whether a form among them is taken apart or only its
keys are named. -/
theorem eraseDups_pairs (front back : List String) :
    (front ++ form.pairs.map (·.1) ++ back).eraseDups =
      (front ++ form.keys ++ back).eraseDups := by
  have valued : ∀ entry ∈ form.toList, entry.2 ≠ [] := by
    intro entry member
    rw [← wellFormed.valuesAt_of_mem member]
    refine wellFormed.valued _ ?_
    rw [keys_eq]
    exact List.mem_map.mpr ⟨entry, member, rfl⟩
  rw [keys_eq, pairs]
  generalize form.toList = entries at valued
  induction entries generalizing front with
  | nil => rfl
  | cons entry rest ih =>
    obtain ⟨key, values⟩ := entry
    have later := ih (front ++ [key]) fun other member =>
      valued other (List.mem_cons_of_mem _ member)
    cases values with
    | nil => exact absurd rfl (valued _ List.mem_cons_self)
    | cons value others =>
      have named : ((value :: others).map fun value => (key, value)).map (·.1) =
          key :: List.replicate others.length key := by
        simp [Function.comp_def, List.map_const']
      rw [List.flatMap_cons, List.map_append, named, List.append_assoc, List.append_assoc]
      rw [List.append_assoc, eraseDups_repeat]
      simpa using later

end WellFormed

theorem wellFormed_ofPairs (pairs : List (String × String)) : WellFormed (ofPairs pairs) :=
  wellFormed_empty.appendAll pairs

theorem wellFormed_parseBytes (input : Text.Bytes) : WellFormed (parseBytes input) :=
  wellFormed_ofPairs _

theorem wellFormed_parse (input : String) : WellFormed (parse input) :=
  wellFormed_parseBytes _

end FormValues

end RequestBinding
