import RequestBinding.Source.Basic
import RequestBinding.Proofs.Form.Pairs
import RequestBinding.Proofs.Source.KeyFamily

/-!
# Sources of pairs

A source that is made from pairs has an entry for each different key, where the key comes first,
with all texts that come with the key (`KeySource.entries_ofPairs`). So its family of a key is what
the pairs within the key make (`KeySource.family_ofPairs`), wherever other pairs stand among them.
-/

namespace RequestBinding

/-- The different keys among those that are kept are the different keys that are kept. -/
theorem filter_eraseDups (keep : String → Bool) (keys : List String) :
    keys.eraseDups.filter keep = (keys.filter keep).eraseDups := by
  induction keys using List.reverseRecOn with
  | nil => rfl
  | append_singleton others key ih =>
    rw [eraseDups_concat, List.filter_append, List.filter_singleton]
    cases kept : keep key with
    | true =>
      rw [cond_true, eraseDups_concat, ← ih]
      by_cases old : key ∈ others.eraseDups
      · rw [if_pos old, if_pos (List.mem_filter.mpr ⟨old, kept⟩)]
      · rw [if_neg old, if_neg fun member => old (List.mem_filter.mp member).1, List.filter_append,
          List.filter_singleton, kept]
        rfl
    | false =>
      rw [cond_false, List.append_nil, ← ih]
      split
      · rfl
      · rw [List.filter_append, List.filter_singleton, kept]
        exact List.append_nil _

namespace FormValues

/-- Under a key a source has the texts that the form holds under it. -/
theorem WellFormed.values_ofForm {form : FormValues} (wellFormed : form.WellFormed) (limit : Nat)
    (key : String) : (KeySource.ofForm form limit).values key.toList = form.valuesAt key := by
  rw [valuesAt, wellFormed.indexed.get?_eq_lookup, KeySource.values, KeySource.ofForm]
  generalize form.toList = entries
  induction entries with
  | nil => rfl
  | cons entry rest ih =>
    have same : (key.toList == entry.1.toList) = (key == entry.1) := by
      rw [Bool.eq_iff_iff, beq_iff_eq, beq_iff_eq, String.toList_inj]
    rw [List.map_cons, List.lookup_cons, List.lookup_cons, same]
    cases key == entry.1 with
    | true => rfl
    | false => exact ih

/-- The values that come with a key are among the pairs that are kept when the key is. -/
theorem valuesUnder_filter (keep : String → Bool) (pairs : List (String × String)) {key : String}
    (kept : keep key = true) :
    valuesUnder (pairs.filter fun p => keep p.1) key = valuesUnder pairs key := by
  rw [valuesUnder, valuesUnder, List.filter_filter]
  congr 1
  apply List.filter_congr
  intro p _
  rw [Bool.and_eq_left_iff_imp]
  intro own
  rw [eq_of_beq own]
  exact kept

end FormValues

namespace KeySource

open FormValues

variable (pairs : List (String × String)) (limit : Nat)

theorem values_ofPairs (key : String) :
    (ofPairs pairs limit).values key.toList = valuesUnder pairs key :=
  ((wellFormed_ofPairs pairs).values_ofForm limit key).trans (valuesAt_ofPairs pairs key)

theorem entries_ofPairs :
    (ofPairs pairs limit).entries =
      (pairs.map (·.1)).eraseDups.map fun key => (key.toList, valuesUnder pairs key) := by
  rw [ofPairs, ofForm, (wellFormed_ofPairs pairs).toList_eq, keys_ofPairs, List.map_map]
  apply List.map_congr_left
  intro key _
  exact Prod.ext rfl (valuesAt_ofPairs pairs key)

/-- Pairs of different keys make an entry each. -/
theorem entries_ofPairs_of_nodup {pairs : List (String × String)}
    (distinct : (pairs.map (·.1)).Nodup) :
    (ofPairs pairs limit).entries = pairs.map fun p => (p.1.toList, [p.2]) := by
  rw [ofPairs, ofForm, toList_ofPairs distinct, List.map_map]
  rfl

/-- Pairs of one key make one entry. -/
theorem entries_ofPairs_same (name : String) {texts : List String} (given : texts ≠ []) :
    (ofPairs (texts.map fun raw => (name, raw)) limit).entries = [(name.toList, texts)] := by
  obtain ⟨raw, rest, rfl⟩ := List.exists_cons_of_ne_nil given
  have names : ((raw :: rest).map fun raw => (name, raw)).map (·.1) =
      name :: List.replicate rest.length name := by
    simp [Function.comp_def, List.map_const']
  have one := eraseDups_repeat [] [] name rest.length
  simp only [List.nil_append, List.append_nil] at one
  have all : valuesUnder ((raw :: rest).map fun raw => (name, raw)) name = raw :: rest := by
    simp [valuesUnder, List.filter_map, Function.comp_def]
  rw [entries_ofPairs, names, one]
  exact congrArg (fun values => [(name.toList, values)]) all

/-- The entries of a key and below it are those of the pairs there. -/
theorem family_ofPairs (key : Key) :
    (ofPairs pairs limit).family key =
      (ofPairs (pairs.filter fun p => Key.isWithin p.1.toList key) limit).entries := by
  have within : (pairs.filter fun p => Key.isWithin p.1.toList key).map (·.1) =
      (pairs.map (·.1)).filter fun name => Key.isWithin name.toList key := by
    rw [List.filter_map]
    rfl
  rw [family, entries_ofPairs, entries_ofPairs, List.filter_map, within, ← filter_eraseDups]
  apply List.map_congr_left
  intro name member
  have kept := (List.mem_filter.mp member).2
  exact Prod.ext rfl (valuesUnder_filter _ pairs kept).symm

end KeySource

end RequestBinding
