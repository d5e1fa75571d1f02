import RequestBinding.Proofs.Source.KeyFamily

/-!
# Names in keys

An entry `key[name]…` of a source speaks about the entry of a map. What stands up to the first
closing bracket is its name, digits or not. The brackets of a source give the names in order
(`KeySource.filterMap_mapKey?_brackets`), and of the parts that they name the first of each name is
kept, so that every name is looked at once, where it comes first (`KeySource.firsts_names`).
-/

namespace RequestBinding

namespace Key

/-- The name in a candidate of the form `key[name]…`. -/
def nameIn? (key candidate : Key) : Option Key :=
  match Text.dropLead? (key ++ ['[']) candidate with
  | none => none
  | some rest =>
    match Text.cutAt ']' rest with
    | none => none
    | some (name, _) => if name.isEmpty then none else some name

/-- The name of a candidate is what stands in its first pair of brackets, if that is something. -/
theorem nameIn?_eq_some_iff {key candidate name : Key} :
    key.nameIn? candidate = some name ↔
      name ≠ [] ∧ ']' ∉ name ∧ ∃ rest, candidate = key.bracketed name ++ rest := by
  constructor
  · intro found
    unfold nameIn? at found
    split at found
    · cases found
    · rename_i rest lead
      split at found
      · cases found
      · rename_i inner after cut
        obtain ⟨split, free⟩ := Text.cutAt_eq_some_iff.mp cut
        split at found
        · cases found
        · rename_i inhabited
          cases found
          refine ⟨mt List.isEmpty_iff.mpr inhabited, free, after, ?_⟩
          rw [Text.dropLead?_eq_some_iff.mp lead, split, bracketed_append]
          simp
  · rintro ⟨inhabited, free, rest, rfl⟩
    have lead : Text.dropLead? (key ++ ['[']) (key.bracketed name ++ rest) =
        some (name ++ ']' :: rest) := by
      rw [Text.dropLead?_eq_some_iff, bracketed_append]
      simp
    unfold nameIn?
    simp only [lead, Text.cutAt_append free]
    rw [if_neg (mt List.isEmpty_iff.mp inhabited)]

end Key

/-- The name that a bracket gives to its part is the name in the key of the entry. -/
theorem Bracket.mapKey?_of_read? (key : Key) (entry : Key × List String) :
    (read? key entry).bind mapKey? =
      (key.nameIn? entry.1).map fun name => (name, key.bracketed name) := by
  cases found : key.nameIn? entry.1 with
  | some name =>
    obtain ⟨inhabited, free, rest, shape⟩ := Key.nameIn?_eq_some_iff.mp found
    rw [show entry = (key.bracketed name ++ rest, entry.2) from Prod.ext shape rfl,
      read?_bracketed free, if_neg inhabited, Option.bind_some, mapKey?_ofName, Option.map_some]
  | none =>
    rw [Option.map_none, Option.bind_eq_none_iff]
    intro b read
    obtain ⟨inner, after, free, shape⟩ := shape_of_read? read
    rw [show entry = (key.bracketed inner ++ after, entry.2) from Prod.ext shape rfl,
      read?_bracketed free] at read
    split at read
    · split at read
      · cases read
        rfl
      · cases read
    · rename_i inhabited
      rw [Key.nameIn?_eq_some_iff.mpr ⟨inhabited, free, after, shape⟩] at found
      cases found

/-- Of parts that follow from their labels those of the different labels are kept, except for the
labels that have been seen. -/
theorem Bracket.firsts_map {α : Type} [BEq α] [LawfulBEq α] (part : α → Key)
    (seen labels : List α) :
    firsts seen (labels.map fun label => (label, part label)) =
      (labels.filter fun label => !seen.contains label).eraseDups.map fun label =>
        (label, part label) := by
  induction labels generalizing seen with
  | nil => rfl
  | cons own rest ih =>
    rw [List.map_cons, firsts, List.filter_cons]
    split
    · rename_i old
      rw [ih, old]
      rfl
    · rename_i fresh
      have others : (fun label => !(own :: seen).contains label) = fun label =>
          !label == own && !seen.contains label := by
        funext label
        rw [List.contains_cons, Bool.not_or]
      rw [ih, others, Bool.eq_false_iff.mpr fresh, Bool.not_false, if_pos rfl, List.eraseDups_cons,
        List.map_cons, List.filter_filter]

namespace KeySource

/-- The names of the entries `key[name]…` of a source in order, each as often as it comes. -/
def names (src : KeySource) (key : Key) : List Key :=
  src.entries.filterMap fun entry => key.nameIn? entry.1

theorem filterMap_mapKey?_brackets (src : KeySource) (key : Key) :
    (src.brackets key).filterMap Bracket.mapKey? =
      (src.names key).map fun name => (name, key.bracketed name) := by
  rw [brackets, names, List.filterMap_filterMap, List.map_filterMap]
  congr 1
  funext entry
  exact Bracket.mapKey?_of_read? key entry

/-- The parts that the names of a source give are looked at once each. -/
theorem firsts_names (src : KeySource) (key : Key) :
    Bracket.firsts [] ((src.brackets key).filterMap Bracket.mapKey?) =
      (src.names key).eraseDups.map fun name => (name, key.bracketed name) := by
  rw [filterMap_mapKey?_brackets, Bracket.firsts_map]
  congr 2
  exact List.filter_eq_self.mpr fun _ _ => rfl

end KeySource

end RequestBinding
