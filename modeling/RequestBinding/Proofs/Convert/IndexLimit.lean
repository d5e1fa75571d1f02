import RequestBinding.Proofs.Convert.FlatValues
import RequestBinding.Proofs.Convert.ListPlaces
import RequestBinding.Settings

/-!
# The limit on indices

A list takes no index above the limit, however many digits spell it: in strict mode such a number is
an error, and elsewhere its entry might as well not be there (`WireType.find_seq_skips`). The
indices that are taken are numbers within the limit, and their places can be counted in 64 bits
(`WireType.find_seq_limited`, `KeySource.placesFit`). Both need a limit below the largest number of
64 bits, as numbers are read no further than that one: at this limit itself no number is too large
(`WireType.find_seq_largest_limit`).
-/

namespace RequestBinding

namespace KeySource

/-- The source without the entries of a key whose number exceeds the limit on indices. -/
def withinLimit (src : KeySource) (key : Key) : KeySource :=
  { src with
    entries := src.entries.filter fun entry =>
      (key.digitsIn? entry.1).all fun digits => digits.number ≤ src.maxIndex }

variable {src : KeySource} {key : Key}

theorem numbered_withinLimit :
    (src.withinLimit key).numbered key = (src.numbered key).filter (·.1 ≤ src.maxIndex) := by
  rw [numbered, numbered, withinLimit, List.filterMap_filter, List.filter_filterMap]
  congr 1
  funext entry
  cases key.digitsIn? entry.1 with
  | none => rfl
  | some digits => rfl

theorem unnumbered_withinLimit : (src.withinLimit key).unnumbered key = src.unnumbered key := by
  rw [unnumbered, unnumbered, withinLimit, List.filter_filter]
  congr 1
  apply List.filter_congr
  intro entry _
  rw [Bool.and_eq_left_iff_imp]
  intro empty
  rw [eq_of_beq empty, Key.digitsIn?_bracketed_nil]
  rfl

theorem values_withinLimit : (src.withinLimit key).values key = src.values key := by
  rw [values, values, withinLimit, lookup_kept]
  intro texts
  rw [Key.digitsIn?_self]
  rfl

/-- An index that is taken is a number within the limit. -/
theorem mem_partsWithin (room : src.maxIndex < wordMax) {p : Nat × Key}
    (member : p ∈ Sequence.partsWithin src.maxIndex (src.brackets key)) :
    p ∈ src.numbered key ∧ p.1 ≤ src.maxIndex := by
  rw [partsWithin_brackets _ _ room] at member
  obtain ⟨present, within⟩ := List.mem_filter.mp (Bracket.mem_of_mem_firsts member)
  exact ⟨present, of_decide_eq_true within⟩

/-- Where a list is put together from the source, its places can be counted in 64 bits, and each
index is one of them. -/
def PlacesFit (src : KeySource) : Prop :=
  ∀ key : Key,
    let parts := Sequence.partsWithin src.maxIndex (src.brackets key)
    Sequence.placesFor parts ≤ wordMax ∧ ∀ p ∈ parts, p.1 < Sequence.placesFor parts

theorem placesFit (room : src.maxIndex < wordMax) : src.PlacesFit := by
  intro key parts
  obtain ⟨each, least⟩ := Sequence.placesFor_bounds parts
  refine ⟨least wordMax fun p member => ?_, each⟩
  exact Nat.lt_of_le_of_lt (mem_partsWithin room member).2 room

/-- Below a number within the limit nothing is left out. -/
theorem family_withinLimit {p : Nat × Key} (member : p ∈ src.numbered key)
    (within : p.1 ≤ src.maxIndex) : (src.withinLimit key).family p.2 = src.family p.2 := by
  obtain ⟨entry, _, found⟩ := List.mem_filterMap.mp member
  obtain ⟨digits, numeral, rfl⟩ := Option.map_eq_some_iff.mp found
  obtain ⟨inhabited, all, _⟩ := Key.digitsIn?_eq_some_iff.mp numeral
  rw [family, family, withinLimit, List.filter_filter]
  apply List.filter_congr
  intro other _
  rw [Bool.and_eq_left_iff_imp]
  intro below
  obtain ⟨rest, shape, _⟩ := Key.isWithin_iff.mp below
  have same : key.digitsIn? other.1 = some digits :=
    Key.digitsIn?_eq_some_iff.mpr ⟨inhabited, all, rest, shape⟩
  rw [same]
  exact decide_eq_true within

end KeySource

namespace WireType

open Sequence

variable {recs : Records} {src : KeySource} {mode : Mode} {item : WireType} {key : Key}

/-- Where an index above the limit is no error, its entry might as well not be there: in lenient
mode, for lists of files and for flat lists. -/
theorem find_seq_skips (room : src.maxIndex < wordMax)
    (skips : mode = .lenient ∨ ¬ (item ≠ .file ∧ (item.isFlat = true → src.values key = []))) :
    (seq item).find recs src mode key = (seq item).find recs (src.withinLimit key) mode key := by
  by_cases file : item = .file
  · rw [file, find_seq, find_seq]
    rfl
  by_cases noFlatList : item.isFlat = true → src.values key = []
  swap
  · obtain ⟨isFlat, given⟩ := Classical.not_imp.mp noFlatList
    have given' : (src.withinLimit key).values key ≠ [] := by
      rw [KeySource.values_withinLimit]
      exact given
    rw [find_seq_flat isFlat given, find_seq_flat isFlat given', KeySource.values_withinLimit]
  have noFlatList' : item.isFlat = true → (src.withinLimit key).values key = [] := by
    rw [KeySource.values_withinLimit]
    exact noFlatList
  have lenient : mode = .lenient := skips.resolve_right (absurd ⟨file, noFlatList⟩)
  have allowed : ∀ brackets, mode = .strict → tooLarge? src.maxIndex brackets = none := by
    intro _ strict
    rw [lenient] at strict
    cases strict
  have parts : partsWithin src.maxIndex ((src.withinLimit key).brackets key) =
      partsWithin src.maxIndex (src.brackets key) := by
    rw [KeySource.partsWithin_brackets _ _ room, KeySource.partsWithin_brackets _ _ room,
      KeySource.numbered_withinLimit, List.filter_filter]
    simp only [Bool.and_self]
  have texts : appended ((src.withinLimit key).brackets key) = appended (src.brackets key) := by
    rw [KeySource.appended_brackets, KeySource.appended_brackets,
      KeySource.unnumbered_withinLimit]
  have found : ∀ p ∈ partsWithin src.maxIndex (src.brackets key),
      item.find recs src mode p.2 = item.find recs (src.withinLimit key) mode p.2 := by
    intro p member
    obtain ⟨numbered, within⟩ := KeySource.mem_partsWithin room member
    exact find_eq_of_family_eq item p.2 (KeySource.family_withinLimit numbered within).symm
      rfl rfl rfl
  rw [find_seq_assemble file noFlatList, find_seq_assemble file noFlatList',
    assemble_of_tooLarge?_eq_none (allowed _), show (src.withinLimit key).maxIndex = src.maxIndex
      from rfl, assemble_of_tooLarge?_eq_none (allowed _), parts, texts]
  simp only [build, collect_congr found]

/-- A number above the limit on indices, however many digits spell it, is never the index of an item
of a list. Where lists are put together from brackets, in strict mode the first such number is an
error; else the list is what it would be without the entries of such numbers. The indices that are
taken are numbers within the limit, the places that they need can be counted in 64 bits, and each
index is one of these places. -/
theorem find_seq_limited (recs : Records) (mode : Mode) (item : WireType) (key : Key)
    (room : src.maxIndex < wordMax) :
    let numbered := src.numbered key
    let parts := partsWithin src.maxIndex (src.brackets key)
    let result := (seq item).find recs src mode key
    let fromBrackets := item ≠ .file ∧ (item.isFlat = true → src.values key = [])
    (mode = .strict → fromBrackets → ∀ p ∈ numbered, src.maxIndex < p.1 →
        ∃ q, numbered.find? (src.maxIndex < ·.1) = some q ∧
          result = .error (.indexTooLarge q.2 (min q.1 wordMax) src.maxIndex)) ∧
      (mode = .lenient ∨ ¬ fromBrackets →
        result = (seq item).find recs (src.withinLimit key) mode key) ∧
      ∀ p ∈ parts, p ∈ numbered ∧ p.1 ≤ src.maxIndex ∧ p.1 + 1 ≤ wordMax ∧
        p.1 < placesFor parts ∧ placesFor parts ≤ wordMax := by
  intro numbered parts result fromBrackets
  refine ⟨?_, ?_, ?_⟩
  · rintro rfl ⟨noFile, noFlatList⟩ p member beyond
    obtain ⟨q, first⟩ : ∃ q, numbered.find? (src.maxIndex < ·.1) = some q := by
      rw [← Option.isSome_iff_exists, List.find?_isSome]
      exact ⟨p, member, decide_eq_true beyond⟩
    exact ⟨q, first, find_seq_tooLarge room noFile noFlatList first⟩
  · exact find_seq_skips room
  · intro p member
    obtain ⟨present, within⟩ := KeySource.mem_partsWithin room member
    obtain ⟨few, each⟩ := KeySource.placesFit room key
    exact ⟨present, within, by omega, each p member, few⟩

/-- A number of twenty digits does not fit 64 bits, and is above the limit like the one of three
digits that comes later. -/
theorem find_seq_limited_beyond :
    let src : KeySource :=
      { entries := [("n[99999999999999999999]".toList, ["1"]), ("n[007]".toList, ["5"]),
          ("n[100]".toList, ["2"])],
        maxIndex := 7 }
    let type : WireType := .scalar (.int .int32)
    src.maxIndex < wordMax ∧
      (seq type).find {} src .strict "n".toList =
        .error (.indexTooLarge "n[99999999999999999999]".toList wordMax 7) ∧
      (seq type).find {} src .lenient "n".toList =
        (seq type).find {} { entries := [("n[007]".toList, ["5"])], maxIndex := 7 } .lenient
          "n".toList ∧
      partsWithin 7 (src.brackets "n".toList) = [(7, "n[007]".toList)] ∧
      placesFor [(7, "n[007]".toList)] ≤ wordMax := by
  intro src type
  have room : src.maxIndex < wordMax := by decide
  have fromBrackets : type ≠ .file ∧ (type.isFlat = true → src.values "n".toList = []) :=
    ⟨nofun, fun _ => rfl⟩
  have taken : partsWithin src.maxIndex (src.brackets "n".toList) = [(7, "n[007]".toList)] := rfl
  obtain ⟨rejects, -, -⟩ := find_seq_limited {} .strict type _ room
  obtain ⟨-, skips, counted⟩ := find_seq_limited {} .lenient type _ room
  obtain ⟨q, first, rejected⟩ :=
    rejects rfl fromBrackets (100, "n[100]".toList) (by decide) (by decide)
  cases first
  rw [taken] at counted
  exact ⟨room, rejected, skips (Or.inl rfl), taken, (counted _ List.mem_cons_self).2.2.2.2⟩

/-- The largest limit that a variable can set is the largest number of 64 bits. Larger numbers are
read as that one, so they are taken as indices within the limit, and their places cannot be counted
in 64 bits. -/
theorem find_seq_largest_limit :
    let settings := Settings.ofLookup fun name =>
      if name = Settings.indexVariable then some "18446744073709551615" else none
    let src : KeySource :=
      { entries := [("n[18446744073709551616]".toList, ["x"])], maxIndex := settings.maxIndex }
    let part : Key := "n[18446744073709551616]".toList
    src.maxIndex = wordMax ∧
      src.numbered "n".toList = [(wordMax + 1, part)] ∧
      (seq (.scalar (.int .int32))).find {} src .strict "n".toList =
        .error (.invalid "i32" "x" (.integer .invalidDigit)) ∧
      partsWithin src.maxIndex (src.brackets "n".toList) = [(wordMax, part)] ∧
      wordMax < placesFor [(wordMax, part)] :=
  ⟨rfl, rfl, rfl, rfl, by decide⟩

end WireType

end RequestBinding
