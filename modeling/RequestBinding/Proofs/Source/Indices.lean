import RequestBinding.Proofs.Number.Numeral
import RequestBinding.Proofs.Source.KeyFamily

/-!
# Indices in keys

An entry `key[digits]…` of a source speaks about the item of a list that the digits number. Here the
digits are read as the number that they write, however many there are; the reading of brackets keeps
numbers within 64 bits.

* `Bracket.indexOf_eq_min`: a number that does not fit 64 bits is read as the largest that does.
* `KeySource.filterMap_index?_brackets`: the brackets of a source give the numbered entries in
  order, each with its number as it is read.
* `KeySource.appended_brackets`: they give the texts under `key[]` besides.
* `KeySource.tooLarge?_brackets`, `KeySource.partsWithin_brackets`: below the largest number of 64
  bits a limit is met by the numbers themselves.
-/

namespace RequestBinding

/-! ## Numbers of any size -/

namespace Numeral

variable {limit value : Nat} {overflow : NumeralError} {cs : List Char}

/-- Digits whose number exceeds the limit are not read. -/
theorem readDigits_eq_error (digits : ∀ c ∈ cs, Text.isDigit c = true) (within : value ≤ limit)
    (exceeds : limit < Nat.ofDigitChars 10 cs value) :
    readDigits 10 limit overflow value cs = .error overflow := by
  induction cs generalizing value with
  | nil =>
    rw [Nat.ofDigitChars_nil] at exceeds
    omega
  | cons c rest ih =>
    have first := digitValue?_of_isDigit (digits c List.mem_cons_self)
    rw [Nat.ofDigitChars_cons, Nat.mul_comm] at exceeds
    simp only [readDigits, first]
    split
    · rename_i soFar
      exact ih (fun d member => digits d (List.mem_cons_of_mem c member)) soFar exceeds
    · rfl

/-- Digits are read as their number when it fits 64 bits, and else not at all. -/
theorem readWord?_digits (inhabited : cs ≠ []) (digits : ∀ c ∈ cs, Text.isDigit c = true) :
    readWord? cs =
      if Nat.ofDigitChars 10 cs 0 ≤ wordMax then some (Nat.ofDigitChars 10 cs 0) else none := by
  obtain ⟨c, rest, rfl⟩ := List.exists_cons_of_ne_nil inhabited
  have unsigned : readNat 10 wordMax (c :: rest) =
      readDigits 10 wordMax .tooLarge 0 (c :: rest) := by
    unfold readNat
    split
    · rename_i none
      cases none
    · rename_i plus
      obtain ⟨rfl, rfl⟩ := List.cons.inj plus
      exact absurd (digits '+' List.mem_cons_self) (by decide)
    · rfl
  rw [readWord?, unsigned]
  split
  · rename_i fits
    rw [readDigits_eq_ok digits fits]
    rfl
  · rename_i large
    rw [readDigits_eq_error digits (Nat.zero_le _) (Nat.lt_of_not_le large)]
    rfl

end Numeral

namespace Key

/-- The number that digits write, however large it is. -/
def number (digits : Key) : Nat :=
  Nat.ofDigitChars 10 digits 0

/-- The digits in a candidate of the form `key[digits]…`. -/
def digitsIn? (key candidate : Key) : Option Key :=
  match Text.dropLead? (key ++ ['[']) candidate with
  | none => none
  | some rest =>
    if rest.takeWhile Text.isDigit ≠ [] ∧ (rest.dropWhile Text.isDigit).head? = some ']' then
      some (rest.takeWhile Text.isDigit)
    else none

variable {key candidate digits : Key}

theorem not_mem_of_digits (all : ∀ c ∈ digits, Text.isDigit c = true) : ']' ∉ digits :=
  fun member => absurd (all _ member) (by decide)

/-- The digits of a candidate are what stands between its brackets, if that is a numeral. -/
theorem digitsIn?_eq_some_iff :
    digitsIn? key candidate = some digits ↔
      digits ≠ [] ∧ (∀ c ∈ digits, Text.isDigit c = true) ∧
        ∃ rest, candidate = key.bracketed digits ++ rest := by
  constructor
  · intro found
    unfold digitsIn? at found
    split at found
    · cases found
    · rename_i rest lead
      have text := Text.dropLead?_eq_some_iff.mp lead
      split at found
      · rename_i numeral
        obtain ⟨inhabited, closed⟩ := numeral
        cases found
        obtain ⟨after, tail⟩ := List.head?_eq_some_iff.mp closed
        have whole : rest = rest.takeWhile Text.isDigit ++ ']' :: after := by
          rw [← tail, List.takeWhile_append_dropWhile]
        refine ⟨inhabited, fun c => List.all_eq_true.mp List.all_takeWhile c, after, ?_⟩
        rw [bracketed_append, ← whole, text, List.append_assoc]
        rfl
      · cases found
  · rintro ⟨inhabited, all, rest, rfl⟩
    have lead : Text.dropLead? (key ++ ['[']) (key.bracketed digits ++ rest) =
        some (digits ++ ']' :: rest) := by
      rw [Text.dropLead?_eq_some_iff, bracketed_append]
      simp
    have closing : Text.isDigit ']' = false := by decide
    have stops : (digits ++ ']' :: rest).takeWhile Text.isDigit = digits := by
      rw [List.takeWhile_append_of_pos all, List.takeWhile_cons, closing]
      simp
    have after : (digits ++ ']' :: rest).dropWhile Text.isDigit = ']' :: rest := by
      rw [List.dropWhile_append_of_pos all, List.dropWhile_cons, closing]
      simp
    unfold digitsIn?
    simp only [lead, stops, after, List.head?_cons]
    rw [if_pos ⟨inhabited, trivial⟩]

/-- Empty brackets hold no digits. -/
theorem digitsIn?_bracketed_nil (key : Key) : key.digitsIn? (key.bracketed []) = none := by
  rw [Option.eq_none_iff_forall_not_mem]
  intro digits found
  obtain ⟨inhabited, all, rest, shape⟩ := digitsIn?_eq_some_iff.mp found
  obtain ⟨c, more, rfl⟩ := List.exists_cons_of_ne_nil inhabited
  rw [bracketed_append, bracketed, List.append_assoc] at shape
  have closing : ']' = c := (List.cons.inj (List.cons.inj (List.append_cancel_left shape)).2).1
  exact not_mem_of_digits all (closing ▸ List.mem_cons_self)

theorem digitsIn?_self (key : Key) : key.digitsIn? key = none := by
  rw [Option.eq_none_iff_forall_not_mem]
  intro digits found
  obtain ⟨_, _, rest, shape⟩ := digitsIn?_eq_some_iff.mp found
  have length := congrArg List.length shape
  rw [bracketed_append, List.length_append, List.length_cons] at length
  omega

end Key

/-! ## Brackets -/

namespace Bracket

/-- A number that does not fit 64 bits is read as the largest that does. -/
theorem indexOf_eq_min {digits : Key} (inhabited : digits ≠ [])
    (all : ∀ c ∈ digits, Text.isDigit c = true) :
    indexOf digits = min digits.number wordMax := by
  rw [indexOf, Numeral.readWord?_digits inhabited all, Key.number]
  split
  · rename_i fits
    exact (Nat.min_eq_left fits).symm
  · rename_i large
    exact (Nat.min_eq_right (Nat.le_of_not_le large)).symm

/-- The index of an entry is the number of its digits as it is read. -/
theorem index?_of_read? (key : Key) (entry : Key × List String) :
    (read? key entry).bind index? = (key.digitsIn? entry.1).map fun digits =>
      (min digits.number wordMax, key.bracketed digits) := by
  cases found : key.digitsIn? entry.1 with
  | some digits =>
    obtain ⟨inhabited, all, rest, shape⟩ := Key.digitsIn?_eq_some_iff.mp found
    have free := Key.not_mem_of_digits all
    have index : (ofName key digits).index? = some (indexOf digits, key.bracketed digits) := by
      rw [ofName, if_pos (List.all_eq_true.mpr all), index?]
    rw [show entry = (key.bracketed digits ++ rest, entry.2) from Prod.ext shape rfl,
      read?_bracketed free, if_neg inhabited, Option.bind_some, index,
      indexOf_eq_min inhabited all, Option.map_some]
  | none =>
    rw [Option.map_none, Option.bind_eq_none_iff]
    intro b read
    obtain ⟨inner, after, free, shape⟩ := shape_of_read? read
    rw [show entry = (key.bracketed inner ++ after, entry.2) from Prod.ext shape rfl,
      read?_bracketed free] at read
    split at read
    · split at read
      · cases read
        rfl
      · cases read
    · rename_i inhabited
      cases read
      unfold ofName
      split
      · rename_i digits
        have numeral := Key.digitsIn?_eq_some_iff.mpr
          ⟨inhabited, List.all_eq_true.mp digits, after, shape⟩
        rw [found] at numeral
        cases numeral
      · rfl

/-- The texts of an entry count where its key ends with empty brackets. -/
theorem appended_of_read? (key : Key) (entry : Key × List String) :
    ((read? key entry).map appended).getD [] =
      if entry.1 == key.bracketed [] then entry.2 else [] := by
  by_cases empty : entry.1 = key.bracketed []
  · have read : read? key entry = some (.unindexed entry.2) := by
      rw [show entry = (key.bracketed [] ++ [], entry.2) from
        Prod.ext (empty.trans (List.append_nil _).symm) rfl, read?_bracketed List.not_mem_nil]
      rfl
    rw [read, if_pos (beq_iff_eq.mpr empty)]
    rfl
  · rw [if_neg (mt beq_iff_eq.mp empty)]
    cases read : read? key entry with
    | none => rfl
    | some b =>
      rcases eq_of_read? read with ⟨ends, _⟩ | ⟨inner, _, _, rfl⟩
      · exact absurd ends empty
      · unfold ofName
        split <;> rfl

end Bracket

namespace KeySource

/-- The numbered entries of a key in order: for each `key[digits]…` its number and `key[digits]`. -/
def numbered (src : KeySource) (key : Key) : List (Nat × Key) :=
  src.entries.filterMap fun entry => (key.digitsIn? entry.1).map fun digits =>
    (digits.number, key.bracketed digits)

/-- The texts under `key[]`. -/
def unnumbered (src : KeySource) (key : Key) : List String :=
  (src.entries.filter (·.1 == key.bracketed [])).flatMap (·.2)

variable (src : KeySource) (key : Key)

/-- The indices that the brackets of a source give are its numbers as they are read. -/
theorem filterMap_index?_brackets :
    (src.brackets key).filterMap Bracket.index? =
      (src.numbered key).map fun p => (min p.1 wordMax, p.2) := by
  rw [brackets, numbered, List.filterMap_filterMap, List.map_filterMap]
  congr 1
  funext entry
  rw [Bracket.index?_of_read?, Option.map_map]
  rfl

theorem appended_brackets : Sequence.appended (src.brackets key) = src.unnumbered key := by
  rw [Sequence.appended, brackets, unnumbered]
  induction src.entries with
  | nil => rfl
  | cons entry rest ih =>
    have first : ((entry :: rest).filter (·.1 == key.bracketed [])).flatMap (·.2) =
        ((Bracket.read? key entry).map Bracket.appended).getD [] ++
          (rest.filter (·.1 == key.bracketed [])).flatMap (·.2) := by
      rw [Bracket.appended_of_read?, List.filter_cons]
      split
      · rw [List.flatMap_cons]
      · rw [List.nil_append]
    rw [first, ← ih, List.filterMap_cons]
    cases Bracket.read? key entry with
    | none => rfl
    | some b => rfl

/-- A number exceeds a limit below the largest number of 64 bits when its reading does. -/
theorem tooLarge?_brackets {limit : Nat} (room : limit < wordMax) :
    Sequence.tooLarge? limit (src.brackets key) =
      ((src.numbered key).find? (limit < ·.1)).map fun p => (min p.1 wordMax, p.2) := by
  have alike : ((fun part : Nat × Key => decide (limit < part.1)) ∘ fun p : Nat × Key =>
      (min p.1 wordMax, p.2)) = fun p => decide (limit < p.1) := by
    funext p
    simp only [Function.comp_apply, decide_eq_decide]
    omega
  rw [Sequence.tooLarge?, filterMap_index?_brackets, List.find?_map, alike]

theorem partsWithin_brackets {limit : Nat} (room : limit < wordMax) :
    Sequence.partsWithin limit (src.brackets key) =
      Bracket.firsts [] ((src.numbered key).filter (·.1 ≤ limit)) := by
  have alike : ((fun part : Nat × Key => decide (part.1 ≤ limit)) ∘ fun p : Nat × Key =>
      (min p.1 wordMax, p.2)) = fun p => decide (p.1 ≤ limit) := by
    funext p
    simp only [Function.comp_apply, decide_eq_decide]
    omega
  have asRead : ((src.numbered key).filter (·.1 ≤ limit)).map (fun p => (min p.1 wordMax, p.2)) =
      (src.numbered key).filter (·.1 ≤ limit) := by
    apply (List.map_congr_left ?_).trans (List.map_id _)
    intro p member
    have within := of_decide_eq_true (List.mem_filter.mp member).2
    exact Prod.ext (Nat.min_eq_left (by omega)) rfl
  rw [Sequence.partsWithin, filterMap_index?_brackets, List.filter_map, alike, asRead]

end KeySource

end RequestBinding
