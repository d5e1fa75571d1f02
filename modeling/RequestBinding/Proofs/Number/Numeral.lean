import RequestBinding.Number.Integer
import RequestBinding.Proofs.Outcome

/-!
# Reading what was written

The decimal numeral that a number is shown as is read back as that number, for every integer type
that has the number among its values (`Numeral.readInt_toString`), and as an index when it fits 64
bits (`Numeral.readWord?_toDigits`). Reading stops at the first digit that leads beyond the limit,
so the proof has to know that the digits read so far never exceed the whole (`le_ofDigitChars`).
Whatever a numeral of an integer type is read as is a value of the type
(`Numeral.holds_of_readInt`).
-/

namespace RequestBinding

theorem Text.isDigit_eq (c : Char) : Text.isDigit c = c.isDigit := by
  simp [Text.isDigit, Char.isDigit, Char.le_def]

theorem Text.isDigit_iff {c : Char} : Text.isDigit c = true ↔ 48 ≤ c.toNat ∧ c.toNat ≤ 57 := by
  simp [Text.isDigit, Char.le_def, UInt32.le_iff_toNat_le]

namespace Numeral

/-- Further digits never make a number smaller. -/
theorem le_ofDigitChars (cs : List Char) (value : Nat) : value ≤ Nat.ofDigitChars 10 cs value := by
  induction cs generalizing value with
  | nil => exact Nat.le_of_eq Nat.ofDigitChars_nil.symm
  | cons c rest ih =>
    rw [Nat.ofDigitChars_cons]
    have step := ih (10 * value + (c.toNat - '0'.toNat))
    omega

theorem digitValue?_of_isDigit {c : Char} (digit : Text.isDigit c = true) :
    digitValue? 10 c = some (c.toNat - '0'.toNat) := by
  have bounds := Text.isDigit_iff.mp digit
  have small : c.toNat - '0'.toNat < 10 := by
    have zero : '0'.toNat = 48 := rfl
    omega
  unfold digitValue?
  rw [if_pos digit, if_pos small]

/-- Digits whose number stays within the limit are read as that number. -/
theorem readDigits_eq_ok {limit value : Nat} {overflow : NumeralError} {cs : List Char}
    (digits : ∀ c ∈ cs, Text.isDigit c = true) (fits : Nat.ofDigitChars 10 cs value ≤ limit) :
    readDigits 10 limit overflow value cs = .ok (Nat.ofDigitChars 10 cs value) := by
  induction cs generalizing value with
  | nil => rw [readDigits, Nat.ofDigitChars_nil]
  | cons c rest ih =>
    have first := digitValue?_of_isDigit (digits c List.mem_cons_self)
    rw [Nat.ofDigitChars_cons, Nat.mul_comm] at fits ⊢
    have soFar := Nat.le_trans (le_ofDigitChars rest _) fits
    simp only [readDigits, first, if_pos soFar]
    exact ih (fun d member => digits d (List.mem_cons_of_mem c member)) fits

theorem isDigit_of_mem_toDigits {n : Nat} {c : Char} (member : c ∈ Nat.toDigits 10 n) :
    Text.isDigit c = true := by
  rw [Text.isDigit_eq]
  exact Nat.isDigit_of_mem_toDigits (by decide) (by decide) member

theorem readMagnitude_toDigits {limit n : Nat} (overflow : NumeralError) (fits : n ≤ limit) :
    readMagnitude 10 limit overflow (Nat.toDigits 10 n) = .ok n := by
  have value : Nat.ofDigitChars 10 (Nat.toDigits 10 n) 0 = n := Nat.ofDigitChars_ten_toDigits
  have some : (Nat.toDigits 10 n).isEmpty = false := by
    rw [List.isEmpty_eq_false_iff]
    exact Nat.toDigits_ne_nil
  unfold readMagnitude
  rw [some, if_neg Bool.false_ne_true,
    readDigits_eq_ok (fun c => isDigit_of_mem_toDigits) (by rw [value]; exact fits), value]

/-- A numeral does not begin with a sign. -/
theorem toDigits_eq_cons (n : Nat) :
    ∃ c rest, Nat.toDigits 10 n = c :: rest ∧ c ≠ '+' ∧ c ≠ '-' := by
  cases shape : Nat.toDigits 10 n with
  | nil => exact absurd shape Nat.toDigits_ne_nil
  | cons c rest =>
    have digit : Text.isDigit c = true :=
      isDigit_of_mem_toDigits (shape ▸ List.mem_cons_self)
    refine ⟨c, rest, rfl, ?_, ?_⟩
    · rintro rfl
      exact absurd digit (by decide)
    · rintro rfl
      exact absurd digit (by decide)

theorem readNat_toDigits {limit n : Nat} (fits : n ≤ limit) :
    readNat 10 limit (Nat.toDigits 10 n) = .ok n := by
  obtain ⟨c, rest, shape, noPlus, _⟩ := toDigits_eq_cons n
  have read := readMagnitude_toDigits .tooLarge fits
  rw [shape] at read ⊢
  unfold readNat
  split
  · rename_i none
    cases none
  · rename_i plus
    exact absurd (List.cons.inj plus).1 noPlus
  · exact read

/-- An index is read back from its digits. -/
theorem readWord?_toDigits {n : Nat} (fits : n ≤ wordMax) :
    readWord? (Nat.toDigits 10 n) = some n := by
  rw [readWord?, readNat_toDigits fits]
  rfl

theorem toList_toString_ofNat (m : Nat) :
    (toString (Int.ofNat m)).toList = Nat.toDigits 10 m :=
  Nat.toList_repr

theorem toList_toString_negSucc (m : Nat) :
    (toString (Int.negSucc m)).toList = '-' :: Nat.toDigits 10 (m + 1) := by
  show ("-" ++ (m + 1).repr).toList = _
  rw [String.toList_append, Nat.toList_repr]
  rfl

theorem toString_ne_nil (n : Int) : (toString n).toList ≠ [] := by
  cases n with
  | ofNat m =>
    rw [toList_toString_ofNat]
    exact Nat.toDigits_ne_nil
  | negSucc m =>
    rw [toList_toString_negSucc]
    exact List.cons_ne_nil _ _

theorem isDigit_or_minus_of_mem_toString {n : Int} {c : Char} (member : c ∈ (toString n).toList) :
    Text.isDigit c = true ∨ c = '-' := by
  cases n with
  | ofNat m =>
    rw [toList_toString_ofNat] at member
    exact Or.inl (isDigit_of_mem_toDigits member)
  | negSucc m =>
    rw [toList_toString_negSucc] at member
    rcases List.mem_cons.mp member with rfl | later
    · exact Or.inr rfl
    · exact Or.inl (isDigit_of_mem_toDigits later)

/-- A number is read back from the numeral that shows it, by every type that holds it. -/
theorem readInt_toString {k : IntKind} {n : Int} (fits : k.holds n) :
    readInt k (toString n).toList = .ok n := by
  obtain ⟨above, below⟩ := fits
  cases n with
  | ofNat m =>
    obtain ⟨c, rest, shape, _, noMinus⟩ := toDigits_eq_cons m
    have within : m ≤ k.maxValue := Int.ofNat_le.mp below
    have read := readNat_toDigits within
    rw [toList_toString_ofNat]
    rw [shape] at read ⊢
    unfold readInt
    split
    · rename_i minus
      exact absurd (List.cons.inj minus).1 noMinus
    · rw [read]
      rfl
  | negSucc m =>
    have within : m + 1 ≤ k.minMagnitude := by
      rw [Int.negSucc_eq] at above
      omega
    have signed : k.isSigned = true := by
      rw [← Bool.not_eq_false]
      intro unsigned
      rw [IntKind.minMagnitude, unsigned, if_neg Bool.false_ne_true] at within
      omega
    rw [toList_toString_negSucc]
    unfold readInt
    simp only [signed, if_true, readMagnitude_toDigits .tooSmall within]
    rfl

/-! ## What is read fits -/

theorem le_of_readDigits {base limit value n : Nat} {overflow : NumeralError} {cs : List Char}
    (read : readDigits base limit overflow value cs = .ok n) (within : value ≤ limit) :
    n ≤ limit := by
  induction cs generalizing value with
  | nil =>
    cases read
    exact within
  | cons c rest ih =>
    unfold readDigits at read
    split at read
    · cases read
    · simp only at read
      split at read
      · exact ih read ‹_›
      · cases read

theorem le_of_readMagnitude {base limit n : Nat} {overflow : NumeralError} {cs : List Char}
    (read : readMagnitude base limit overflow cs = .ok n) : n ≤ limit := by
  unfold readMagnitude at read
  split at read
  · cases read
  · exact le_of_readDigits read (Nat.zero_le limit)

theorem le_of_readNat {base limit n : Nat} {cs : List Char}
    (read : readNat base limit cs = .ok n) : n ≤ limit := by
  unfold readNat at read
  split at read
  · cases read
  · exact le_of_readMagnitude read
  · exact le_of_readMagnitude read

/-- A numeral of an integer type is read as a value of the type. -/
theorem holds_of_readInt {k : IntKind} {cs : List Char} {n : Int} (read : readInt k cs = .ok n) :
    k.holds n := by
  unfold readInt at read
  split at read
  · split at read
    · obtain ⟨_, lifted, rfl⟩ := Except.map_eq_ok_iff.mp read
      obtain ⟨m, magnitude, done⟩ := Except.bind_eq_ok_iff.mp lifted
      cases done
      have bound := le_of_readMagnitude magnitude
      exact ⟨by omega, by omega⟩
    · cases read
  · obtain ⟨m, natural, rfl⟩ := Except.map_eq_ok_iff.mp read
    have bound := le_of_readNat natural
    exact ⟨by show _ ≤ (m : Int); omega, Int.ofNat_le.mpr bound⟩

end Numeral

end RequestBinding
