import Mathlib.Data.List.TakeWhile
import Mathlib.Data.Nat.Digits.Defs
import RequestBinding.Number.Decimal
import RequestBinding.Proofs.Number.Numeral

/-!
# Numerals as decimal literals

The numeral that shows an integer is a decimal literal too: digits without a point and an exponent,
and none of the words that stand for special numbers. It is read as the float that is made of the
integer (`DecimalLiteral.read_toString`).
-/

namespace RequestBinding

namespace DecimalLiteral

theorem digitsValue_eq (cs : List Char) : digitsValue cs = Nat.ofDigitChars 10 cs 0 := by
  rw [digitsValue, Nat.ofDigitChars]
  congr 1
  funext n c
  rw [Nat.mul_comm]

/-- Digits are a number without fraction and exponent. -/
theorem readFinite_toDigits (n : Nat) : readFinite (Nat.toDigits 10 n) = some (.finite n 0) := by
  have digits : ∀ c ∈ Nat.toDigits 10 n, Text.isDigit c = true :=
    fun c => Numeral.isDigit_of_mem_toDigits
  have whole : (Nat.toDigits 10 n).takeWhile Text.isDigit = Nat.toDigits 10 n :=
    List.takeWhile_eq_self_iff.mpr digits
  have nothing : (Nat.toDigits 10 n).dropWhile Text.isDigit = [] :=
    List.dropWhile_eq_nil_iff.mpr digits
  have filled : (Nat.toDigits 10 n).isEmpty = false :=
    List.isEmpty_eq_false_iff.mpr Nat.toDigits_ne_nil
  simp only [readFinite, whole, nothing, filled, Bool.false_and, Bool.false_eq_true, if_false,
    List.append_nil, digitsValue_eq, Nat.ofDigitChars_ten_toDigits, readExponent]
  rfl

/-- None of the words that are magnitudes begins with a digit. -/
theorem readMagnitude_eq_readFinite {c : Char} (digit : Text.isDigit c = true) (rest : List Char) :
    readMagnitude (c :: rest) = readFinite (c :: rest) := by
  have lower : Text.asciiLower c = c := by
    have bounds := Text.isDigit_iff.mp digit
    have capital : 'A'.toNat = 65 := rfl
    refine if_neg fun upper => ?_
    have above : 'A'.toNat ≤ c.toNat :=
      UInt32.le_iff_toNat_le.mp (of_decide_eq_true (Bool.and_eq_true_iff.mp upper).1)
    omega
  have noWord : ∀ word : String, word.toList.head?.all Text.isDigit = false →
      (String.ofList ((c :: rest).map Text.asciiLower) == word) = false := by
    intro word other
    rw [beq_eq_false_iff_ne]
    rintro rfl
    rw [String.toList_ofList, List.map_cons, lower, List.head?_cons, Option.all_some,
      digit] at other
    cases other
  unfold readMagnitude
  simp only [noWord "inf" rfl, noWord "infinity" rfl, noWord "nan" rfl, Bool.or_self,
    Bool.false_eq_true, if_false]

theorem toFloat_natural (negative : Bool) {n : Nat} (fits : n ≤ 2 ^ 64) :
    toFloat ⟨negative, .finite n 0⟩ = if negative then -Float.ofNat n else Float.ofNat n := by
  have scaled : scale n 0 = .ok (n, 0) := by
    by_cases zero : n = 0
    · subst zero
      rfl
    · have short : (Nat.toDigits 10 n).length ≤ 20 :=
        Nat.toDigits_length 10 n 20 (by decide) (Nat.lt_of_le_of_lt fits (by decide))
      simp only [scale]
      rw [if_neg (by simpa using zero), if_neg (by omega), if_neg (by omega)]
  simp only [toFloat, scaled]
  rfl

/-- A numeral is read as the float of its number. -/
theorem read_toString {n : Int} (fits : n.natAbs ≤ 2 ^ 64) :
    (read (toString n).toList).toOption.map toFloat = some (Float.ofInt n) := by
  have filled : (toString n).toList.isEmpty = false :=
    List.isEmpty_eq_false_iff.mpr (Numeral.toString_ne_nil n)
  have magnitude : ∀ m : Nat, readMagnitude (Nat.toDigits 10 m) = some (.finite m 0) := by
    intro m
    obtain ⟨c, rest, shape, -⟩ := Numeral.toDigits_eq_cons m
    have digit : Text.isDigit c = true :=
      Numeral.isDigit_of_mem_toDigits (shape ▸ List.mem_cons_self)
    rw [← readFinite_toDigits, shape, readMagnitude_eq_readFinite digit]
  rw [read, filled, if_neg Bool.false_ne_true]
  cases n with
  | ofNat m =>
    have unsigned : readSign (Nat.toDigits 10 m) = (false, Nat.toDigits 10 m) := by
      obtain ⟨c, rest, shape, noPlus, noMinus⟩ := Numeral.toDigits_eq_cons m
      rw [shape]
      unfold readSign
      split
      · rename_i minus
        exact absurd (List.cons.inj minus).1 noMinus
      · rename_i plus
        exact absurd (List.cons.inj plus).1 noPlus
      · rfl
    rw [Numeral.toList_toString_ofNat, unsigned]
    simp only [magnitude]
    exact congrArg some (toFloat_natural false fits)
  | negSucc m =>
    rw [Numeral.toList_toString_negSucc]
    simp only [readSign, magnitude]
    exact congrArg some (toFloat_natural true fits)

end DecimalLiteral

end RequestBinding
