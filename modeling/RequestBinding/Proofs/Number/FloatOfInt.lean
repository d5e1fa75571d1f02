import Mathlib
import RequestBinding.Proofs.Number.Rounding

/-!
# Integers as floats

A float that is made of an integer is that integer, rounded to 53 binary digits
(`Rounding.represents_ofInt`). The model of floats rounds in units of a power of two, which is the
number of units nearest to the exact one (`roundedMantissa_shiftRight`), and what is rounded to 53
digits is packed without loss (`unpack_pack`). Small integers are converted as machine words and
then multiplied by one; long ones are scaled like decimal literals. Both ways end in the same
rounding.
-/

namespace RequestBinding.Rounding

open Float.Model Float.Model.UnpackedFloat

theorem shiftRight_succ (n k : Nat) :
    (ExtendedMantissa.ofMantissaAndAccuracy n .exact >>> (k + 1) : ExtendedMantissa) =
      ⟨n / 2 ^ (k + 1), n / 2 ^ k % 2 != 0, n % 2 ^ k != 0⟩ := by
  induction k with
  | zero =>
    show ExtendedMantissa.shiftRightOne ⟨n, false, false⟩ = _
    simp [ExtendedMantissa.shiftRightOne, Nat.mod_one]
  | succ k ih =>
    show ExtendedMantissa.shiftRightOne
      (ExtendedMantissa.ofMantissaAndAccuracy n .exact >>> (k + 1)) = _
    rw [ih, ExtendedMantissa.shiftRightOne]
    have quotient : n / 2 ^ (k + 1) / 2 = n / 2 ^ (k + 1 + 1) := by
      rw [Nat.div_div_eq_div_mul, ← Nat.pow_succ]
    have rest : n % 2 ^ (k + 1) = 2 ^ k * (n / 2 ^ k % 2) + n % 2 ^ k := by
      rw [Nat.pow_succ, Nat.mod_mul, Nat.add_comm]
    have lost : (n / 2 ^ k % 2 != 0 || n % 2 ^ k != 0) = (n % 2 ^ (k + 1) != 0) := by
      rw [rest]
      rcases Nat.mod_two_eq_zero_or_one (n / 2 ^ k) with even | odd
      · simp [even]
      · simp [odd]
    simp only [quotient, lost]

/-- Shifting to the right and rounding gives the nearest number of units. -/
theorem roundedMantissa_shiftRight (n k : Nat) :
    (ExtendedMantissa.ofMantissaAndAccuracy n .exact >>> k : ExtendedMantissa).roundedMantissa =
      nearest n k := by
  cases k with
  | zero =>
    rw [nearest_zero]
    rfl
  | succ k =>
    have rest : n % 2 ^ (k + 1) = 2 ^ k * (n / 2 ^ k % 2) + n % 2 ^ k := by
      rw [Nat.pow_succ, Nat.mod_mul, Nat.add_comm]
    have below : n % 2 ^ k < 2 ^ k := Nat.mod_lt _ (Nat.two_pow_pos k)
    have double : 2 ^ (k + 1) = 2 * 2 ^ k := by rw [Nat.pow_succ, Nat.mul_comm]
    rw [shiftRight_succ, nearest, rest, double]
    rcases Nat.mod_two_eq_zero_or_one (n / 2 ^ k) with even | odd
    · rw [even, if_pos (Or.inl (by omega))]
      cases n % 2 ^ k != 0 <;> rfl
    · rw [odd, Nat.mul_one]
      by_cases exact : n % 2 ^ k = 0
      · rw [exact]
        have half : (1 != 0) = true ∧ (0 != 0) = false := by decide
        simp only [half.1, half.2, ExtendedMantissa.roundedMantissa, ExtendedMantissa.accuracy,
          Accuracy.roundToNearestEven]
        split <;> omega
      · have sticky : (n % 2 ^ k != 0) = true := bne_iff_ne.mpr exact
        rw [sticky, if_neg (by omega)]
        rfl

/-- The exponent of a number in canonical form is the one that leaves it 53 digits. -/
theorem targetExponent_eq {n j : Nat} (low : 2 ^ (52 + j) ≤ n) (high : n < 2 ^ (53 + j)) {e : Int}
    (normal : -1074 ≤ e + j) :
    Format.binary64.targetExponent (totalExponent n e) = e + j := by
  have positive : n ≠ 0 := by
    rintro rfl
    exact absurd low (Nat.not_le_of_lt (Nat.two_pow_pos _))
  have digits : n.log2 = 52 + j := by
    rw [Nat.log2_eq_iff positive, show 52 + j + 1 = 53 + j by omega]
    exact ⟨low, high⟩
  have least : Format.binary64.minExponent = -1074 := by decide
  rw [Format.targetExponent, totalExponent, digits, least]
  show max (((52 + j : Nat) : Int) + 1 + e - ((1 + 52 : Nat) : Int)) (-1074) = e + j
  omega

/-- A number with at least 53 digits is rounded to 53 digits; if this carries over, the exponent
grows by one. -/
theorem roundWithAccuracy_eq {n j : Nat} (low : 2 ^ (52 + j) ≤ n) (high : n < 2 ^ (53 + j))
    (sign : Sign) {e : Int} (normal : -1074 ≤ e + j) :
    ∃ m c positive, roundWithAccuracy Format.binary64 sign n e .exact =
        .finite sign m (e + j + (c : Nat)) positive ∧
      2 ^ 52 ≤ m ∧ m < 2 ^ 53 ∧ c ≤ 1 ∧ m * 2 ^ c = nearest n j := by
  obtain ⟨above, below⟩ := nearest_bounds low high
  have first : shiftToTargetExponent Format.binary64 n e .exact =
      (ExtendedMantissa.ofMantissaAndAccuracy n .exact >>> j, e + j) := by
    have shift : (e + j - e).toNat = j := by omega
    simp only [shiftToTargetExponent, shiftToExponent, targetExponent_eq low high normal, shift]
  rw [roundWithAccuracy]
  simp only [first, roundedMantissa_shiftRight]
  rcases Nat.lt_or_ge (nearest n j) (2 ^ 53) with fits | carry
  · refine ⟨nearest n j, 0, by omega, ?_, above, fits, by omega, by omega⟩
    have still : shiftToTargetExponent Format.binary64 (nearest n j) (e + j) .exact =
        (⟨nearest n j, false, false⟩, e + j) := by
      have target := targetExponent_eq (j := 0) (by simpa using above) (by simpa using fits)
        (e := e + j) (by simpa using normal)
      have shift : (e + j + ((0 : Nat) : Int) - (e + j)).toNat = 0 := by omega
      simp only [shiftToTargetExponent, shiftToExponent, target, shift]
      exact Prod.ext rfl (by omega)
    simp only [still]
    rw [dif_neg (by omega)]
    simp
  · have full : nearest n j = 2 ^ 53 := by omega
    refine ⟨2 ^ 52, 1, by decide, ?_, by decide, by decide, by decide, by rw [full]; rfl⟩
    have further : shiftToTargetExponent Format.binary64 (2 ^ 53) (e + j) .exact =
        (⟨2 ^ 52, false, false⟩, e + j + 1) := by
      have target := targetExponent_eq (n := 2 ^ 53) (j := 1) (by decide) (by decide)
        (e := e + j) (by omega)
      have shift : (e + j + ((1 : Nat) : Int) - (e + j)).toNat = 1 := by omega
      simp only [shiftToTargetExponent, shiftToExponent, target, shift]
      rfl
    simp only [full, further]
    rfl

/-- Any positive number is brought to 53 digits, from either side. -/
theorem round_eq {n : Nat} (positive : n ≠ 0) (sign : Sign) {e : Int}
    (normal : -1022 ≤ e + (n.log2 : Nat)) :
    ∃ m c positive, UnpackedFloat.round Format.binary64 sign n e =
        .finite sign m (e + ((n.log2 + c : Nat) : Int) - 52) positive ∧
      2 ^ 52 ≤ m ∧ m < 2 ^ 53 ∧ c ≤ 1 ∧
      m * 2 ^ c = nearest (n * 2 ^ (52 - n.log2)) (n.log2 - 52) := by
  have target : Format.binary64.targetExponent (totalExponent n e) =
      e + (n.log2 : Nat) - 52 := by
    have least : Format.binary64.minExponent = -1074 := by decide
    rw [Format.targetExponent, totalExponent, least]
    show max ((n.log2 : Int) + 1 + e - ((1 + 52 : Nat) : Int)) (-1074) = _
    omega
  have shift : (e - (e + (n.log2 : Nat) - 52)).toNat = 52 - n.log2 := by omega
  have widened : decreaseExponent n e (e + (n.log2 : Nat) - 52) =
      (n * 2 ^ (52 - n.log2), e - (52 - n.log2 : Nat)) := by
    rw [decreaseExponent, shift, Nat.shiftLeft_eq]
  have exponents : n.log2 + (52 - n.log2) = 52 + (n.log2 - 52) := by omega
  have low : 2 ^ (52 + (n.log2 - 52)) ≤ n * 2 ^ (52 - n.log2) := by
    rw [← exponents, Nat.pow_add]
    exact Nat.mul_le_mul_right _ (Nat.log2_self_le positive)
  have high : n * 2 ^ (52 - n.log2) < 2 ^ (53 + (n.log2 - 52)) := by
    rw [show 53 + (n.log2 - 52) = n.log2 + 1 + (52 - n.log2) by omega, Nat.pow_add]
    exact Nat.mul_lt_mul_of_pos_right Nat.lt_log2_self (Nat.two_pow_pos _)
  obtain ⟨m, c, filled, made, above, below, carry, value⟩ :=
    roundWithAccuracy_eq low high sign (e := e - (52 - n.log2 : Nat)) (by omega)
  have moved : e - ((52 - n.log2 : Nat) : Int) + ((n.log2 - 52 : Nat) : Int) + (c : Nat) =
      e + ((n.log2 + c : Nat) : Int) - 52 := by omega
  refine ⟨m, c, filled, ?_, above, below, carry, value⟩
  rw [UnpackedFloat.round, target]
  simp only [widened, made, moved]

/-! ## Packing -/

/-- A number in canonical form is unpacked as it was packed. -/
theorem unpack_pack {sign : Sign} {m : Nat} {e : Int} (positive : 0 < m) (low : 2 ^ 52 ≤ m)
    (high : m < 2 ^ 53) (least : -1074 ≤ e) (most : e ≤ 971) :
    (Float.Model.pack (.finite sign m e positive)).unpack = .finite sign m e positive := by
  let exponent : BitVec 11 := BitVec.ofNat 11 (e + (1023 : Nat) + (52 : Nat)).toNat
  have packed : UnpackedFloat.pack Format.binary64 (.finite sign m e positive) =
      packComponents Format.binary64 sign exponent (BitVec.ofNat 52 m) := by
    have digits : m.log2 = 52 := by
      rw [Nat.log2_eq_iff (by omega)]
      exact ⟨low, high⟩
    have fits : ¬ 2 ^ 11 ≤ (e + (1023 : Nat) + (52 : Nat)).toNat + 1 := by omega
    rw [UnpackedFloat.pack, digits]
    exact (if_neg fits).trans (if_pos rfl)
  have stored : exponent.toNat = (e + 1075).toNat := by
    show (e + (1023 : Nat) + (52 : Nat)).toNat % 2 ^ 11 = _
    omega
  have notSpecial : exponent ≠ -1#11 := by
    intro same
    rw [same] at stored
    have all : (-1#11).toNat = 2047 := rfl
    omega
  have notSmall : exponent ≠ 0#11 := by
    intro same
    rw [same] at stored
    have none : (0#11).toNat = 0 := rfl
    omega
  have digits : (1#1 ++ BitVec.ofNat 52 m).toNat = m := by
    rw [BitVec.toNat_append, BitVec.toNat_ofNat, BitVec.toNat_ofNat, Nat.shiftLeft_eq]
    show 1 * 2 ^ 52 ||| m % 2 ^ 52 = m
    rw [Nat.one_mul, Nat.or_comm, Nat.or_two_pow_eq_add_of_lt (Nat.mod_lt m (Nat.two_pow_pos 52))]
    omega
  show UnpackedFloat.unpack Format.binary64
    (UnpackedFloat.pack Format.binary64 (.finite sign m e positive)) = _
  rw [packed, UnpackedFloat.unpack]
  simp only [unpackExponent_packComponents, unpackMantissa_packComponents,
    unpackSign_packComponents, Sign.ofBitVec_toBitVec, if_neg notSpecial, if_neg notSmall, digits,
    stored]
  congr 1
  show ((e + 1075).toNat : Int) - ((1023 : Nat) + (52 : Nat)) = e
  omega

/-! ## Floats that are integers -/

/-- The unpacked number is in canonical form, and it is the integer. -/
inductive Stands : UnpackedFloat → Int → Prop
  | zero : Stands (.zero .positive) 0
  | finite (sign : Sign) {m k n : Nat} (positive : 0 < m) (low : 2 ^ 52 ≤ m) (high : m < 2 ^ 53)
    (bounded : k ≤ 100) (value : m * 2 ^ k = n * 2 ^ 52) :
    Stands (.finite sign m ((k : Int) - 52) positive) (sign.apply n)

/-- The float is the integer. -/
def Represents (x : Float) (z : Int) : Prop :=
  ∃ u, x = .ofModel (.pack u) ∧ Stands u z

theorem Stands.unpack_pack {u : UnpackedFloat} {z : Int} (stands : Stands u z) :
    (Float.Model.pack u).unpack = u := by
  cases stands with
  | zero => rfl
  | finite sign positive low high bounded value =>
    exact Rounding.unpack_pack positive low high (by omega) (by omega)

theorem Represents.neg {x : Float} {z : Int} (represents : Represents x z) (nonzero : z ≠ 0) :
    Represents (-x) (-z) := by
  obtain ⟨u, rfl, stands⟩ := represents
  refine ⟨u.neg, ?_, ?_⟩
  · show Float.ofModel (.pack (Float.Model.pack u).unpack.neg) = _
    rw [stands.unpack_pack]
  · cases stands with
    | zero => exact absurd rfl nonzero
    | @finite sign m k n positive low high bounded value =>
      have opposite : -sign.apply n = (-sign).apply n := by
        cases sign with
        | negative => exact Int.neg_neg _
        | positive => rfl
      rw [opposite]
      exact .finite (-sign) positive low high bounded value

/-- Numbers that have been rounded with what was carried over. -/
theorem Stands.of_nearest {m c n : Nat} (sign : Sign) (positive : 0 < m) (low : 2 ^ 52 ≤ m)
    (high : m < 2 ^ 53) (bounded : n.log2 + c ≤ 100)
    (value : m * 2 ^ c = nearest (n * 2 ^ (52 - n.log2)) (n.log2 - 52)) :
    Stands (.finite sign m (((n.log2 + c : Nat) : Int) - 52) positive)
      (sign.apply (rounded n)) := by
  refine .finite sign positive low high bounded ?_
  rw [Nat.add_comm, Nat.pow_add, ← Nat.mul_assoc, value, rounded]
  rcases Nat.lt_or_ge n.log2 52 with small | large
  · have none : n.log2 - 52 = 0 := by omega
    rw [none, nearest_zero, nearest_zero, Nat.mul_assoc, ← Nat.pow_add, Nat.pow_zero, Nat.mul_one,
      show 52 - n.log2 + n.log2 = 52 by omega]
  · have none : 52 - n.log2 = 0 := by omega
    rw [none, Nat.pow_zero, Nat.mul_one, Nat.mul_assoc, ← Nat.pow_add,
      show n.log2 - 52 + 52 = n.log2 by omega]

theorem stands_round {n : Nat} (positive : n ≠ 0) (bounded : n.log2 < 100) :
    Stands (UnpackedFloat.round Format.binary64 .positive n 0) (rounded n) := by
  obtain ⟨m, c, filled, made, low, high, carry, value⟩ :=
    round_eq positive .positive (e := 0) (by omega)
  rw [made, Int.zero_add]
  exact .of_nearest .positive filled low high (by omega) value

/-- Multiplying by one changes nothing. -/
theorem Stands.mul_one {u : UnpackedFloat} {z : Int} (stands : Stands u z) :
    u.mul Format.binary64 (.finite .positive (2 ^ 52) (-52) (by decide)) = u := by
  cases stands with
  | zero => rfl
  | @finite sign m k n positive low high bounded value =>
    obtain ⟨m', c, filled, made, above, below, carry, same⟩ :=
      roundWithAccuracy_eq (n := m * 2 ^ 52) (j := 52)
        (by rw [Nat.pow_add]; exact Nat.mul_le_mul_right _ low)
        (by rw [Nat.pow_add]; exact Nat.mul_lt_mul_of_pos_right high (Nat.two_pow_pos 52))
        (sign * .positive) (e := (k : Int) - 52 + -52) (by omega)
    have unit : nearest (m * 2 ^ 52) 52 = m := by
      have scaled := nearest_scale m 0 52
      rwa [nearest_zero] at scaled
    rw [unit] at same
    have noCarry : c = 0 := by
      rcases Nat.le_one_iff_eq_zero_or_eq_one.mp carry with none | one
      · exact none
      · rw [one] at same
        omega
    subst noCarry
    obtain rfl : m' = m := by omega
    have signs : sign * .positive = sign := by cases sign <;> rfl
    have moved : (k : Int) - 52 + -52 + ((52 : Nat) : Int) + ((0 : Nat) : Int) = k - 52 := by omega
    rw [UnpackedFloat.mul, made]
    simp only [signs, moved]

theorem normalize_natCast {n : Nat} (positive : n ≠ 0) (e : Int) :
    UnpackedFloat.normalize Format.binary64 n e .positive =
      UnpackedFloat.round Format.binary64 .positive n e := by
  have greater : compare (n : Int) 0 = .gt := Int.compare_eq_gt.mpr (by omega)
  rw [UnpackedFloat.normalize, greater]
  rfl

/-- The float of a natural number is the number, rounded. -/
theorem represents_ofNat {n : Nat} (bounded : n.log2 < 99) :
    Represents (Float.ofNat n) (rounded n) := by
  by_cases zero : n = 0
  · subst zero
    exact ⟨.zero .positive, rfl, .zero⟩
  show Represents (Float.ofScientific n false 0) _
  unfold Float.ofScientific
  by_cases small : n < 2 ^ 53
  · -- A number with at most 53 digits is converted as a word and multiplied by one.
    rw [dif_pos ⟨small, by decide⟩, if_neg Bool.false_ne_true]
    have stands := stands_round zero (by omega)
    have word : n.toUInt64.toNat = n := Nat.mod_eq_of_lt (by omega)
    have given : n.toUInt64.toFloat =
        .ofModel (.pack (UnpackedFloat.round Format.binary64 .positive n 0)) := by
      rw [← normalize_natCast zero 0]
      show Float.ofModel (.pack
        (UnpackedFloat.normalize Format.binary64 (n.toUInt64.toNat : Int) 0 .positive)) = _
      rw [word]
    refine ⟨UnpackedFloat.round Format.binary64 .positive n 0, ?_, stands⟩
    rw [given]
    show Float.ofModel (.pack (UnpackedFloat.mul Format.binary64 (Float.Model.pack _).unpack
      (Float.Model.ofBits 0x3FF0000000000000).unpack)) = _
    have one : (Float.Model.ofBits 0x3FF0000000000000).unpack =
        .finite .positive (2 ^ 52) (-52) (by decide) := rfl
    rw [stands.unpack_pack, one, stands.mul_one]
  · -- A longer one is widened by 53 digits and rounded.
    rw [dif_neg (fun fits => small fits.1)]
    have digits : 53 ≤ n.log2 := (Nat.le_log2 zero).mpr (by omega)
    have low : 2 ^ (52 + (n.log2 + 1)) ≤ n * 2 ^ 53 := by
      rw [show 52 + (n.log2 + 1) = n.log2 + 53 by omega, Nat.pow_add]
      exact Nat.mul_le_mul_right _ (Nat.log2_self_le zero)
    have high : n * 2 ^ 53 < 2 ^ (53 + (n.log2 + 1)) := by
      rw [Nat.add_comm, Nat.pow_add]
      exact Nat.mul_lt_mul_of_pos_right Nat.lt_log2_self (Nat.two_pow_pos 53)
    obtain ⟨m, c, positive, made, above, below, carry, value⟩ :=
      roundWithAccuracy_eq low high .positive (e := -53) (by omega)
    have units : nearest (n * 2 ^ 53) (n.log2 + 1) =
        nearest (n * 2 ^ (52 - n.log2)) (n.log2 - 52) := by
      rw [show 52 - n.log2 = 0 by omega, Nat.pow_zero, Nat.mul_one,
        ← nearest_scale n (n.log2 - 52) 53, show n.log2 - 52 + 53 = n.log2 + 1 by omega]
    have exponent : -53 + ((n.log2 + 1 : Nat) : Int) + (c : Nat) =
        ((n.log2 + c : Nat) : Int) - 52 := by omega
    rw [units] at value
    rw [exponent] at made
    refine ⟨_, ?_, .of_nearest .positive positive above below (by omega) value⟩
    rw [← made]
    have scaled : UnpackedFloat.ofScientific Format.binary64 n 0 =
        roundWithAccuracy Format.binary64 .positive (n * 2 ^ 53) (-53) .exact := by
      have notHuge : ¬ (0 : Int) > 2 ^ Format.binary64.exponentBits := by decide
      have notTiny : ¬ (0 : Int) < -((2 ^ Format.binary64.exponentBits : Int) + n.log2) := by
        show ¬ (0 : Int) < -(2048 + (n.log2 : Int))
        omega
      rw [UnpackedFloat.ofScientific, dif_neg zero, if_neg notHuge, if_neg notTiny,
        if_pos (Int.le_refl 0)]
      show roundWithAccuracy Format.binary64 .positive (n <<< 53 * 1) (-53 + 0) .exact = _
      rw [Nat.mul_one, Nat.shiftLeft_eq]
      rfl
    exact congrArg (fun u => Float.ofModel (.pack u)) scaled

theorem rounded_ne_zero {n : Nat} (positive : n ≠ 0) : rounded n ≠ 0 := by
  have one : rounded 1 = 1 := rounded_of_lt (by decide)
  have least : rounded 1 ≤ rounded n := rounded_mono (Nat.one_le_iff_ne_zero.mpr positive)
  omega

/-- The float of an integer is the integer, rounded. -/
theorem represents_ofInt {z : Int} (bounded : z.natAbs.log2 < 99) :
    Represents (Float.ofInt z) (roundedInt z) := by
  cases z with
  | ofNat n =>
    have natural := represents_ofNat bounded
    rw [← roundedInt_natCast] at natural
    exact natural
  | negSucc n =>
    have natural := represents_ofNat (n := n + 1) bounded
    have opposite := natural.neg (Int.natCast_ne_zero.mpr (rounded_ne_zero (Nat.succ_ne_zero n)))
    rw [← roundedInt_natCast, ← roundedInt_neg] at opposite
    exact opposite

end RequestBinding.Rounding
