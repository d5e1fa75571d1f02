import Mathlib.Algebra.Group.Nat.Even

/-!
# Rounding to 53 binary digits

A natural number is rounded to units of a power of two, an exact half to the even number of units
(`Rounding.nearest`), and to 53 binary digits by choosing the unit that leaves it so many
(`Rounding.rounded`). Rounding keeps the order, and numbers below `2 ^ 53` stay what they are and
are not confused with others (`Rounding.eq_of_rounded_eq`). An integer is rounded with its sign
(`Rounding.roundedInt`).
-/

namespace RequestBinding.Rounding

/-- The number of units of `2 ^ k` in the number, to the nearest, an exact half going to the even
neighbour. -/
def nearest (n k : Nat) : Nat :=
  if 2 * (n % 2 ^ k) < 2 ^ k ∨ 2 * (n % 2 ^ k) = 2 ^ k ∧ n / 2 ^ k % 2 = 0 then n / 2 ^ k
  else n / 2 ^ k + 1

theorem le_nearest (n k : Nat) : n / 2 ^ k ≤ nearest n k := by
  unfold nearest
  split <;> omega

theorem nearest_le (n k : Nat) : nearest n k ≤ n / 2 ^ k + 1 := by
  unfold nearest
  split <;> omega

theorem nearest_zero (n : Nat) : nearest n 0 = n := by
  unfold nearest
  rw [if_pos (Or.inl (by omega))]
  omega

theorem nearest_mono {m n : Nat} (le : m ≤ n) (k : Nat) : nearest m k ≤ nearest n k := by
  rcases Nat.lt_or_ge (m / 2 ^ k) (n / 2 ^ k) with less | ge
  · exact Nat.le_trans (nearest_le m k) (Nat.le_trans less (le_nearest n k))
  · have same : m / 2 ^ k = n / 2 ^ k := Nat.le_antisymm (Nat.div_le_div_right le) ge
    have splitM := Nat.div_add_mod m (2 ^ k)
    have splitN := Nat.div_add_mod n (2 ^ k)
    rw [same] at splitM
    have rest : m % 2 ^ k ≤ n % 2 ^ k := by omega
    unfold nearest
    rw [same]
    split <;> split <;> omega

/-- Units of the same size relative to the number. -/
theorem nearest_scale (n k c : Nat) : nearest (n * 2 ^ c) (k + c) = nearest n k := by
  have positive : 0 < 2 ^ c := Nat.two_pow_pos c
  have quotient : n * 2 ^ c / 2 ^ (k + c) = n / 2 ^ k := by
    rw [Nat.pow_add, Nat.mul_div_mul_right _ _ positive]
  have rest : n * 2 ^ c % 2 ^ (k + c) = n % 2 ^ k * 2 ^ c := by
    rw [Nat.pow_add, Nat.mul_mod_mul_right]
  have less : 2 * (n % 2 ^ k * 2 ^ c) < 2 ^ (k + c) ↔ 2 * (n % 2 ^ k) < 2 ^ k := by
    rw [Nat.pow_add, ← Nat.mul_assoc, Nat.mul_lt_mul_right positive]
  have half : 2 * (n % 2 ^ k * 2 ^ c) = 2 ^ (k + c) ↔ 2 * (n % 2 ^ k) = 2 ^ k := by
    rw [Nat.pow_add, ← Nat.mul_assoc, Nat.mul_right_cancel_iff positive]
  unfold nearest
  simp only [quotient, rest, less, half]

/-- A number that has 53 digits above the unit keeps them, but for a carry. -/
theorem nearest_bounds {n k : Nat} (low : 2 ^ (52 + k) ≤ n) (high : n < 2 ^ (53 + k)) :
    2 ^ 52 ≤ nearest n k ∧ nearest n k ≤ 2 ^ 53 := by
  have above : 2 ^ 52 ≤ n / 2 ^ k := by
    rwa [Nat.le_div_iff_mul_le (Nat.two_pow_pos k), ← Nat.pow_add]
  have below : n / 2 ^ k < 2 ^ 53 := by
    rwa [Nat.div_lt_iff_lt_mul (Nat.two_pow_pos k), ← Nat.pow_add]
  exact ⟨Nat.le_trans above (le_nearest n k), Nat.le_trans (nearest_le n k) below⟩

/-- The number rounded to 53 binary digits. -/
def rounded (n : Nat) : Nat :=
  nearest n (n.log2 - 52) * 2 ^ (n.log2 - 52)

theorem rounded_of_lt {n : Nat} (small : n < 2 ^ 53) : rounded n = n := by
  have digits : n.log2 - 52 = 0 := by
    by_cases zero : n = 0
    · subst zero
      rfl
    · have digits := (Nat.log2_lt zero).mpr small
      omega
  rw [rounded, digits, nearest_zero, Nat.pow_zero, Nat.mul_one]

/-- Of a number with more than 53 digits, 53 stand above the unit of rounding. -/
theorem two_pow_le_of_log2 {n : Nat} (large : 52 < n.log2) :
    2 ^ (52 + (n.log2 - 52)) ≤ n := by
  have positive : n ≠ 0 := by
    rintro rfl
    exact absurd large (by decide)
  rw [show 52 + (n.log2 - 52) = n.log2 by omega]
  exact Nat.log2_self_le positive

theorem lt_two_pow_of_log2 (n : Nat) : n < 2 ^ (53 + (n.log2 - 52)) :=
  Nat.lt_of_lt_of_le Nat.lt_log2_self (Nat.pow_le_pow_right (by decide) (by omega))

theorem rounded_mono {m n : Nat} (le : m ≤ n) : rounded m ≤ rounded n := by
  have digits : m.log2 ≤ n.log2 := by
    by_cases zero : m = 0
    · subst zero
      exact Nat.zero_le _
    · exact (Nat.le_log2 (by omega)).mpr (Nat.le_trans (Nat.log2_self_le zero) le)
  by_cases same : m.log2 - 52 = n.log2 - 52
  · unfold rounded
    rw [same]
    exact Nat.mul_le_mul_right _ (nearest_mono le _)
  · have above : 2 ^ 52 ≤ nearest n (n.log2 - 52) :=
      (nearest_bounds (two_pow_le_of_log2 (by omega)) (lt_two_pow_of_log2 n)).1
    have below : nearest m (m.log2 - 52) ≤ 2 ^ 53 := by
      refine Nat.le_trans (nearest_le _ _) ?_
      rw [Nat.succ_le_iff, Nat.div_lt_iff_lt_mul (Nat.two_pow_pos _), ← Nat.pow_add]
      exact lt_two_pow_of_log2 m
    calc rounded m ≤ 2 ^ 53 * 2 ^ (m.log2 - 52) := Nat.mul_le_mul_right _ below
      _ = 2 ^ (53 + (m.log2 - 52)) := (Nat.pow_add ..).symm
      _ ≤ 2 ^ (52 + (n.log2 - 52)) := Nat.pow_le_pow_right (by decide) (by omega)
      _ = 2 ^ 52 * 2 ^ (n.log2 - 52) := Nat.pow_add ..
      _ ≤ rounded n := Nat.mul_le_mul_right _ above

/-- Numbers below `2 ^ 53` are not confused with any other. -/
theorem eq_of_rounded_eq {m n : Nat} (small : n < 2 ^ 53) (same : rounded m = rounded n) :
    m = n := by
  rw [rounded_of_lt small] at same
  rcases Nat.lt_or_ge m (2 ^ 53) with lt | ge
  · rwa [rounded_of_lt lt] at same
  · have edge : rounded (2 ^ 53) = 2 ^ 53 := by decide +kernel
    have above := rounded_mono ge
    omega

/-- An integer rounded to 53 binary digits. -/
def roundedInt (z : Int) : Int :=
  z.sign * rounded z.natAbs

theorem roundedInt_natCast (n : Nat) : roundedInt n = rounded n := by
  cases n with
  | zero => rfl
  | succ n =>
    rw [roundedInt, Int.natAbs_natCast, Int.sign_natCast_of_ne_zero (Nat.succ_ne_zero n),
      Int.one_mul]

theorem roundedInt_neg (z : Int) : roundedInt (-z) = -roundedInt z := by
  rw [roundedInt, roundedInt, Int.sign_neg, Int.natAbs_neg, Int.neg_mul]

theorem roundedInt_mono {y z : Int} (le : y ≤ z) : roundedInt y ≤ roundedInt z := by
  have nonneg : ∀ {n : Int}, 0 ≤ n → 0 ≤ roundedInt n := by
    intro n positive
    obtain ⟨m, rfl⟩ := Int.eq_ofNat_of_zero_le positive
    rw [roundedInt_natCast]
    exact Int.natCast_nonneg _
  have ordered : ∀ {m n : Int}, 0 ≤ m → m ≤ n → roundedInt m ≤ roundedInt n := by
    intro m n positive le
    obtain ⟨m, rfl⟩ := Int.eq_ofNat_of_zero_le positive
    obtain ⟨n, rfl⟩ := Int.eq_ofNat_of_zero_le (Int.le_trans positive le)
    rw [roundedInt_natCast, roundedInt_natCast]
    exact Int.ofNat_le.mpr (rounded_mono (Int.ofNat_le.mp le))
  rcases Int.le_total 0 y with positive | negative
  · exact ordered positive le
  · rcases Int.le_total 0 z with positive | below
    · have first := nonneg (Int.neg_nonneg_of_nonpos negative)
      rw [roundedInt_neg] at first
      exact Int.le_trans (by omega) (nonneg positive)
    · have flipped := ordered (Int.neg_nonneg_of_nonpos below) (Int.neg_le_neg le)
      rw [roundedInt_neg, roundedInt_neg] at flipped
      omega

theorem eq_of_roundedInt_eq {y z : Int} (small : z.natAbs < 2 ^ 53)
    (same : roundedInt y = roundedInt z) : y = z := by
  have size : ∀ n : Int, (roundedInt n).natAbs = rounded n.natAbs := by
    intro n
    rcases Int.natAbs_eq n with positive | negative
    · rw [positive, roundedInt_natCast, Int.natAbs_natCast, Int.natAbs_natCast]
    · rw [negative, roundedInt_neg, roundedInt_natCast, Int.natAbs_neg, Int.natAbs_neg,
        Int.natAbs_natCast, Int.natAbs_natCast]
  have sizes : y.natAbs = z.natAbs := by
    refine eq_of_rounded_eq small ?_
    rw [← size, ← size, same]
  rcases Int.natAbs_eq_natAbs_iff.mp sizes with equal | opposite
  · exact equal
  · rw [opposite, roundedInt_neg] at same
    have zero := size z
    rw [rounded_of_lt small, show roundedInt z = 0 by omega] at zero
    have none : z = 0 := Int.natAbs_eq_zero.mp zero.symm
    omega

end RequestBinding.Rounding
