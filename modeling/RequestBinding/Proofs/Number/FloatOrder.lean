import RequestBinding.Constraint.Validator
import RequestBinding.Proofs.Number.FloatOfInt

/-!
# The order of integers as floats

Floats that are integers are compared as these integers are (`Represents.lt_iff`), and an integer
is one float only (`Represents.eq_iff`). The difference of two different ones is one at least, which
is far more than the accuracy to which bounds are compared (`Represents.accuracy_lt_sub`). Different
integers may have the same float, but not when one of them is below `2 ^ 53` (`eq_of_ofInt_eq`).
-/

namespace RequestBinding.Rounding

open Float.Model Float.Model.UnpackedFloat

/-- Pairs in the same order compare alike. -/
theorem compare_congr {α β : Type} [LinearOrder α] [LinearOrder β] {a b : α} {c d : β}
    (less : a < b ↔ c < d) (equal : a = b ↔ c = d) : compare a b = compare c d := by
  rcases lt_trichotomy a b with below | same | above
  · rw [compare_lt_iff_lt.mpr below, compare_lt_iff_lt.mpr (less.mp below)]
  · rw [compare_eq_iff_eq.mpr same, compare_eq_iff_eq.mpr (equal.mp same)]
  · have other : d < c := by
      rcases lt_trichotomy c d with below | same | other
      · exact absurd (less.mpr below) above.asymm
      · exact absurd (equal.mpr same) above.ne'
      · exact other
    rw [compare_gt_iff_gt.mpr above, compare_gt_iff_gt.mpr other]

section

variable {m m' k k' : Nat} (low : 2 ^ 52 ≤ m) (high : m < 2 ^ 53) (low' : 2 ^ 52 ≤ m')
  (high' : m' < 2 ^ 53)

include low' high in
theorem lt_of_exponent_lt (less : k < k') : m * 2 ^ k < m' * 2 ^ k' :=
  calc m * 2 ^ k < 2 ^ 53 * 2 ^ k := Nat.mul_lt_mul_of_pos_right high (Nat.two_pow_pos k)
    _ = 2 ^ 52 * 2 ^ (k + 1) := by rw [← Nat.pow_add, ← Nat.pow_add]; congr 1; omega
    _ ≤ 2 ^ 52 * 2 ^ k' := Nat.mul_le_mul_left _ (Nat.pow_le_pow_right (by decide) less)
    _ ≤ m' * 2 ^ k' := Nat.mul_le_mul_right _ low'

include low high low' high'

/-- Of numbers in canonical form the one with the larger exponent is larger. -/
theorem compare_canonical :
    (compare ((k : Int) - 52) ((k' : Int) - 52)).then (compare m m') =
      compare (m * 2 ^ k) (m' * 2 ^ k') := by
  rcases Nat.lt_trichotomy k k' with below | rfl | above
  · rw [Int.compare_eq_lt.mpr (by omega),
      Nat.compare_eq_lt.mpr (lt_of_exponent_lt high low' below)]
    rfl
  · rw [Int.compare_eq_eq.mpr rfl]
    exact compare_congr (Nat.mul_lt_mul_right (Nat.two_pow_pos k)).symm
      (Nat.mul_right_cancel_iff (Nat.two_pow_pos k)).symm
  · rw [Int.compare_eq_gt.mpr (by omega),
      Nat.compare_eq_gt.mpr (lt_of_exponent_lt high' low above)]
    rfl

/-- A number has one canonical form. -/
theorem eq_of_canonical (same : m * 2 ^ k = m' * 2 ^ k') : m = m' ∧ k = k' := by
  rcases Nat.lt_trichotomy k k' with below | rfl | above
  · exact absurd same (Nat.ne_of_lt (lt_of_exponent_lt high low' below))
  · exact ⟨Nat.eq_of_mul_eq_mul_right (Nat.two_pow_pos k) same, rfl⟩
  · exact absurd same (Nat.ne_of_gt (lt_of_exponent_lt high' low above))

end

theorem pos_of_value {m k n : Nat} (positive : 0 < m) (value : m * 2 ^ k = n * 2 ^ 52) : 0 < n := by
  have product : 0 < m * 2 ^ k := Nat.mul_pos positive (Nat.two_pow_pos k)
  omega

namespace Stands

variable {u w : UnpackedFloat} {y z : Int}

/-- Numbers in canonical form are compared as the integers that they are. -/
theorem compare_eq (left : Stands u y) (right : Stands w z) : u.compare w = some (compare y z) := by
  cases left with
  | zero =>
    cases right with
    | zero => rfl
    | @finite sign m k n positive low high bounded value =>
      have filled := pos_of_value positive value
      cases sign with
      | negative =>
        exact congrArg some (Int.compare_eq_gt.mpr (show -(n : Int) < 0 by omega)).symm
      | positive =>
        exact congrArg some (Int.compare_eq_lt.mpr (show 0 < (n : Int) by omega)).symm
  | @finite sign m k n positive low high bounded value =>
    have filled := pos_of_value positive value
    cases right with
    | zero =>
      cases sign with
      | negative =>
        exact congrArg some (Int.compare_eq_lt.mpr (show -(n : Int) < 0 by omega)).symm
      | positive =>
        exact congrArg some (Int.compare_eq_gt.mpr (show 0 < (n : Int) by omega)).symm
    | @finite sign' m' k' n' positive' low' high' bounded' value' =>
      have filled' := pos_of_value positive' value'
      have sizes : (compare ((k : Int) - 52) ((k' : Int) - 52)).then (compare m m') =
          compare (m * 2 ^ k) (m' * 2 ^ k') := compare_canonical low high low' high'
      rw [value, value'] at sizes
      cases sign with
      | negative =>
        cases sign' with
        | negative =>
          show some (((compare ((k : Int) - 52) ((k' : Int) - 52)).then (compare m m')).swap) =
            some (compare (-(n : Int)) (-(n' : Int)))
          rw [sizes, Nat.compare_swap]
          refine congrArg some (compare_congr ?_ ?_)
          · omega
          · omega
        | positive =>
          exact congrArg some
            (Int.compare_eq_lt.mpr (show -(n : Int) < (n' : Int) by omega)).symm
      | positive =>
        cases sign' with
        | negative =>
          exact congrArg some
            (Int.compare_eq_gt.mpr (show -(n' : Int) < (n : Int) by omega)).symm
        | positive =>
          show some ((compare ((k : Int) - 52) ((k' : Int) - 52)).then (compare m m')) =
            some (compare (n : Int) (n' : Int))
          rw [sizes]
          refine congrArg some (compare_congr ?_ ?_)
          · omega
          · omega

/-- An integer is one number in canonical form. -/
theorem unique (left : Stands u z) (right : Stands w z) : u = w := by
  have apply_inj : ∀ {s s' : Sign} {n n' : Nat}, 0 < n → 0 < n' →
      s.apply n = s'.apply n' → s = s' ∧ n = n' := by
    intro s s' n n' filled filled' same
    cases s <;> cases s' <;> simp only [Sign.apply] at same <;>
      first | omega | exact ⟨rfl, by omega⟩
  cases left with
  | zero =>
    generalize same : (0 : Int) = none at right
    cases right with
    | zero => rfl
    | @finite sign m k n positive low high bounded value =>
      have filled := pos_of_value positive value
      cases sign <;> simp only [Sign.apply] at same <;> omega
  | @finite sign m k n positive low high bounded value =>
    have filled := pos_of_value positive value
    generalize same : sign.apply n = number at right
    cases right with
    | zero => cases sign <;> simp only [Sign.apply] at same <;> omega
    | @finite sign' m' k' n' positive' low' high' bounded' value' =>
      obtain ⟨rfl, rfl⟩ := apply_inj filled (pos_of_value positive' value') same
      obtain ⟨rfl, rfl⟩ := eq_of_canonical low high low' high' (value.trans value'.symm)
      rfl

/-- The difference of two integers of which the first is larger is a positive number that is not
smaller than one. -/
theorem exists_sub (left : Stands u y) (right : Stands w z) (less : z < y) :
    ∃ m e positive, u.sub Format.binary64 w = .finite .positive m e positive ∧
      2 ^ 52 ≤ m ∧ m < 2 ^ 53 ∧ -52 ≤ e ∧ e ≤ 971 := by
  cases left with
  | zero =>
    cases right with
    | zero => exact absurd less (Int.lt_irrefl 0)
    | @finite sign m k n positive low high bounded value =>
      cases sign with
      | negative => exact ⟨m, k - 52, positive, rfl, low, high, by omega, by omega⟩
      | positive =>
        have nonneg : ¬ (n : Int) < 0 := by omega
        exact absurd less nonneg
  | @finite sign m k n positive low high bounded value =>
    cases right with
    | zero =>
      cases sign with
      | negative =>
        have nonpos : ¬ 0 < -(n : Int) := by omega
        exact absurd less nonpos
      | positive => exact ⟨m, k - 52, positive, rfl, low, high, by omega, by omega⟩
    | @finite sign' m' k' n' positive' low' high' bounded' value' =>
      -- Both are written with the smaller exponent, so that the digits can be subtracted.
      let least := min k k'
      let digits : Int := sign.apply ((m * 2 ^ (k - least) : Nat) : Int) -
        sign'.apply ((m' * 2 ^ (k' - least) : Nat) : Int)
      have applied : ∀ (s : Sign) (a b : Int), s.apply a * b = s.apply (a * b) := by
        intro s a b
        cases s with
        | negative => exact Int.neg_mul a b
        | positive => rfl
      have scaled : ∀ {m k n : Nat}, least ≤ k → m * 2 ^ k = n * 2 ^ 52 →
          ((m * 2 ^ (k - least) : Nat) : Int) * (2 ^ least : Nat) = n * (2 ^ 52 : Nat) := by
        intro m k n le value
        rw [← Int.natCast_mul, Nat.mul_assoc, ← Nat.pow_add, Nat.sub_add_cancel le, value,
          Int.natCast_mul]
      have total : digits * (2 ^ least : Nat) =
          (sign.apply n - sign'.apply n') * (2 ^ 52 : Nat) := by
        rw [Int.sub_mul, Int.sub_mul, applied, applied, applied, applied,
          scaled (Nat.min_le_left k k') value, scaled (Nat.min_le_right k k') value']
      have positive : 0 < digits := by
        refine Int.pos_of_mul_pos_left (b := ((2 ^ least : Nat) : Int)) ?_
          (Int.natCast_pos.mpr (Nat.two_pow_pos least))
        rw [total]
        exact Int.mul_pos (by omega) (by decide)
      obtain ⟨d, shown⟩ := Int.eq_ofNat_of_zero_le (Int.le_of_lt positive)
      have filled : d ≠ 0 := by
        rintro rfl
        omega
      rw [shown, ← Int.natCast_mul] at total
      have low : 2 ^ 52 ≤ d * 2 ^ least := by omega
      have high : d * 2 ^ least < 2 ^ 154 := by
        have bound : ∀ {m k n : Nat}, m < 2 ^ 53 → k ≤ 100 → m * 2 ^ k = n * 2 ^ 52 →
            n < 2 ^ 101 := by
          intro m k n high bounded value
          have product : m * 2 ^ k < 2 ^ 53 * 2 ^ 100 :=
            Nat.mul_lt_mul_of_lt_of_le high (Nat.pow_le_pow_right (by decide) bounded) (by decide)
          omega
        have first := bound high bounded value
        have second := bound high' bounded' value'
        have sizes : sign.apply n - sign'.apply n' ≤ n + n' := by
          cases sign <;> cases sign' <;> simp only [Sign.apply] <;> omega
        omega
      have least_le : 52 ≤ d.log2 + least := by
        refine Nat.le_of_not_lt fun short => ?_
        have below : d * 2 ^ least < 2 ^ (d.log2 + 1 + least) := by
          rw [Nat.pow_add]
          exact Nat.mul_lt_mul_of_pos_right Nat.lt_log2_self (Nat.two_pow_pos least)
        have within : 2 ^ (d.log2 + 1 + least) ≤ 2 ^ 52 :=
          Nat.pow_le_pow_right (by decide) (by omega)
        omega
      have le_most : d.log2 + least < 154 := by
        refine (Nat.pow_lt_pow_iff_right (a := 2) (by decide)).mp (Nat.lt_of_le_of_lt ?_ high)
        rw [Nat.pow_add]
        exact Nat.mul_le_mul_right _ (Nat.log2_self_le filled)
      obtain ⟨r, c, roundedUp, made, above, below, carry, -⟩ :=
        round_eq filled .positive (e := (least : Int) - 52) (by omega)
      refine ⟨r, (least : Int) - 52 + ((d.log2 + c : Nat) : Int) - 52, roundedUp, ?_, above, below,
        by omega, by omega⟩
      have smaller : min ((k : Int) - 52) ((k' : Int) - 52) = (least : Int) - 52 := by omega
      have first : ((k : Int) - 52 - ((least : Int) - 52)).toNat = k - least := by omega
      have second : ((k' : Int) - 52 - ((least : Int) - 52)).toNat = k' - least := by omega
      rw [← made, ← normalize_natCast filled, ← shown]
      simp only [UnpackedFloat.sub, smaller, decreaseExponent, first, second, Nat.shiftLeft_eq]
      rfl

end Stands

/-! ## Floats -/

/-- Floats are compared by what they unpack to. -/
theorem lt_iff_compare (x y : Float) :
    x < y ↔ x.toModel.unpack.compare y.toModel.unpack = some .lt :=
  decide_eq_true_iff.trans beq_iff_eq

namespace Represents

variable {x y : Float} {m n : Int}

theorem isNaN_eq_false (represents : Represents x m) : x.isNaN = false := by
  obtain ⟨u, rfl, stands⟩ := represents
  show (Float.Model.pack u).unpack.isNaN = false
  rw [stands.unpack_pack]
  cases stands <;> rfl

/-- Integers are in the same order as their floats. -/
theorem lt_iff (left : Represents x m) (right : Represents y n) : x < y ↔ m < n := by
  obtain ⟨u, rfl, standsLeft⟩ := left
  obtain ⟨w, rfl, standsRight⟩ := right
  rw [lt_iff_compare, standsLeft.unpack_pack, standsRight.unpack_pack,
    standsLeft.compare_eq standsRight, Option.some_inj, Int.compare_eq_lt]

/-- Floats that are integers are the same when the integers are. -/
theorem eq_iff (left : Represents x m) (right : Represents y n) : x = y ↔ m = n := by
  constructor
  · rintro rfl
    have notLess : ∀ {a b : Int}, Represents x a → Represents x b → ¬ a < b := by
      intro a b first second less
      exact Int.lt_irrefl a ((first.lt_iff first).mp ((first.lt_iff second).mpr less))
    exact Int.le_antisymm (Int.not_lt.mp (notLess right left)) (Int.not_lt.mp (notLess left right))
  · rintro rfl
    obtain ⟨u, rfl, standsLeft⟩ := left
    obtain ⟨w, rfl, standsRight⟩ := right
    rw [standsLeft.unique standsRight]

/-- Floats that are different integers differ by more than the accuracy of bounds. -/
theorem accuracy_lt_sub (left : Represents x m) (right : Represents y n) (less : m < n) :
    y - x > Validator.accuracy := by
  obtain ⟨u, rfl, standsLeft⟩ := left
  obtain ⟨w, rfl, standsRight⟩ := right
  obtain ⟨r, e, positive, difference, low, high, least, most⟩ :=
    standsRight.exists_sub standsLeft less
  have small : Validator.accuracy.toModel.unpack =
      .finite .positive 7555786372591432 (-76) (by decide) := rfl
  have subtracted : (Float.ofModel (.pack w) - Float.ofModel (.pack u)).toModel.unpack =
      .finite .positive r e positive := by
    show (Float.Model.pack (UnpackedFloat.sub Format.binary64 (Float.Model.pack w).unpack
      (Float.Model.pack u).unpack)).unpack = _
    rw [standsLeft.unpack_pack, standsRight.unpack_pack, difference,
      Rounding.unpack_pack positive low high (by omega) most]
  rw [gt_iff_lt, lt_iff_compare, small, subtracted]
  show some ((compare (-76) e).then (compare 7555786372591432 r)) = some .lt
  rw [Int.compare_eq_lt.mpr (by omega)]
  rfl

end Represents

/-! ## Integers of 64 bits -/

section

variable {m n : Int} (first : m.natAbs ≤ 2 ^ 64)

include first

theorem represents_of_le : Represents (Float.ofInt m) (roundedInt m) := by
  refine represents_ofInt ?_
  by_cases zero : m.natAbs = 0
  · rw [zero]
    decide
  · exact (Nat.log2_lt zero).mpr (Nat.lt_of_le_of_lt first (by decide))

/-- Integers have the same float when they are rounded to the same. -/
theorem ofInt_eq_iff (second : n.natAbs ≤ 2 ^ 64) :
    Float.ofInt m = Float.ofInt n ↔ roundedInt m = roundedInt n :=
  (represents_of_le first).eq_iff (represents_of_le second)

/-- A float tells the integers below `2 ^ 53` from all others. -/
theorem eq_of_ofInt_eq (small : n.natAbs < 2 ^ 53) (same : Float.ofInt m = Float.ofInt n) :
    m = n := by
  have second : n.natAbs ≤ 2 ^ 64 := Nat.le_of_lt (Nat.lt_trans small (by decide))
  exact eq_of_roundedInt_eq small ((ofInt_eq_iff first second).mp same)

end

end RequestBinding.Rounding
