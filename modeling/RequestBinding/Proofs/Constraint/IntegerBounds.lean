import RequestBinding.Proofs.Constraint.Declarations
import RequestBinding.Proofs.Constraint.FirstViolation
import RequestBinding.Proofs.Number.FloatOrder
import RequestBinding.Proofs.Number.Literals

/-!
# Integers between bounds

The view of an integer is its float, and bounds on numbers are floats. Two integers may have the
same float; then bounds do not tell which one is less (`Validator.SeesLess`). Such integers lie
beyond `2 ^ 53` (`Validator.seesLess_iff_lt`). In all other cases bounds at integers decide as the
integers themselves do: the accuracy to which floats are compared makes no difference
(`Validator.confines`).
-/

namespace RequestBinding

theorem IntKind.natAbs_le_of_holds {k : IntKind} {n : Int} (holds : k.holds n) :
    n.natAbs ≤ 2 ^ 64 := by
  have below : k.minMagnitude ≤ 2 ^ 64 := by cases k <;> decide
  have above : k.maxValue ≤ 2 ^ 64 := by cases k <;> decide
  obtain ⟨least, most⟩ := holds
  omega

/-! ## Declared bounds -/

/-- A numeral can be a side of bounds on numbers. -/
theorem Bounds.side_integer {n : Int} (fits : n.natAbs ≤ 2 ^ 64) :
    Side (fun cs => (DecimalLiteral.read cs).toOption.map (·.toFloat)) (toString n)
      (Float.ofInt n) :=
  .of_digits (Numeral.toString_ne_nil n) (fun _ => Numeral.isDigit_or_minus_of_mem_toString)
    (DecimalLiteral.read_toString fits)

/-- The text that declares bounds at two integers. -/
def Bounds.between (least most : Int) : String :=
  toString least ++ ":" ++ toString most

theorem Bounds.ofNumbers?_between {least most : Int} (fitsLeast : least.natAbs ≤ 2 ^ 64)
    (fitsMost : most.natAbs ≤ 2 ^ 64) :
    ofNumbers? (between least most) = some ⟨some (Float.ofInt least), some (Float.ofInt most)⟩ :=
  parse?_of_declared (.both (side_integer fitsLeast) (side_integer fitsMost))

/-! ## Decisions -/

namespace Validator

/-- The first integer is less than the second one, and their floats tell so. -/
def SeesLess (m n : Int) : Prop :=
  m < n ∧ Float.ofInt m ≠ Float.ofInt n

section

open Rounding

variable {m n : Int} (first : m.natAbs ≤ 2 ^ 64) (second : n.natAbs ≤ 2 ^ 64)

include first second

/-- The accuracy to which floats are compared is less than the distance of two integers. -/
theorem seesLess_iff :
    SeesLess m n ↔
      Float.ofInt m < Float.ofInt n ∧ Float.ofInt n - Float.ofInt m > accuracy := by
  have left := represents_of_le first
  have right := represents_of_le second
  rw [SeesLess, left.lt_iff right, Ne, ofInt_eq_iff first second]
  constructor
  · rintro ⟨less, apart⟩
    have below := Int.lt_iff_le_and_ne.mpr ⟨roundedInt_mono (Int.le_of_lt less), apart⟩
    exact ⟨below, left.accuracy_lt_sub right below⟩
  · rintro ⟨less, -⟩
    refine ⟨Int.lt_of_not_ge fun ge => ?_, Int.ne_of_lt less⟩
    exact absurd less (Int.not_lt.mpr (roundedInt_mono ge))

/-- Integers below `2 ^ 53` are told from all others. -/
theorem seesLess_iff_lt (small : m.natAbs < 2 ^ 53 ∨ n.natAbs < 2 ^ 53) :
    SeesLess m n ↔ m < n := by
  refine ⟨fun sees => sees.1, fun less => ⟨less, fun same => Int.ne_of_lt less ?_⟩⟩
  rcases small with small | small
  · exact (eq_of_ofInt_eq second small same.symm).symm
  · exact eq_of_ofInt_eq first small same

end

/-- Of an integer the validator decides by the two bounds: one that is less than the first is too
small, and one that the second is less than is too big. -/
structure Confines (v : Validator) (least most : Int) (field : String) (n : Int) : Prop where
  passes : v.validate field (.number (Float.ofInt n)) = .ok () ↔
    ¬ SeesLess n least ∧ ¬ SeesLess most n
  small : SeesLess n least → v.validate field (.number (Float.ofInt n)) =
    .error ⟨field, .tooSmall,
      "smaller than " ++ floatText (Float.ofInt least) ++ ": " ++ floatText (Float.ofInt n)⟩
  big : SeesLess most n → v.validate field (.number (Float.ofInt n)) =
    .error ⟨field, .tooBig,
      "bigger than " ++ floatText (Float.ofInt most) ++ ": " ++ floatText (Float.ofInt n)⟩

/-- The range is all that a validator can say about numbers when zero values are not rejected. -/
theorem confines {v : Validator} {least most n : Int} (ordered : least ≤ most)
    (fitsLeast : least.natAbs ≤ 2 ^ 64) (fitsMost : most.natAbs ≤ 2 ^ 64)
    (fits : n.natAbs ≤ 2 ^ 64)
    (range : v.range = some ⟨some (Float.ofInt least), some (Float.ofInt most)⟩)
    (zeros : v.nonzero = false) (field : String) : v.Confines least most field n := by
  have defined : (Float.ofInt n).isNaN = false := (Rounding.represents_of_le fits).isNaN_eq_false
  have low := seesLess_iff fits fitsLeast
  have high := seesLess_iff fitsMost fits
  have first : ∀ {kind detail}, v.Breaks .range (.number (Float.ofInt n)) kind detail →
      v.validate field (.number (Float.ofInt n)) = .error ⟨field, kind, detail⟩ := by
    intro kind detail broken
    rw [validate_eq_error_iff_check]
    refine ⟨kind, detail, checkSingle_eq_some_iff.mpr ?_, rfl⟩
    exact ⟨[], .range, [.nonzero, .length, .pattern], rfl, broken, List.forall_mem_nil _⟩
  refine ⟨?_, ?_, ?_⟩
  · rw [validate_eq_ok_iff_check]
    refine checkSingle_eq_none_iff.trans ⟨fun obeys => ?_, fun inside => ?_⟩
    · obtain ⟨-, notBelow, notAbove⟩ := obeys.range _ range _ rfl
      exact ⟨fun sees => notBelow _ rfl (low.mp sees), fun sees => notAbove _ rfl (high.mp sees)⟩
    · refine ⟨?_, fun rejected => ?_, nofun, nofun⟩
      · intro bounds declared x view
        cases range.symm.trans declared
        cases view
        refine ⟨defined, ?_, ?_⟩
        · rintro _ ⟨⟩ out
          exact inside.1 (low.mpr out)
        · rintro _ ⟨⟩ out
          exact inside.2 (high.mpr out)
      · exact absurd (zeros.symm.trans rejected) Bool.false_ne_true
  · intro sees
    obtain ⟨less, far⟩ := low.mp sees
    exact first (.below range defined rfl less far)
  · intro sees
    obtain ⟨greater, far⟩ := high.mp sees
    refine first (.above range defined ?_ rfl greater far)
    rintro _ ⟨⟩ below
    have less := (low.mpr below).1
    have above := sees.1
    omega

end Validator

end RequestBinding
