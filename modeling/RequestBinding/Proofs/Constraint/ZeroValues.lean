import RequestBinding.Proofs.Constraint.FirstViolation
import RequestBinding.Record.Basic

/-!
# Zero values under constraints

Constraints look at the view of a value, and a view tells whether the value is the zero value of its
type for some types only. `WireType.showsZero` are the types for which it does: the view of a zero
value of these is zero (`WireType.isZero_view_of_holdsZero`), so a validator that demands other
values rejects it (`Validator.isZero_eq_false_of_validate`). The views of records and of structured
bodies are alike whatever they hold. The report of a value that is not set is one and the same
(`Validator.eq_of_validate_notSet`); all other reports show the value.
-/

namespace RequestBinding

namespace WireType

/-- The value is the zero value of the type. A float has two of them, which compare equal. -/
def HoldsZero (recs : Records) : WireType → Value → Prop
  | .scalar .float32, v => ∃ x, v = .float32 x ∧ (x == 0) = true
  | .scalar .float64, v => ∃ x, v = .float64 x ∧ (x == 0) = true
  | .box inner, v => inner.HoldsZero recs v
  | type, v => v = type.zero recs

/-- The view of a value of the type tells whether it is the zero value. -/
def showsZero : WireType → Bool
  | .body _ => false
  | .record _ => false
  | .box inner => inner.showsZero
  | _ => true

end WireType

open Float.Model in
/-- Both zeros of single precision are widened to a zero. -/
theorem widen_beq_zero {x : Float32} (zero : (x == 0) = true) : (widen x == 0.0) = true := by
  have equal : (x.toModel.unpack.compare (.zero .positive) == some .eq) = true := zero
  have compared := beq_iff_eq.mp equal
  unfold widen
  cases unpacked : x.toModel.unpack with
  | zero sign => cases sign <;> rfl
  | notANumber =>
    rw [unpacked] at compared
    cases compared
  | infinity sign =>
    rw [unpacked] at compared
    cases sign <;> cases compared
  | finite sign mantissa exponent positive =>
    rw [unpacked] at compared
    cases sign <;> cases compared

/-- Where a view tells zero values from others, it says of a zero value that it is one. -/
theorem WireType.isZero_view_of_holdsZero {recs : Records} {type : WireType} {v : Value}
    (shows : type.showsZero = true) (zero : type.HoldsZero recs v) : v.view.isZero = true := by
  induction type with
  | scalar s =>
    cases s with
    | float32 =>
      obtain ⟨x, rfl, isZero⟩ := zero
      exact widen_beq_zero isZero
    | float64 =>
      obtain ⟨x, rfl, isZero⟩ := zero
      exact isZero
    | int k =>
      cases zero
      show (Float.ofInt 0 == 0.0) = true
      decide
    | bool | text =>
      cases zero
      rfl
  | box inner ih => exact ih shows zero
  | body target => cases shows
  | record ident => cases shows
  | bytes | file | cookie | seq | map | option =>
    cases zero
    rfl

/-- A value that passes where zero values are rejected has not been seen as one. -/
theorem Validator.isZero_eq_false_of_validate {v : Validator} {name : String} {view : View}
    (nonzero : v.nonzero = true) (passes : v.validate name view = .ok ()) :
    view.isZero = false :=
  have each := obeys_nodes_iff.mpr (validate_eq_ok_iff.mp passes)
  (each view view.mem_nodes_self).nonzero nonzero

/-- The report that a value is not set says nothing about the value. -/
theorem Validator.eq_of_validate_notSet {v : Validator} {name : String} {view : View}
    {broken : Violation} (fails : v.validate name view = .error broken)
    (notSet : broken.kind = .notSet) : broken = ⟨name, .notSet, "not set"⟩ := by
  obtain ⟨_, _, _, _, _, _, _, first, rfl⟩ := validate_eq_error_iff.mp fails
  obtain ⟨_, _, _, _, breaks, _⟩ := first
  cases breaks with
  | zero => rfl
  | _ => cases notSet

end RequestBinding
