import RequestBinding.Proofs.Constraint.FirstViolation
import RequestBinding.Proofs.Convert.Typing

/-!
# What constraints look at

Constraints look at the leaves of the view of a value, and these are the views of the leaves of the
value (`Value.leaves_view`): no item of a list at any depth is left out. A value passes only when
each of its leaves obeys all rules (`Validator.obeys_of_validate`).

A rule says nothing about a leaf that it is not made for. `WireType.exists_of_mem_leaves` says that
all leaves of a value are of one class when its type is a scalar or a list of scalars.
-/

namespace RequestBinding

/-! ## Leaves -/

namespace Value

mutual

/-- The values in a value that are not lists; an optional value that is there counts as the value
itself. -/
def leaves : Value → List Value
  | .seq items => leavesOf items
  | .present v => v.leaves
  | single => [single]

/-- The leaves of values that come one after the other. -/
def leavesOf : List Value → List Value
  | [] => []
  | item :: rest => item.leaves ++ leavesOf rest

end

mutual

/-- The leaves of the view of a value are the views of its leaves. -/
theorem leaves_view : (v : Value) → v.view.leaves = v.leaves.map Value.view
  | .seq items => leavesOf_views items
  | .present v => leaves_view v
  | .bool _ => rfl
  | .int _ => rfl
  | .float32 _ => rfl
  | .float64 _ => rfl
  | .text _ => rfl
  | .bytes _ => rfl
  | .file _ => rfl
  | .cookie _ => rfl
  | .dict _ => rfl
  | .absent => rfl
  | .body _ => rfl
  | .record _ => rfl

theorem leavesOf_views : (items : List Value) →
    View.leavesOf (Value.views items) = (leavesOf items).map Value.view
  | [] => rfl
  | item :: rest => by
    rw [Value.views, View.leavesOf, leavesOf, leaves_view item, leavesOf_views rest,
      List.map_append]

end

theorem mem_leavesOf {items : List Value} {w : Value} (member : w ∈ leavesOf items) :
    ∃ item ∈ items, w ∈ item.leaves := by
  induction items with
  | nil => cases member
  | cons item rest ih =>
    rcases List.mem_append.mp member with own | later
    · exact ⟨item, List.mem_cons_self, own⟩
    · obtain ⟨other, present, inside⟩ := ih later
      exact ⟨other, List.mem_cons_of_mem item present, inside⟩

end Value

/-- A value of a scalar type is its own leaf. -/
theorem Scalar.leaves_of_admits {s : Scalar} {v : Value} (admits : s.Admits v) :
    v.leaves = [v] := by
  cases s with
  | int k =>
    obtain ⟨n, -, rfl⟩ := admits
    rfl
  | bool | float32 | float64 | text =>
    obtain ⟨_, rfl⟩ := admits
    rfl

namespace WireType

variable {recs : Records}

theorem eq_scalar_of_kindOf {type : WireType} {c : ScalarClass}
    (kind : recs.kindOf type = .scalar c) : ∃ s, type = .scalar s ∧ s.toClass = c := by
  cases type with
  | scalar s => exact ⟨s, rfl, Kind.scalar.inj kind⟩
  | _ => cases kind

/-- The leaves of a value whose type is a class of scalars, or a list of such, are scalars of that
class. -/
theorem exists_of_mem_leaves {type : WireType} {c : ScalarClass}
    (kind : recs.kindOf type = .scalar c ∨ recs.kindOf type = .seq (.scalar c)) {v : Value}
    (admits : type.Admits v) : ∀ w ∈ v.leaves, ∃ s : Scalar, s.toClass = c ∧ s.Admits w := by
  rcases kind with single | list
  · obtain ⟨s, rfl, sort⟩ := eq_scalar_of_kindOf single
    intro w member
    rw [Scalar.leaves_of_admits admits] at member
    obtain rfl := List.mem_singleton.mp member
    exact ⟨s, sort, admits⟩
  · cases type with
    | seq item =>
      obtain ⟨s, rfl, sort⟩ := eq_scalar_of_kindOf (Kind.seq.inj list)
      obtain ⟨items, each, rfl⟩ := admits
      intro w member
      obtain ⟨u, present, inside⟩ := Value.mem_leavesOf member
      rw [Scalar.leaves_of_admits (each u present)] at inside
      obtain rfl := List.mem_singleton.mp inside
      exact ⟨s, sort, each w present⟩
    | _ => cases list

/-- The leaves of texts are texts. -/
theorem text_of_mem_leaves {type : WireType} {v : Value}
    (kind : recs.kindOf type = .scalar .text ∨ recs.kindOf type = .seq (.scalar .text))
    (admits : type.Admits v) : ∀ w ∈ v.leaves, ∃ s, w = .text s := by
  intro w member
  obtain ⟨s, sort, fits⟩ := exists_of_mem_leaves kind admits w member
  cases s with
  | text => exact fits
  | int k => cases k <;> cases sort
  | bool | float32 | float64 => cases sort

/-- Bytes are their own leaf. -/
theorem bytes_of_mem_leaves {type : WireType} {v : Value} (kind : recs.kindOf type = .bytes)
    (admits : type.Admits v) : ∀ w ∈ v.leaves, ∃ octets, w = .bytes octets := by
  cases type with
  | bytes =>
    obtain ⟨octets, rfl⟩ := admits
    exact List.forall_mem_singleton.mpr ⟨octets, rfl⟩
  | _ => cases kind

/-- The leaves of numbers are numbers, and are seen as such. -/
theorem number_of_mem_leaves {type : WireType} {c : ScalarClass} {v : Value}
    (numeric : c ∈ [ScalarClass.int, .uint, .float])
    (kind : recs.kindOf type = .scalar c ∨ recs.kindOf type = .seq (.scalar c))
    (admits : type.Admits v) : ∀ w ∈ v.leaves, ∃ x, w.view = .number x := by
  intro w member
  obtain ⟨s, rfl, fits⟩ := exists_of_mem_leaves kind admits w member
  cases s with
  | int k =>
    obtain ⟨n, -, rfl⟩ := fits
    exact ⟨_, rfl⟩
  | float32 | float64 =>
    obtain ⟨x, rfl⟩ := fits
    exact ⟨_, rfl⟩
  | bool | text => simp [Scalar.toClass] at numeric

end WireType

/-- When a value passes a validator, each of its leaves obeys all rules. -/
theorem Validator.obeys_of_validate {v : Validator} {name : String} {value : Value}
    (passes : v.validate name value.view = .ok ()) : ∀ w ∈ value.leaves, v.Obeys w.view := by
  intro w member
  refine (validate_eq_ok_iff.mp passes).1 w.view ?_
  rw [Value.leaves_view]
  exact List.mem_map_of_mem member

end RequestBinding
