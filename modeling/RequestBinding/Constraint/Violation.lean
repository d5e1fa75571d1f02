/-!
# Violations

Which constraint a value breaks, and the report of it.
-/

namespace RequestBinding

/-- The constraint that a value breaks. -/
inductive ViolationKind where
  | notSet
  | tooSmall
  | tooBig
  | tooShort
  | tooLong
  | notMatching
  deriving DecidableEq, Repr

/-- The wording of the kind. -/
def ViolationKind.message : ViolationKind → String
  | notSet => "not set"
  | tooSmall => "too small"
  | tooBig => "too big"
  | tooShort => "too short"
  | tooLong => "too long"
  | notMatching => "not matching"

/-- A broken constraint: the wire name of the field, the kind, and the details. -/
structure Violation where
  field : String
  kind : ViolationKind
  detail : String
  deriving DecidableEq, Repr

/-- The wording of the violation. -/
def Violation.message (v : Violation) : String :=
  v.field ++ ": " ++ v.detail

end RequestBinding
