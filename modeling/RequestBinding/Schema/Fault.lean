import RequestBinding.Constraint.Validator
import RequestBinding.Wire.Kind

/-!
# Registration errors

What is wrong with the declaration of a record, and the wording of it.
-/

namespace RequestBinding

/-- A rule for declarations that a field breaks. -/
inductive Fault where
  /-- The field is optional or stands behind a pointer. -/
  | pointer
  /-- The field cannot be reached from outside of its module. -/
  | hidden
  /-- The tag names no position. -/
  | unknownPosition
  /-- A field for files takes its value from elsewhere than the form. -/
  | fileOutsideForm (kind : Kind)
  /-- A field for a cookie takes its value from elsewhere than the cookies. -/
  | cookieOutsideCookies
  /-- A field for a body takes its value from elsewhere, or another field from the body. -/
  | bodyMismatch
  /-- A record or a map takes its value from where keys have no parts. -/
  | compoundPosition (kind : Kind)
  /-- One field takes its value from the form and one from the body. -/
  | formAndBody
  /-- Two fields take their values from the body. -/
  | secondBody
  /-- A length is declared for something other than a text. -/
  | lengthOfOther
  /-- A range is declared for something other than a number. -/
  | rangeOfOther
  /-- A pattern is declared for something other than a text. -/
  | patternOfOther
  /-- The cap of the form is no positive number. -/
  | invalidCap
  /-- The constraints of the tag cannot be used. -/
  | constraint (e : ConstraintError)
  deriving DecidableEq, Repr

/-- The wording of the rule. -/
def Fault.message : Fault → String
  | pointer => "field can not be a pointer"
  | hidden => "field can not be a non-pub field"
  | unknownPosition =>
    "invalid tag `in` value, refer to the following: `path`, `query`, `formData`, `body`, "
      ++ "`header` or `cookie`"
  | fileOutsideForm kind =>
    "when field type is `" ++ kind.display ++ "`, tag `in` value must be `formData`"
  | cookieOutsideCookies => "when field type is `Cookie`, tag `in` value must be `cookie`"
  | bodyMismatch => "tag `in(body)` requires a `Body<T>` field and only a `Body<T>` field"
  | compoundPosition kind =>
    "a `" ++ kind.display ++ "` field can only be bound from `query` or `formData`"
  | formAndBody => "tags of `in(formData)` and `in(body)` can not exist at the same time"
  | secondBody => "there should not be more than one tag `in(body)`"
  | lengthOfOther => "invalid `len` tag for non-string field"
  | rangeOfOther => "invalid `range` tag for non-number field"
  | patternOfOther => "invalid `regexp` tag for non-string field"
  | invalidCap => "invalid `maxmb` tag, it must be positive integer"
  | constraint e => "initial validation failed: " ++ e.message

/-- The first rule that a declaration breaks: the record, its field and the rule. -/
structure RegistrationError where
  record : String
  field : String
  fault : Fault
  deriving DecidableEq, Repr

/-- The wording of the error. -/
def RegistrationError.message (e : RegistrationError) : String :=
  "[parambind] " ++ e.record ++ " | " ++ e.field ++ " | " ++ e.fault.message

end RequestBinding
