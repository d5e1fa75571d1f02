import RequestBinding.Constraint.Violation
import RequestBinding.Convert.Error
import RequestBinding.Request.Basic
import RequestBinding.Schema.Position

/-!
# Binding errors

Why a request could not be bound to a record, and the wording of it. A field may declare a text of
its own, which then replaces the generated one.
-/

namespace RequestBinding

/-- Why a request could not be read for a field. -/
inductive RequestFailure where
  /-- The form cannot be read. -/
  | form (f : FormFailure)
  /-- The body is not what its decoder expects. -/
  | undecodable
  /-- A record has another number of handles than it has descriptors. -/
  | handleCount (expected given : Nat)
  deriving DecidableEq, Repr

/-- The wording of the failure. What a decoder complains about is not told. -/
def RequestFailure.message : RequestFailure → String
  | form f => f.message
  | undecodable => "<decoder>"
  | handleCount expected given =>
    "expected " ++ toString expected ++ " field handles, got " ++ toString given

/-- Why binding failed. -/
inductive BindCause where
  /-- The type was never registered. -/
  | notRegistered
  /-- A value that must be supplied is not there. -/
  | missing (p : Position)
  /-- A value cannot be converted. -/
  | conversion (e : ConvertError)
  /-- A value breaks a constraint. -/
  | validation (v : Violation)
  /-- The request cannot be read. -/
  | request (f : RequestFailure)
  deriving DecidableEq, Repr

/-- The wording of the cause. -/
def BindCause.message : BindCause → String
  | notRegistered => "type is not registered"
  | missing p => "missing " ++ p.name ++ " param"
  | conversion e => e.message
  | validation v => v.detail
  | request f => f.message

/-- The failure to bind a request: the record, the wire name of the field, the cause, and the
field's own text for it. -/
structure BindError where
  api : String
  param : String
  cause : BindCause
  custom : Option String := none
  deriving DecidableEq, Repr

namespace BindError

/-- The failure for a type that was never registered. -/
def notRegistered (type : String) : BindError :=
  { api := type, param := "*", cause := .notRegistered }

/-- The wording of the failure. -/
def message (e : BindError) : String :=
  e.custom.getD ("[parambind] " ++ e.api ++ " | " ++ e.param ++ " | " ++ e.cause.message)

/-- The constraint that a value breaks, if that is the cause. -/
def violation? (e : BindError) : Option ViolationKind :=
  match e.cause with
  | .validation v => some v.kind
  | _ => none

/-- The wording of the underlying error, if the cause has one of its own. -/
def source? (e : BindError) : Option String :=
  match e.cause with
  | .conversion c => some c.message
  | .validation v => some v.message
  | _ => none

/-- The response status that the failure asks for. -/
def status (_ : BindError) : Nat := 400

end BindError

end RequestBinding
