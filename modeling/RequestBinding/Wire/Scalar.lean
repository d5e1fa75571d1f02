import RequestBinding.Number.Integer
import RequestBinding.Number.Decimal

/-!
# Scalars

The types of values that one raw text holds: truth values, integers, floats and texts.
-/

namespace RequestBinding

/-- A scalar type. -/
inductive Scalar where
  | bool
  | int (k : IntKind)
  | float32
  | float64
  | text
  deriving DecidableEq, Repr

/-- The name that messages give the type. -/
def Scalar.name : Scalar → String
  | bool => "bool"
  | int k => k.name
  | float32 => "f32"
  | float64 => "f64"
  | text => "String"

/-- The classes of scalars that constraints distinguish. -/
inductive ScalarClass where
  | bool
  | int
  | uint
  | float
  | text
  deriving DecidableEq, Repr

/-- The name of the class. -/
def ScalarClass.name : ScalarClass → String
  | bool => "Bool"
  | int => "Int"
  | uint => "Uint"
  | float => "Float"
  | text => "String"

/-- The class of a scalar type. -/
def Scalar.toClass : Scalar → ScalarClass
  | bool => .bool
  | int k => if k.isSigned then .int else .uint
  | float32 => .float
  | float64 => .float
  | text => .text

end RequestBinding
