import RequestBinding.Text.Quoted
import RequestBinding.Number.Integer
import RequestBinding.Number.Decimal
import RequestBinding.Source.Key

/-!
# Conversion errors

Why a raw value could not become a value of its type, and the wording of each reason.
-/

namespace RequestBinding

/-- How malformed values are treated. -/
inductive Mode where
  /-- A malformed value becomes the zero value, an index that is too large is left out. -/
  | lenient
  /-- A malformed value and an index that is too large are errors. -/
  | strict
  deriving DecidableEq, Repr

/-- What a type was asked to be made from. -/
inductive Material where
  | text
  | body
  deriving DecidableEq, Repr

/-- The wording of the material. -/
def Material.name : Material → String
  | text => "string"
  | body => "body"

/-- Why a text is no number. -/
inductive NumberError where
  | integer (e : NumeralError)
  | float (e : LiteralError)
  deriving DecidableEq, Repr

/-- The wording of the reason. -/
def NumberError.message : NumberError → String
  | integer e => e.message
  | float e => e.message

/-- Why a value could not be converted. -/
inductive ConvertError where
  /-- The text is no value of the type. -/
  | invalid (target value : String) (reason : NumberError)
  /-- No value of the type is made from such material. -/
  | unsupported (target : String) (source : Material)
  /-- The index in a key exceeds the limit. -/
  | indexTooLarge (key : Key) (index limit : Nat)
  /-- The structured body does not have the shape of the target. -/
  | body (target : String)
  deriving DecidableEq, Repr

/-- The wording of the error. What a body lacks is not told. -/
def ConvertError.message : ConvertError → String
  | invalid target value reason =>
    "converting " ++ Text.quoted value ++ " to " ++ target ++ ": " ++ reason.message
  | unsupported target source =>
    "unsupported storing " ++ source.name ++ " into type " ++ target
  | indexTooLarge key index limit =>
    "index " ++ toString index ++ " of " ++ Text.quoted (String.ofList key)
      ++ " exceeds the maximum array index " ++ toString limit
  | body target => "decoding body into " ++ target ++ ": <reason>"

end RequestBinding
