import RequestBinding.Record.Basic
import RequestBinding.Text.Split

/-!
# Names of parts

Under which name a field's value stands when the record is itself a part of something: the first
`<name:…>` in the tag whose value is not blank, or else the name of the field. This reading of a
tag knows no escapes; it ends at the first token that is not closed.
-/

namespace RequestBinding

namespace Tag

/-- The value of a token `name:value` with something in the value. -/
def nameOfToken? (token : List Char) : Option String :=
  match Text.cutAt ':' token with
  | none => none
  | some (key, value) =>
    let name := Text.trimChars value
    if Text.trimChars key == nameKey.toList && !name.isEmpty then some (String.ofList name)
    else none

/-- The first name that a token gives; `token` holds what has been read of the token that is
open, the last character first. -/
def spelledNameFrom : (token : Option (List Char)) → List Char → Option String
  | _, [] => none
  | none, c :: rest => spelledNameFrom (if c == '<' then some [] else none) rest
  | some token, c :: rest =>
    if c == '>' then
      match nameOfToken? token.reverse with
      | some name => some name
      | none => spelledNameFrom none rest
    else spelledNameFrom (some (c :: token)) rest

/-- The name that a tag gives to a part. -/
def spelledName? (tag : String) : Option String :=
  spelledNameFrom none tag.toList

end Tag

/-- The name of the field as a part of a record. -/
def Field.partName (f : Field) : String :=
  (f.tag.bind Tag.spelledName?).getD f.name

end RequestBinding
