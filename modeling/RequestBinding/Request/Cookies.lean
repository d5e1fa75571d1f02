import RequestBinding.Request.Basic

/-!
# Cookies

The cookies of a request: pairs `name=value` between semicolons, over all cookie headers. Space
around names and values does not count, and neither do double quotes around a value; a pair
without a name is no cookie.
-/

namespace RequestBinding

namespace Cookie

/-- A value without the double quotes around it. -/
def unquote (value : List Char) : List Char :=
  match value with
  | '"' :: rest => if rest.getLast? == some '"' then rest.dropLast else value
  | _ => value

/-- Reads one pair. -/
def ofPair? (pair : List Char) : Option Cookie :=
  let (name, value) := (Text.cutAt '=' (Text.trimChars pair)).getD (Text.trimChars pair, [])
  let name := Text.trimChars name
  if name.isEmpty then none
  else some ⟨String.ofList name, String.ofList (unquote (Text.trimChars value))⟩

/-- The cookies of one header. -/
def ofLine (line : List Char) : List Cookie :=
  (line.splitOn ';').filterMap ofPair?

end Cookie

/-- The cookies of all cookie headers that are plain text. -/
def Request.cookies (r : Request) : List Cookie :=
  ((r.rawHeader "cookie").filterMap Request.plainText?).flatMap Cookie.ofLine

end RequestBinding
