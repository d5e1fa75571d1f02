import RequestBinding.Text.Letters

/-!
# Wire names

How a field's name becomes the name under which a value travels: words joined by underscores for
most positions, and the canonical spelling of header names.
-/

namespace RequestBinding.WireName

/-- Canonical header spelling: every part between hyphens starts with a capital and goes on in
lower case. `start` says that the next character begins a part. -/
def canonicalFrom : (start : Bool) → List Char → List Char
  | _, [] => []
  | start, c :: rest =>
    (if start then Text.toUpper c else Text.toLower c) ++ canonicalFrom (c == '-') rest

/-- The canonical spelling of a header name: `x-api-key` becomes `X-Api-Key`. -/
def canonicalHeader (name : String) : String :=
  String.ofList (canonicalFrom true name.toList)

/-- A capital begins a new word: it follows a small letter or a digit, or it ends a run of
capitals and a small letter comes next. -/
def beginsWord (prev : Option Char) (next : Option Char) : Bool :=
  match prev with
  | none => false
  | some p =>
    Text.isLower p || Text.isDigit p || (Text.isUpper p && next.any Text.isLower)

/-- Lower case with an underscore in front of each capital that begins a word; `prev` is the
character before. -/
def snakeFrom : (prev : Option Char) → List Char → List Char
  | _, [] => []
  | prev, c :: rest =>
    (if Text.isUpper c then
      (if beginsWord prev rest.head? then ['_'] else []) ++ Text.toLower c
    else [c]) ++ snakeFrom (some c) rest

/-- The words of a name in lower case, joined by underscores: `UserID` becomes `user_id`. -/
def snake (name : String) : String :=
  String.ofList (snakeFrom none name.toList)

end RequestBinding.WireName
