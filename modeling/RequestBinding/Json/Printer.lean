import RequestBinding.Json.Value
import RequestBinding.Number.Shortest

/-!
# Writing JSON

A compact form on one line, and a laid-out form with two spaces for each level and one member or
item on a line. Empty arrays and objects stay on one line in both.
-/

namespace RequestBinding.Json

namespace Printer

/-- The written form of one character inside quotes. -/
def escape (c : Char) : List Char :=
  match c with
  | '"' => ['\\', '"']
  | '\\' => ['\\', '\\']
  | '\n' => ['\\', 'n']
  | '\r' => ['\\', 'r']
  | '\t' => ['\\', 't']
  | '\x08' => ['\\', 'b']
  | '\x0c' => ['\\', 'f']
  | c =>
    if c.toNat < 32 then
      let digits := Nat.toDigits 16 c.toNat
      ['\\', 'u'] ++ List.replicate (4 - digits.length) '0' ++ digits
    else [c]

/-- A text between quotes. -/
def textForm (s : String) : String :=
  String.ofList ('"' :: s.toList.flatMap escape ++ ['"'])

/-- Numbers from `1e-5` to below `1e16` are written without exponent; a positive exponent has its
sign, and a half goes to the even neighbour. -/
def floatStyle : FloatStyle := ⟨-5, 15, true, .toEven⟩

/-- A float; JSON has no form for infinities and for the undefined number. -/
def floatForm (x : Float) : String :=
  if x.isNaN || x.isInf then "null" else (FloatClass.ofFloat x).descriptive floatStyle

end Printer

open Printer

mutual

/-- The value on one line. -/
def compact : Json → String
  | .null => "null"
  | .bool b => if b then "true" else "false"
  | .int n => toString n
  | .float x => floatForm x
  | .text s => textForm s
  | .array items => "[" ++ ",".intercalate (compactItems items) ++ "]"
  | .object members => "\x7b" ++ ",".intercalate (compactMembers members) ++ "\x7d"

/-- The items of an array, each on one line. -/
def compactItems : List Json → List String
  | [] => []
  | item :: rest => compact item :: compactItems rest

/-- The members of an object, each on one line. -/
def compactMembers : List (String × Json) → List String
  | [] => []
  | (key, value) :: rest => (textForm key ++ ":" ++ compact value) :: compactMembers rest

end

/-- The start of a line at some level. -/
def indent (level : Nat) : String :=
  "\n" ++ String.ofList (List.replicate (2 * level) ' ')

mutual

/-- The value laid out over lines, from some level on. -/
def prettyAt (level : Nat) : Json → String
  | .array [] => "[]"
  | .array (item :: rest) =>
    "[" ++ ",".intercalate (prettyItems (level + 1) (item :: rest)) ++ indent level ++ "]"
  | .object [] => "\x7b\x7d"
  | .object (member :: rest) =>
    "\x7b" ++ ",".intercalate (prettyMembers (level + 1) (member :: rest)) ++ indent level
      ++ "\x7d"
  | .null => "null"
  | .bool b => if b then "true" else "false"
  | .int n => toString n
  | .float x => floatForm x
  | .text s => textForm s

/-- The items of an array, each on a line of its own. -/
def prettyItems (level : Nat) : List Json → List String
  | [] => []
  | item :: rest => (indent level ++ prettyAt level item) :: prettyItems level rest

/-- The members of an object, each on a line of its own. -/
def prettyMembers (level : Nat) : List (String × Json) → List String
  | [] => []
  | (key, value) :: rest =>
    (indent level ++ textForm key ++ ": " ++ prettyAt level value) :: prettyMembers level rest

end

/-- The value laid out over lines. -/
def pretty (json : Json) : String :=
  prettyAt 0 json

end RequestBinding.Json
