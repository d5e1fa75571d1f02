import RequestBinding.Text.Utf8
import RequestBinding.Yaml.Flow

/-!
# Block style

One document whose structure is given by indentation: mappings with a member on each line, lists
with a hyphen in front of each item, and within a line the flow style. Blank lines and comments do
not count.
-/

namespace RequestBinding.Yaml

/-- A line that counts: how far it is indented, and its text. -/
structure Line where
  indent : Nat
  text : List Char

namespace Line

/-- Reads a line; blank lines and comments do not count. -/
def read? (cs : List Char) : Option Line :=
  let cs := Text.dropTrailing isSpace cs
  let text := cs.dropWhile (· == ' ')
  match text with
  | [] => none
  | '#' :: _ => none
  | _ => some ⟨cs.length - text.length, text⟩

/-- The lines of a document that count. The marks around a document are left out. -/
def all (cs : List Char) : List Line :=
  let lines := (cs.splitOn '\n').filterMap read?
  let isMark (mark : String) (line : Line) : Bool := line.indent == 0 && line.text == mark.toList
  let lines := if (lines.head?.any (isMark "---")) then lines.drop 1 else lines
  if lines.getLast?.any (isMark "...") then lines.dropLast else lines

/-- What follows the hyphen of an item, as a line of its own. -/
def item? (line : Line) : Option (Option Line) :=
  match line.text with
  | ['-'] => some none
  | '-' :: ' ' :: rest =>
    let text := rest.dropWhile (· == ' ')
    let shift := line.text.length - text.length
    some (match text with
      | [] => none
      | '#' :: _ => none
      | _ => some ⟨line.indent + shift, text⟩)
  | _ => none

/-- The key of a member and what follows its colon on the line. -/
def member? (line : Line) : Option (String × List Char) :=
  match line.text with
  | '[' :: _ => none
  | '\x7b' :: _ => none
  | text =>
    match readFlowKey? text with
    | some (key, ' ' :: rest) => some (key, rest.dropWhile (· == ' '))
    | some (key, []) => some (key, [])
    | _ => none

end Line

/-- The text behind a colon holds nothing but a comment. -/
def isBlankValue : List Char → Bool
  | [] => true
  | '#' :: _ => true
  | _ => false

/-- Reads a value that stands alone on its line. What would begin a member or an item is none. -/
def readInline? (cs : List Char) : Option Json :=
  let line : Line := ⟨0, cs⟩
  if line.item?.isSome || line.member?.isSome then none else readWhole? cs

mutual

/-- Reads the value that the next line begins. -/
def readBlock : (fuel : Nat) → List Line → Option (Json × List Line)
  | 0, _ => none
  | _ + 1, [] => none
  | fuel + 1, line :: rest =>
    if line.item?.isSome then
      (readItems fuel line.indent (line :: rest)).map fun (items, rest) => (.array items, rest)
    else if line.member?.isSome then
      (readMembers fuel line.indent (line :: rest)).map fun (members, rest) =>
        (.ofMembers members, rest)
    else (readInline? line.text).map fun value => (value, rest)

/-- Reads the items of a list that is indented by `indent`. -/
def readItems : (fuel indent : Nat) → List Line → Option (List Json × List Line)
  | 0, _, _ => none
  | _ + 1, _, [] => some ([], [])
  | fuel + 1, indent, line :: rest =>
    if line.indent != indent then some ([], line :: rest)
    else
      match line.item? with
      | none => some ([], line :: rest)
      | some first =>
        let value :=
          match first with
          | some inner => readBlock fuel (inner :: rest)
          | none => readBelow fuel (indent + 1) rest
        match value with
        | none => none
        | some (item, rest) =>
          (readItems fuel indent rest).map fun (items, rest) => (item :: items, rest)

/-- Reads the members of a mapping that is indented by `indent`. -/
def readMembers : (fuel indent : Nat) → List Line → Option (List (String × Json) × List Line)
  | 0, _, _ => none
  | _ + 1, _, [] => some ([], [])
  | fuel + 1, indent, line :: rest =>
    if line.indent != indent then some ([], line :: rest)
    else
      match line.member? with
      | none => some ([], line :: rest)
      | some (key, text) =>
        let value :=
          if !isBlankValue text then (readInline? text).map fun value => (value, rest)
          else if rest.head?.any fun next => next.indent == indent && next.item?.isSome then
            readBlock fuel rest
          else readBelow fuel (indent + 1) rest
        match value with
        | none => none
        | some (value, rest) =>
          (readMembers fuel indent rest).map fun (members, rest) => ((key, value) :: members, rest)

/-- Reads a value whose lines are indented by `indent` at least; without such lines it is
missing. -/
def readBelow : (fuel indent : Nat) → List Line → Option (Json × List Line)
  | 0, _, _ => none
  | _ + 1, _, [] => some (.null, [])
  | fuel + 1, indent, line :: rest =>
    if line.indent < indent then some (.null, line :: rest) else readBlock fuel (line :: rest)

end

/-- Reads a document. One in flow style may go over several lines. -/
def parse? (text : String) : Option Json :=
  let cs := text.toList
  match cs.dropWhile fun c => isSpace c && c != '\t' with
  | '[' :: _ => readWhole? cs
  | '\x7b' :: _ => readWhole? cs
  | _ =>
    let lines := Line.all cs
    match readBlock (3 * cs.length + 3) lines with
    | some (value, []) => some value
    | _ => none

/-- The value that the octets of a body write. They must be well-formed UTF-8. -/
def ofOctets? (body : Text.Bytes) : Option Json :=
  (String.fromUTF8? ⟨body.toArray⟩).bind parse?

end RequestBinding.Yaml
