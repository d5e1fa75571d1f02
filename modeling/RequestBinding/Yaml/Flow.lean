import RequestBinding.Json.Reader
import RequestBinding.Yaml.Scalar

/-!
# Flow style

Values on one line: quoted and plain scalars, lists in square brackets and mappings in braces.
-/

namespace RequestBinding.Yaml

/-- White space between the parts of a value. -/
def isSpace (c : Char) : Bool :=
  c == ' ' || c == '\t' || c == '\n' || c == '\r'

/-- The input from the next part on. -/
def skipSpace (cs : List Char) : List Char :=
  cs.dropWhile isSpace

/-- Reads a text between single quotes up to its end, where a doubled quote stands for one;
`read` holds the characters before, the last one first. -/
def readSingle (read : List Char) : List Char → Option (List Char × List Char)
  | [] => none
  | '\'' :: '\'' :: rest => readSingle ('\'' :: read) rest
  | '\'' :: rest => some (read.reverse, rest)
  | c :: rest => readSingle (c :: read) rest

/-- The character that a letter behind a backslash writes. -/
def escaped? : Char → Option Char
  | '0' => some '\x00' | 'a' => some '\x07' | 'e' => some '\x1b' | 'v' => some '\x0b'
  | ' ' => some ' ' | c => Json.Reader.escaped? c

/-- Reads a text between double quotes up to its end. -/
def readDouble (read : List Char) : List Char → Option (List Char × List Char)
  | [] => none
  | '"' :: rest => some (read.reverse, rest)
  | '\\' :: 'x' :: a :: b :: rest =>
    match Numeral.digitValue? 16 a, Numeral.digitValue? 16 b with
    | some a, some b => readDouble (Char.ofNat (a * 16 + b) :: read) rest
    | _, _ => none
  | '\\' :: 'u' :: a :: b :: c :: d :: rest =>
    match Json.Reader.hexQuad? a b c d with
    | some code =>
      if 0xD800 ≤ code ∧ code < 0xE000 then none else readDouble (Char.ofNat code :: read) rest
    | none => none
  | '\\' :: c :: rest =>
    match escaped? c with
    | some c => readDouble (c :: read) rest
    | none => none
  | c :: rest => readDouble (c :: read) rest

/-- Reads a quoted text. -/
def readQuoted? : List Char → Option (String × List Char)
  | '\'' :: rest => (readSingle [] rest).map fun (text, rest) => (String.ofList text, rest)
  | '"' :: rest => (readDouble [] rest).map fun (text, rest) => (String.ofList text, rest)
  | _ => none

/-- Characters that no plain scalar begins with. -/
def isIndicator (c : Char) : Bool :=
  "[]\x7b\x7d,#&*!|>'\"%@`".toList.contains c

/-- A plain scalar may begin here: with no indicator, and with a hyphen, a question mark or a colon
only in front of something else than a space. -/
def beginsPlain : List Char → Bool
  | [] => false
  | c :: rest =>
    if c == '-' || c == '?' || c == ':' then rest.head?.any (!isSpace ·)
    else !isIndicator c && !isSpace c

/-- Characters that end a plain scalar within brackets. -/
def endsPlain (c : Char) : Bool :=
  "[]\x7b\x7d,".toList.contains c

/-- The plain scalar that the text begins with, up to a colon before a space, a comment or a
character that ends it, and what follows; `read` holds the characters before. -/
def readPlain (read : List Char) : List Char → List Char × List Char
  | [] => (read.reverse, [])
  | ':' :: c :: rest =>
    if isSpace c || endsPlain c then (read.reverse, ':' :: c :: rest)
    else readPlain (':' :: read) (c :: rest)
  | [':'] => (read.reverse, [':'])
  | c :: rest =>
    if endsPlain c then (read.reverse, c :: rest)
    else if isSpace c && rest.head? == some '#' then (read.reverse, c :: rest)
    else readPlain (c :: read) rest

/-- Reads the key of a member and the colon behind it. -/
def readFlowKey? (cs : List Char) : Option (String × List Char) :=
  let found :=
    match readQuoted? cs with
    | some found => some found
    | none =>
      if beginsPlain cs then
        let (text, rest) := readPlain [] cs
        some (String.ofList (Text.trimChars text), rest)
      else none
  match found with
  | none => none
  | some (key, rest) =>
    match skipSpace rest with
    | ':' :: rest => some (key, rest)
    | _ => none

mutual

/-- Reads one value. -/
def readFlow : (fuel : Nat) → List Char → Option (Json × List Char)
  | 0, _ => none
  | fuel + 1, cs =>
    match skipSpace cs with
    | '[' :: rest => (readFlowItems fuel rest).map fun (items, rest) => (.array items, rest)
    | '\x7b' :: rest =>
      (readFlowMembers fuel rest).map fun (members, rest) => (.ofMembers members, rest)
    | cs =>
      match readQuoted? cs with
      | some (text, rest) => some (.text text, rest)
      | none =>
        if beginsPlain cs then
          let (text, rest) := readPlain [] cs
          some (ofPlain (Text.trimChars text), rest)
        else none

/-- Reads the items of a list up to its closing bracket. -/
def readFlowItems : (fuel : Nat) → List Char → Option (List Json × List Char)
  | 0, _ => none
  | fuel + 1, cs =>
    match skipSpace cs with
    | ']' :: rest => some ([], rest)
    | cs =>
      match readFlow fuel cs with
      | none => none
      | some (item, rest) =>
        match skipSpace rest with
        | ',' :: rest => (readFlowItems fuel rest).map fun (items, rest) => (item :: items, rest)
        | ']' :: rest => some ([item], rest)
        | _ => none

/-- Reads the members of a mapping up to its closing brace. -/
def readFlowMembers : (fuel : Nat) → List Char → Option (List (String × Json) × List Char)
  | 0, _ => none
  | fuel + 1, cs =>
    match skipSpace cs with
    | '\x7d' :: rest => some ([], rest)
    | cs =>
      match readFlowKey? cs with
      | none => none
      | some (key, rest) =>
        match readFlow fuel rest with
        | none => none
        | some (value, rest) =>
          match skipSpace rest with
          | ',' :: rest =>
            (readFlowMembers fuel rest).map fun (members, rest) => ((key, value) :: members, rest)
          | '\x7d' :: rest => some ([(key, value)], rest)
          | _ => none

end

/-- Reads a text that is one value in flow style. -/
def readWhole? (cs : List Char) : Option Json :=
  match readFlow (2 * cs.length + 2) cs with
  | some (value, rest) =>
    match skipSpace rest with
    | [] => some value
    | '#' :: _ => some value
    | _ => none
  | none => none

end RequestBinding.Yaml
