import RequestBinding.Json.Value
import RequestBinding.Number.Integer

/-!
# Reading JSON

One value with white space around it, nested at most 127 deep. An integer that fits 64 bits, with
or without sign, stays an integer; any other number becomes a float. A float is the significand,
as far as it fits 64 bits on either side of the point, scaled once by a power of ten, and one that
is too large is refused. Escapes of lone surrogates are refused.
-/

namespace RequestBinding.Json

namespace Reader

/-- White space between the parts of a value. -/
def isSpace (c : Char) : Bool :=
  c == ' ' || c == '\n' || c == '\r' || c == '\t'

/-- The input from the next part on. -/
def skipSpace (cs : List Char) : List Char :=
  cs.dropWhile isSpace

/-! ## Texts -/

/-- The number that four hexadecimal digits write. -/
def hexQuad? (a b c d : Char) : Option Nat := do
  let a ← Numeral.digitValue? 16 a
  let b ← Numeral.digitValue? 16 b
  let c ← Numeral.digitValue? 16 c
  let d ← Numeral.digitValue? 16 d
  return ((a * 16 + b) * 16 + c) * 16 + d

/-- The character that a letter behind a backslash writes. -/
def escaped? : Char → Option Char
  | '"' => some '"' | '\\' => some '\\' | '/' => some '/' | 'b' => some '\x08'
  | 'f' => some '\x0c' | 'n' => some '\n' | 'r' => some '\r' | 't' => some '\t'
  | _ => none

/-- Reads a text up to its closing quote; `read` holds the characters before, the last one
first. -/
def readText (read : List Char) : List Char → Option (String × List Char)
  | [] => none
  | '"' :: rest => some (String.ofList read.reverse, rest)
  | '\\' :: 'u' :: a :: b :: c :: d :: '\\' :: 'u' :: e :: f :: g :: h :: rest =>
    match hexQuad? a b c d with
    | none => none
    | some high =>
      if 0xD800 ≤ high ∧ high < 0xDC00 then
        match hexQuad? e f g h with
        | none => none
        | some low =>
          if 0xDC00 ≤ low ∧ low < 0xE000 then
            readText (Char.ofNat (0x10000 + (high - 0xD800) * 0x400 + (low - 0xDC00)) :: read) rest
          else none
      else if 0xDC00 ≤ high ∧ high < 0xE000 then none
      else readText (Char.ofNat high :: read) ('\\' :: 'u' :: e :: f :: g :: h :: rest)
  | '\\' :: 'u' :: a :: b :: c :: d :: rest =>
    match hexQuad? a b c d with
    | none => none
    | some code =>
      if 0xD800 ≤ code ∧ code < 0xE000 then none
      else readText (Char.ofNat code :: read) rest
  | '\\' :: c :: rest =>
    match escaped? c with
    | some c => readText (c :: read) rest
    | none => none
  | c :: rest => if c.toNat < 32 then none else readText (c :: read) rest

/-! ## Numbers -/

/-- A significand that fits 64 bits, with the power of ten that makes up for the digits left
away. Once a digit does not fit, the ones behind it on the same side of the point are left away
too. -/
structure Significand where
  value : Nat
  exponent : Int
  /-- Every digit so far on this side of the point was taken. -/
  exact : Bool

/-- Takes one more digit; `place` is one for digits behind the point. -/
def Significand.push (place : Int) (s : Significand) (c : Char) : Significand :=
  let next := s.value * 10 + (c.toNat - '0'.toNat)
  if s.exact && next ≤ wordMax then { s with value := next, exponent := s.exponent - place }
  else { s with exponent := s.exponent + (1 - place), exact := false }

/-- The significand as the digits behind the point find it: they are taken again while they fit,
also when the digits before the point were cut off. -/
def Significand.reopen (s : Significand) : Significand :=
  { s with exact := true }

/-- `value * 10 ^ exponent`, scaled in one step where the power of ten has a float, in steps of
`10 ^ 308` below; nothing when it is too large. -/
def scaleFloat (x : Float) (exponent : Int) : (fuel : Nat) → Option Float
  | 0 => some 0.0
  | fuel + 1 =>
    if exponent.natAbs ≤ 308 then
      let power := Float.ofScientific 1 false exponent.natAbs
      if 0 ≤ exponent then
        let y := x * power
        if y.isInf then none else some y
      else some (x / power)
    else if x == 0.0 then some x
    else if 0 ≤ exponent then none
    else scaleFloat (x / 1e308) (exponent + 308) fuel

/-- The float of a significand and a power of ten; a power far below every float gives zero. -/
def Significand.toFloat? (s : Significand) : Option Float :=
  let x := Float.ofNat s.value
  if s.exponent < -1000000 then some 0.0 else scaleFloat x s.exponent 5000

/-- Reads the digits of an exponent behind its letter: the exponent and the rest. -/
def readPower (cs : List Char) : Option (Int × List Char) :=
  let (negative, cs) : Bool × List Char :=
    match cs with
    | '-' :: rest => (true, rest)
    | '+' :: rest => (false, rest)
    | other => (false, other)
  let digits := cs.takeWhile Text.isDigit
  if digits.isEmpty then none
  else
    let n := digits.foldl (fun n c => n * 10 + (c.toNat - '0'.toNat)) 0
    some (if negative then -(n : Int) else n, cs.dropWhile Text.isDigit)

/-- Reads what follows the digits of a number without sign: a fraction, an exponent, both or
neither. -/
def readNumberTail (negative : Bool) (whole : Significand) (cs : List Char) :
    Option (Json × List Char) := do
  let signed (x : Float) : Json := .float (if negative then -x else x)
  let (s, afterFraction, fractional) ←
    match cs with
    | '.' :: rest =>
      let digits := rest.takeWhile Text.isDigit
      if digits.isEmpty then none
      else
        some (digits.foldl (·.push 1 ·) whole.reopen, rest.dropWhile Text.isDigit, true)
    | other => some (whole, other, false)
  match afterFraction with
  | c :: rest =>
    if c == 'e' || c == 'E' then
      let (power, rest) ← readPower rest
      if s.value == 0 then return (signed 0.0, rest)
      let x ← { s with exponent := s.exponent + power }.toFloat?
      return (signed x, rest)
    else if fractional || !s.exact then
      let x ← s.toFloat?
      return (signed x, c :: rest)
    else return (integer negative s.value, c :: rest)
  | [] =>
    if fractional || !s.exact then
      let x ← s.toFloat?
      return (signed x, [])
    else return (integer negative s.value, [])
where
  /-- An integer of 64 bits; a negative one that does not fit, and the negative zero, is a
  float. -/
  integer (negative : Bool) (n : Nat) : Json :=
    if !negative then .int n
    else if n == 0 || n > Nat.pow 2 63 then .float (-(Float.ofNat n))
    else .int (-(n : Int))

/-- Reads a number from its first digit on. A leading zero stands alone. -/
def readNumber (negative : Bool) (cs : List Char) : Option (Json × List Char) :=
  let digits := cs.takeWhile Text.isDigit
  match digits with
  | [] => none
  | '0' :: _ :: _ => none
  | _ => readNumberTail negative (digits.foldl (·.push 0 ·) ⟨0, 0, true⟩)
      (cs.dropWhile Text.isDigit)

/-! ## Values -/

mutual

/-- Reads one value. `depth` tells how many levels may still open, `fuel` bounds the steps by the
length of the input. -/
def readValue : (fuel depth : Nat) → List Char → Option (Json × List Char)
  | 0, _, _ => none
  | fuel + 1, depth, cs =>
    match skipSpace cs with
    | '"' :: rest => (readText [] rest).map fun (s, rest) => (.text s, rest)
    | 'n' :: 'u' :: 'l' :: 'l' :: rest => some (.null, rest)
    | 't' :: 'r' :: 'u' :: 'e' :: rest => some (.bool true, rest)
    | 'f' :: 'a' :: 'l' :: 's' :: 'e' :: rest => some (.bool false, rest)
    | '-' :: rest => readNumber true rest
    | '[' :: rest =>
      match depth with
      | 0 => none
      | depth + 1 =>
        match skipSpace rest with
        | ']' :: rest => some (.array [], rest)
        | _ => (readItems fuel depth [] rest).map fun (items, rest) => (.array items, rest)
    | '\x7b' :: rest =>
      match depth with
      | 0 => none
      | depth + 1 =>
        match skipSpace rest with
        | '\x7d' :: rest => some (.object [], rest)
        | _ => (readMembers fuel depth [] rest).map fun (members, rest) => (.object members, rest)
    | other => readNumber false other

/-- Reads the items of an array up to its closing bracket; `read` holds the ones before, the last
one first. -/
def readItems : (fuel depth : Nat) → (read : List Json) → List Char →
    Option (List Json × List Char)
  | 0, _, _, _ => none
  | fuel + 1, depth, read, cs =>
    match readValue fuel depth cs with
    | none => none
    | some (item, rest) =>
      match skipSpace rest with
      | ',' :: rest => readItems fuel depth (item :: read) rest
      | ']' :: rest => some ((item :: read).reverse, rest)
      | _ => none

/-- Reads the members of an object up to its closing brace; `read` holds the ones before, sorted. -/
def readMembers : (fuel depth : Nat) → (read : List (String × Json)) → List Char →
    Option (List (String × Json) × List Char)
  | 0, _, _, _ => none
  | fuel + 1, depth, read, cs =>
    match skipSpace cs with
    | '"' :: rest =>
      match readText [] rest with
      | none => none
      | some (key, rest) =>
        match skipSpace rest with
        | ':' :: rest =>
          match readValue fuel depth rest with
          | none => none
          | some (value, rest) =>
            match skipSpace rest with
            | ',' :: rest => readMembers fuel depth (insertMember key value read) rest
            | '\x7d' :: rest => some (insertMember key value read, rest)
            | _ => none
        | _ => none
    | _ => none

end

end Reader

/-- The levels of nesting that a reader accepts. -/
def maxDepth : Nat := 127

/-- The value that a text writes. -/
def parse? (text : String) : Option Json :=
  let cs := text.toList
  match Reader.readValue (2 * cs.length + 2) maxDepth cs with
  | some (value, rest) => if (Reader.skipSpace rest).isEmpty then some value else none
  | none => none

end RequestBinding.Json
