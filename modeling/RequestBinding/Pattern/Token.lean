import RequestBinding.Pattern.Regex
import RequestBinding.Number.Integer

/-!
# Tokens of patterns

A pattern is a sequence of tokens: characters, sets, assertions, the brackets of groups, bars,
quantifiers and flags. What a token means may depend on the flags in force, so a token only says
what is written.
-/

namespace RequestBinding.Pattern

/-- A flag that a pattern can switch. -/
inductive Flag where
  | ignoreCase
  | multiLine
  | dotAll
  | swapGreed
  deriving DecidableEq, Repr

/-- Flags with the state they are switched to, in the order written. -/
abbrev FlagChanges := List (Flag × Bool)

/-- What a piece of a pattern says. -/
inductive Token where
  | char (c : Char)
  /-- Any character, line ends apart. -/
  | dot
  /-- A named set, negated or not, or a bracket. -/
  | set (s : CharSet)
  /-- The start of a text or, in multi-line mode, of a line. -/
  | caret
  /-- The end of a text or, in multi-line mode, of a line. -/
  | dollar
  | assertion (a : Assertion)
  /-- The start of a group, which may have a name and its own flags. -/
  | opening (name : Option String) (flags : FlagChanges)
  /-- Flags for the rest of the group. -/
  | flags (changes : FlagChanges)
  | closing
  | bar
  | quantifier (least : Nat) (most : Option Nat)
  deriving DecidableEq, Repr

namespace Token

/-! ## Escapes -/

/-- What an escape says. -/
inductive Escape where
  | char (c : Char)
  | set (s : CharSet)
  | assertion (a : Assertion)

/-- The character with a code point, if there is one. -/
def charOfCode? (n : Nat) : Option Char :=
  if n < 0xD800 ∨ (0xE000 ≤ n ∧ n < 0x110000) then some (Char.ofNat n) else none

/-- The number that hexadecimal digits write; there must be a digit. -/
def hexNumber? (cs : List Char) : Option Nat :=
  match Numeral.readMagnitude 16 0xFFFFFFFF .tooLarge cs with
  | .ok n => some n
  | .error _ => none

/-- Reads the code of a character: digits in braces, or as many digits as the letter asks for. -/
def readCode (digits : Nat) (cs : List Char) : Option (Char × List Char) :=
  match cs with
  | '\x7b' :: rest =>
    let inner := rest.takeWhile (· != '\x7d')
    match rest.dropWhile (· != '\x7d') with
    | [] => none
    | _ :: rest => (hexNumber? inner).bind fun n => (charOfCode? n).map fun c => (c, rest)
  | cs =>
    let written := cs.take digits
    if written.length < digits then none
    else (hexNumber? written).bind fun n => (charOfCode? n).map fun c => (c, cs.drop digits)

/-- Reads what follows a backslash. A sign of ASCII that is no letter, digit or angle bracket stands
for itself. -/
def readEscape : List Char → Option (Escape × List Char)
  | [] => none
  | c :: rest =>
    match c with
    | 'x' => (readCode 2 rest).map fun (c, rest) => (.char c, rest)
    | 'u' => (readCode 4 rest).map fun (c, rest) => (.char c, rest)
    | 'U' => (readCode 8 rest).map fun (c, rest) => (.char c, rest)
    | 'd' => some (.set .decimal, rest)
    | 'D' => some (.set (.except .decimal), rest)
    | 's' => some (.set .blank, rest)
    | 'S' => some (.set (.except .blank), rest)
    | 'w' => some (.set .word, rest)
    | 'W' => some (.set (.except .word), rest)
    | 'a' => some (.char '\x07', rest)
    | 'f' => some (.char '\x0c', rest)
    | 't' => some (.char '\t', rest)
    | 'n' => some (.char '\n', rest)
    | 'r' => some (.char '\r', rest)
    | 'v' => some (.char '\x0b', rest)
    | 'A' => some (.assertion .textStart, rest)
    | 'z' => some (.assertion .textEnd, rest)
    | 'b' => some (.assertion .wordEdge, rest)
    | 'B' => some (.assertion .noWordEdge, rest)
    | '<' => none
    | '>' => none
    | c =>
      if Text.isAscii c && !Text.isAsciiUpper c && !Text.isAsciiLower c && !Text.isDigit c then
        some (.char c, rest)
      else none

/-! ## Brackets -/

/-- Reads the name of an ASCII set behind its opening bracket: a colon, an optional caret, the name,
and a colon with a bracket. -/
def readNamedSet (cs : List Char) : Option (CharSet × List Char) :=
  match cs with
  | ':' :: rest =>
    let (negated, rest) :=
      match rest with
      | '^' :: rest => (true, rest)
      | rest => (false, rest)
    match rest.dropWhile (· != ':') with
    | ':' :: ']' :: after =>
      (CharSet.named? (String.ofList (rest.takeWhile (· != ':')))).map fun s =>
        (.bracket negated s, after)
    | _ => none
  | _ => none

/-- Reads one member of a bracket: a character or a set. -/
def readMember : List Char → Option ((Char ⊕ CharSet) × List Char)
  | [] => none
  | '\\' :: rest =>
    match readEscape rest with
    | some (.char c, rest) => some (.inl c, rest)
    | some (.set s, rest) => some (.inr s, rest)
    | _ => none
  | c :: rest => some (.inl c, rest)

/-- Reads a member or a range. A hyphen makes a range unless a bracket or a second hyphen comes
behind it; both ends of a range are characters, the lower one first. -/
def readRange (cs : List Char) : Option (CharSet × List Char) :=
  match readMember cs with
  | none => none
  | some (first, rest) =>
    let alone : CharSet :=
      match first with
      | .inl c => .single c
      | .inr s => s
    match rest with
    | [] => none
    | '-' :: next =>
      if next.head? == some ']' || next.head? == some '-' then some (alone, rest)
      else
        match first, readMember next with
        | .inl low, some (.inl high, rest) =>
          if low ≤ high then some (.range low high, rest) else none
        | _, _ => none
    | _ => some (alone, rest)

/-- An operation between the parts of a bracket. -/
inductive SetOp where
  | inter
  | diff
  | symmDiff

/-- The set that an operation makes of two parts. -/
def SetOp.apply : SetOp → CharSet → CharSet → CharSet
  | inter => CharSet.inter
  | diff => CharSet.diff
  | symmDiff => CharSet.symmDiff

/-- A bracket that is being read: the operation that waits for its right side, and the members
since then. -/
structure OpenBracket where
  negated : Bool
  waiting : Option (CharSet × SetOp) := none
  members : CharSet := .none

namespace OpenBracket

/-- Adds a member. -/
def add (b : OpenBracket) (s : CharSet) : OpenBracket :=
  { b with members := .union b.members s }

/-- The set of the parts read so far. -/
def settled (b : OpenBracket) : CharSet :=
  match b.waiting with
  | none => b.members
  | some (left, op) => op.apply left b.members

/-- Starts the right side of an operation. -/
def operate (b : OpenBracket) (op : SetOp) : OpenBracket :=
  { b with waiting := some (b.settled, op), members := .none }

/-- The set of a bracket that is closed. -/
def close (b : OpenBracket) : CharSet :=
  .bracket b.negated b.settled

end OpenBracket

/-- Opens a bracket: a caret negates it, and hyphens, or else a closing bracket, right at its start
stand for themselves. -/
def openBracket (cs : List Char) : OpenBracket × List Char :=
  let (negated, cs) : Bool × List Char :=
    match cs with
    | '^' :: rest => (true, rest)
    | other => (false, other)
  match cs with
  | '-' :: _ =>
    (({ negated } : OpenBracket).add (.single '-'), cs.dropWhile (· == '-'))
  | ']' :: rest => (({ negated } : OpenBracket).add (.single ']'), rest)
  | cs => ({ negated }, cs)

/-- Reads a bracket to its end. The stack holds the brackets around the innermost one; `fuel`
bounds the steps by the length of the input. -/
def readBracket : (fuel : Nat) → OpenBracket → List OpenBracket → List Char →
    Option (CharSet × List Char)
  | 0, _, _, _ => none
  | fuel + 1, inner, outer, cs =>
    match cs with
    | [] => none
    | '[' :: rest =>
      match readNamedSet rest with
      | some (s, rest) => readBracket fuel (inner.add s) outer rest
      | none =>
        let (opened, rest) := openBracket rest
        readBracket fuel opened (inner :: outer) rest
    | ']' :: rest =>
      match outer with
      | [] => some (inner.close, rest)
      | next :: outer => readBracket fuel (next.add inner.close) outer rest
    | '&' :: '&' :: rest => readBracket fuel (inner.operate .inter) outer rest
    | '-' :: '-' :: rest => readBracket fuel (inner.operate .diff) outer rest
    | '~' :: '~' :: rest => readBracket fuel (inner.operate .symmDiff) outer rest
    | cs =>
      match readRange cs with
      | some (s, rest) => readBracket fuel (inner.add s) outer rest
      | none => none

/-! ## Groups and flags -/

/-- The flag that a letter names. -/
def flag? : Char → Option Flag
  | 'i' => some .ignoreCase
  | 'm' => some .multiLine
  | 's' => some .dotAll
  | 'U' => some .swapGreed
  | _ => none

/-- Reads flags up to a colon or a closing bracket, which is given back with the rest. A flag may
come only once; a hyphen switches off what follows it, and something has to follow. -/
def readFlags (on : Bool) (read : FlagChanges) : List Char →
    Option (FlagChanges × Char × List Char)
  | [] => none
  | c :: rest =>
    if c == ':' || c == ')' then
      if !on && read.all (·.2) then none else some (read.reverse, c, rest)
    else if c == '-' then
      if on then readFlags false read rest else none
    else
      match flag? c with
      | none => none
      | some f => if read.any (·.1 == f) then none else readFlags on ((f, on) :: read) rest

/-- A character that a group name may have, at its start or later. -/
def isNameChar (first : Bool) (c : Char) : Bool :=
  c == '_' || (if first then Text.isAlphabetic c
    else c == '.' || c == '[' || c == ']' || Text.isAlphanumeric c)

/-- Reads the name of a group up to its angle bracket. -/
def readName (cs : List Char) : Option (String × List Char) :=
  match cs.takeWhile (· != '>'), cs.dropWhile (· != '>') with
  | c :: more, _ :: rest =>
    if isNameChar true c && more.all (isNameChar false) then some (String.ofList (c :: more), rest)
    else none
  | _, _ => none

/-- Reads what follows an opening bracket of a group. Conditions on what lies ahead or behind are
not supported. -/
def readOpening (cs : List Char) : Option (Token × List Char) :=
  match cs with
  | '?' :: '=' :: _ => none
  | '?' :: '!' :: _ => none
  | '?' :: '<' :: '=' :: _ => none
  | '?' :: '<' :: '!' :: _ => none
  | '?' :: 'P' :: '<' :: rest => (readName rest).map fun (n, rest) => (.opening (some n) [], rest)
  | '?' :: '<' :: rest => (readName rest).map fun (n, rest) => (.opening (some n) [], rest)
  | '?' :: rest =>
    match readFlags true [] rest with
    | none => none
    | some (changes, ':', rest) => some (.opening none changes, rest)
    | some (changes, _, rest) => if changes.isEmpty then none else some (.flags changes, rest)
  | rest => some (.opening none [], rest)

/-! ## Quantifiers -/

/-- The input behind a quantifier; a question mark there only concerns which match is preferred. -/
def skipLazy : List Char → List Char
  | '?' :: rest => rest
  | rest => rest

/-- Reads a count of at most 32 bits with white space around it; nothing for the first component
when there are no digits. -/
def readCount (cs : List Char) : Option (Option Nat × List Char) :=
  let cs := cs.dropWhile Text.isBlank
  let digits := cs.takeWhile Text.isDigit
  let rest := (cs.dropWhile Text.isDigit).dropWhile Text.isBlank
  if digits.isEmpty then some (none, rest)
  else
    match Numeral.readMagnitude 10 (Nat.pow 2 32 - 1) .tooLarge digits with
    | .ok n => some (some n, rest)
    | .error _ => none

/-- Reads a counted quantifier behind its opening brace: one count, a least count, or a least and a
greatest one. -/
def readCounted (cs : List Char) : Option (Token × List Char) :=
  match readCount cs with
  | some (some least, '\x7d' :: rest) => some (.quantifier least (some least), skipLazy rest)
  | some (some least, ',' :: '\x7d' :: rest) => some (.quantifier least none, skipLazy rest)
  | some (some least, ',' :: rest) =>
    match readCount rest with
    | some (some most, '\x7d' :: rest) =>
      if least ≤ most then some (.quantifier least (some most), skipLazy rest) else none
    | _ => none
  | _ => none

/-! ## Tokens -/

/-- Reads the first token of a pattern. -/
def read : List Char → Option (Token × List Char)
  | [] => none
  | c :: rest =>
    match c with
    | '.' => some (.dot, rest)
    | '^' => some (.caret, rest)
    | '$' => some (.dollar, rest)
    | '|' => some (.bar, rest)
    | ')' => some (.closing, rest)
    | '(' => readOpening rest
    | '[' =>
      let (opened, inner) := openBracket rest
      (readBracket (rest.length + 1) opened [] inner).map fun (s, rest) => (.set s, rest)
    | '*' => some (.quantifier 0 none, skipLazy rest)
    | '+' => some (.quantifier 1 none, skipLazy rest)
    | '?' => some (.quantifier 0 (some 1), skipLazy rest)
    | '\x7b' => readCounted rest
    | '\\' =>
      match readEscape rest with
      | some (.char c, rest) => some (.char c, rest)
      | some (.set s, rest) => some (.set s, rest)
      | some (.assertion a, rest) => some (.assertion a, rest)
      | none => none
    | c => some (.char c, rest)

/-- The tokens of a pattern; `fuel` bounds their number by the length of the pattern. -/
def readAll : (fuel : Nat) → List Char → Option (List Token)
  | _, [] => some []
  | 0, _ :: _ => none
  | fuel + 1, c :: cs =>
    match read (c :: cs) with
    | none => none
    | some (t, rest) => (readAll fuel rest).map (t :: ·)

/-- The tokens of a pattern, when every piece of it is one. -/
def tokens? (pattern : List Char) : Option (List Token) :=
  readAll pattern.length pattern

end Token

end RequestBinding.Pattern
