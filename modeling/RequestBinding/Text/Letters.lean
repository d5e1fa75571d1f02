import RequestBinding.Text.CodeRanges
import RequestBinding.Text.LetterRanges
import RequestBinding.Text.CaseRuns

/-!
# Letters and their case

The classes of upper and lower case letters, the full case mappings of a character (one character
may become several), and the simple case folding under which a pattern ignores case. On ASCII each
of them is the familiar one; beyond ASCII they follow the tables.
-/

namespace RequestBinding.Text

/-- The character is one of the first 128 code points. -/
def isAscii (c : Char) : Bool :=
  c.toNat < 128

/-- An ASCII digit. -/
def isDigit (c : Char) : Bool :=
  '0' ≤ c && c ≤ '9'

/-- An ASCII capital. -/
def isAsciiUpper (c : Char) : Bool :=
  'A' ≤ c && c ≤ 'Z'

/-- An ASCII small letter. -/
def isAsciiLower (c : Char) : Bool :=
  'a' ≤ c && c ≤ 'z'

/-- An ASCII capital becomes its small letter, everything else stays. -/
def asciiLower (c : Char) : Char :=
  if isAsciiUpper c then Char.ofNat (c.toNat + 32) else c

/-- An ASCII small letter becomes its capital, everything else stays. -/
def asciiUpper (c : Char) : Char :=
  if isAsciiLower c then Char.ofNat (c.toNat - 32) else c

/-- Two texts that differ at most in the case of ASCII letters. -/
def eqIgnoringAsciiCase (a b : List Char) : Bool :=
  a.map asciiLower == b.map asciiLower

/-- A character with the property `Uppercase`. -/
def isUpper (c : Char) : Bool :=
  if isAscii c then isAsciiUpper c else upperRanges.holds c

/-- A character with the property `Lowercase`. -/
def isLower (c : Char) : Bool :=
  if isAscii c then isAsciiLower c else lowerRanges.holds c

/-- A character with the property `Alphabetic`. -/
def isAlphabetic (c : Char) : Bool :=
  if isAscii c then isAsciiUpper c || isAsciiLower c else alphabeticRanges.holds c

/-- An alphabetic character or one of the number categories. -/
def isAlphanumeric (c : Char) : Bool :=
  if isAscii c then isAsciiUpper c || isAsciiLower c || isDigit c
  else alphabeticRanges.holds c || numberRanges.holds c

/-- The full upper case of a character. -/
def toUpper (c : Char) : List Char :=
  if isAscii c then [asciiUpper c]
  else
    match upperExpansions.find? (·.1 == c.toNat) with
    | some (_, codes) => codes.map Char.ofNat
    | none => [Char.ofNat (applyRuns upperRuns c.toNat)]

/-- The full lower case of a character. -/
def toLower (c : Char) : List Char :=
  if isAscii c then [asciiLower c]
  else
    match lowerExpansions.find? (·.1 == c.toNat) with
    | some (_, codes) => codes.map Char.ofNat
    | none => [Char.ofNat (applyRuns lowerRuns c.toNat)]

/-- The lower case of a text, character by character. -/
def lowerChars (cs : List Char) : List Char :=
  cs.flatMap toLower

/-- The simple case folding of a character. -/
def foldCase (c : Char) : Char :=
  if isAscii c then asciiLower c else Char.ofNat (applyRuns foldRuns c.toNat)

/-- The characters with the same simple case folding as `c`. -/
def caseOrbit (c : Char) : List Char :=
  let folded := foldCase c
  folded :: (if isAscii folded then [asciiUpper folded] else [])
    ++ (foldRuns.filterMap (·.origin? folded.toNat)).map Char.ofNat

end RequestBinding.Text
