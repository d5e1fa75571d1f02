import RequestBinding.Text.CodeRanges

/-!
# Blank characters

Which characters are white space, and texts with it taken off both ends. Texts are worked on as
lists of characters.
-/

namespace RequestBinding.Text

/-- A character with the property `White_Space`. -/
def isBlank (c : Char) : Bool :=
  (9 ≤ c.toNat && c.toNat ≤ 13) || c.toNat == 32 || c.toNat == 0x85 || c.toNat == 0xA0
    || c.toNat == 0x1680 || (0x2000 ≤ c.toNat && c.toNat ≤ 0x200A) || c.toNat == 0x2028
    || c.toNat == 0x2029 || c.toNat == 0x202F || c.toNat == 0x205F || c.toNat == 0x3000

/-- The text without the characters of the class at its end. -/
def dropTrailing (p : Char → Bool) (cs : List Char) : List Char :=
  (cs.reverse.dropWhile p).reverse

/-- The text without the characters of the class at either end. -/
def trimBoth (p : Char → Bool) (cs : List Char) : List Char :=
  dropTrailing p (cs.dropWhile p)

/-- The text without white space at either end. -/
def trimChars (cs : List Char) : List Char :=
  trimBoth isBlank cs

/-- The text without white space at either end. -/
def trim (s : String) : String :=
  String.ofList (trimChars s.toList)

/-- The text without spaces at its end; other white space stays. -/
def dropTrailingSpaces (cs : List Char) : List Char :=
  dropTrailing (· == ' ') cs

end RequestBinding.Text
