/-!
# Reading UTF-8 with replacement

Every byte sequence has a text: well-formed characters are read as they are, and each longest
beginning of a character that cannot be completed becomes one replacement character.
-/

namespace RequestBinding.Text

/-- Octets as a list, the form in which bodies, files and header values are worked on. -/
abbrev Bytes := List UInt8

/-- The octets of a text. -/
def utf8Bytes (s : String) : Bytes :=
  s.toUTF8.data.toList

namespace Utf8

/-- The character that stands for octets no character can be read from. -/
def replacement : Char := '\uFFFD'

/-- A character that has begun: how many octets it still needs, the bounds of the next one, and
the code point read so far. -/
structure Open where
  owed : Nat
  low : Nat
  high : Nat
  code : Nat

/-- What a first octet says. -/
inductive Lead where
  | whole (c : Char)
  | opened (o : Open)
  | malformed

/-- Reads the first octet of a character. -/
def lead (b : Nat) : Lead :=
  if b < 0x80 then .whole (Char.ofNat b)
  else if 0xC2 ≤ b ∧ b ≤ 0xDF then .opened ⟨1, 0x80, 0xBF, b - 0xC0⟩
  else if b = 0xE0 then .opened ⟨2, 0xA0, 0xBF, 0⟩
  else if b = 0xED then .opened ⟨2, 0x80, 0x9F, 0xD⟩
  else if 0xE1 ≤ b ∧ b ≤ 0xEF then .opened ⟨2, 0x80, 0xBF, b - 0xE0⟩
  else if b = 0xF0 then .opened ⟨3, 0x90, 0xBF, 0⟩
  else if 0xF1 ≤ b ∧ b ≤ 0xF3 then .opened ⟨3, 0x80, 0xBF, b - 0xF0⟩
  else if b = 0xF4 then .opened ⟨3, 0x80, 0x8F, 4⟩
  else .malformed

/-- The characters read so far, the last one first, and the character that has begun. -/
structure Progress where
  read : List Char
  pending : Option Open

/-- Takes an octet that begins a character. -/
def Progress.start (read : List Char) (b : Nat) : Progress :=
  match lead b with
  | .whole c => ⟨c :: read, none⟩
  | .opened o => ⟨read, some o⟩
  | .malformed => ⟨replacement :: read, none⟩

/-- Takes the next octet. One that cannot continue the pending character closes it as malformed
and begins a new one. -/
def Progress.next (p : Progress) (octet : UInt8) : Progress :=
  let b := octet.toNat
  match p.pending with
  | none => .start p.read b
  | some o =>
    if o.low ≤ b ∧ b ≤ o.high then
      let code := o.code * 64 + (b - 0x80)
      if o.owed ≤ 1 then ⟨Char.ofNat code :: p.read, none⟩
      else ⟨p.read, some ⟨o.owed - 1, 0x80, 0xBF, code⟩⟩
    else .start (replacement :: p.read) b

/-- The characters of an octet sequence that has ended. -/
def Progress.finish (p : Progress) : List Char :=
  match p.pending with
  | none => p.read.reverse
  | some _ => (replacement :: p.read).reverse

/-- The characters of an octet sequence. -/
def decodeChars (bytes : Bytes) : List Char :=
  (bytes.foldl Progress.next ⟨[], none⟩).finish

/-- The text of an octet sequence. -/
def decode (bytes : Bytes) : String :=
  String.ofList (decodeChars bytes)

end Utf8

end RequestBinding.Text
