import RequestBinding.Form.Values
import RequestBinding.Text.Split
import RequestBinding.Text.Utf8

/-!
# Url-encoded forms

A query string or a url-encoded body is a list of pairs between ampersands. Within a pair the
first equals sign ends the key; a plus sign is a space, and a percent sign with two hexadecimal
digits is an octet. Empty pairs are skipped, anything else can be read.
-/

namespace RequestBinding.UrlEncoded

open Text (Bytes)

/-- The value of a hexadecimal digit. -/
def hexValue? (b : UInt8) : Option UInt8 :=
  if 48 ≤ b && b ≤ 57 then some (b - 48)
  else if 97 ≤ b && b ≤ 102 then some (b - 87)
  else if 65 ≤ b && b ≤ 70 then some (b - 55)
  else none

/-- Replaces plus signs and percent escapes, and puts the result in front of `read`, the octets
read so far with the last one first. An escape that is not complete stays as it is. -/
def unescapeOnto (read : Bytes) : Bytes → Bytes
  | [] => read
  | 37 :: a :: b :: rest =>
    match hexValue? a, hexValue? b with
    | some high, some low => unescapeOnto ((high * 16 + low) :: read) rest
    | _, _ => unescapeOnto (37 :: read) (a :: b :: rest)
  | 43 :: rest => unescapeOnto (32 :: read) rest
  | b :: rest => unescapeOnto (b :: read) rest

/-- The text that an encoded piece stands for. -/
def decodePiece (piece : Bytes) : String :=
  Text.Utf8.decode (unescapeOnto [] piece).reverse

/-- Key and value of one pair; without an equals sign the value is empty. -/
def decodePair (piece : Bytes) : String × String :=
  match Text.cutAt 61 piece with
  | some (key, value) => (decodePiece key, decodePiece value)
  | none => (decodePiece piece, "")

/-- The pairs of an encoded form, in order. -/
def parsePairs (input : Bytes) : List (String × String) :=
  ((input.splitOn 38).filter (!·.isEmpty)).map decodePair

end RequestBinding.UrlEncoded

namespace RequestBinding.FormValues

/-- The form that url-encoded octets write. -/
def parseBytes (input : Text.Bytes) : FormValues :=
  ofPairs (UrlEncoded.parsePairs input)

/-- The form that a url-encoded text writes. -/
def parse (input : String) : FormValues :=
  parseBytes (Text.utf8Bytes input)

end RequestBinding.FormValues
