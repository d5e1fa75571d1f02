import RequestBinding.Text.Split

/-!
# Keys

A key addresses a value. A part of that value has a longer key: `key.part` or `key[part]`. Both
forms begin with the key itself, so everything below a key can be found by comparing beginnings.
-/

namespace RequestBinding

/-- A key as the list of its characters. -/
abbrev Key := List Char

namespace Key

/-- The dotted key of a part. -/
def dotted (key part : Key) : Key :=
  key ++ '.' :: part

/-- The bracketed key of a part. -/
def bracketed (key part : Key) : Key :=
  key ++ '[' :: part ++ [']']

/-- What follows the key of a whole begins like the name of a part. -/
def opensPart (rest : Key) : Bool :=
  match rest with
  | '.' :: _ => true
  | '[' :: _ => true
  | _ => false

/-- The candidate addresses a part of what `parent` addresses, at any depth. -/
def isPartOf (candidate parent : Key) : Bool :=
  (Text.dropLead? parent candidate).any opensPart

end Key

end RequestBinding
