/-!
# JSON values

Structured data as bodies carry it and as documentation examples show it. An object keeps its
members sorted by key; a later member with the same key replaces the earlier one.
-/

namespace RequestBinding

/-- A JSON value. Numbers written as integers that fit 64 bits stay integers. -/
inductive Json where
  | null
  | bool (b : Bool)
  | int (n : Int)
  | float (x : Float)
  | text (s : String)
  | array (items : List Json)
  | object (members : List (String × Json))

namespace Json

/-- Puts a member into members sorted by key, in place of one with the same key. -/
def insertMember (key : String) (value : Json) :
    List (String × Json) → List (String × Json)
  | [] => [(key, value)]
  | (k, v) :: rest =>
    if key < k then (key, value) :: (k, v) :: rest
    else if key == k then (key, value) :: rest
    else (k, v) :: insertMember key value rest

/-- The object of members that come one after the other. -/
def ofMembers (members : List (String × Json)) : Json :=
  .object (members.foldl (fun sorted (key, value) => insertMember key value sorted) [])

/-- The value is `null`. -/
def isNull : Json → Bool
  | null => true
  | _ => false

/-- A text, or `null` when there is none. -/
def ofText? : Option String → Json
  | some s => .text s
  | none => .null

end Json

end RequestBinding
