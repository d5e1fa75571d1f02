import RequestBinding.Json.Value
import RequestBinding.Source.Parts

/-!
# Values

What binding produces. A value does not know its type; the type says how a value is read and what
it is when nothing was read.
-/

namespace RequestBinding

/-- A value of any bindable type. -/
inductive Value where
  | bool (b : Bool)
  | int (n : Int)
  | float32 (x : Float32)
  | float64 (x : Float)
  | text (s : String)
  | bytes (octets : Text.Bytes)
  | file (f : UploadedFile)
  | cookie (c : Cookie)
  | seq (items : List Value)
  /-- A map, sorted by key. -/
  | dict (entries : List (Value × Value))
  /-- An optional value that is not there. -/
  | absent
  /-- An optional value that is there. -/
  | present (v : Value)
  /-- A structured body as its target holds it. -/
  | body (content : Json)
  /-- A record: a value for each of its fields; a flattened record is one field. -/
  | record (fields : List Value)

namespace Value

/-- The order of map keys: numbers by size, texts by code point, nothing before something. -/
def keyLt : Value → Value → Bool
  | bool a, bool b => !a && b
  | int a, int b => a < b
  | text a, text b => a < b
  | absent, present _ => true
  | present a, present b => keyLt a b
  | _, _ => false

/-- Puts an entry into entries sorted by key, in place of one with the same key. -/
def insertEntry (key value : Value) : List (Value × Value) → List (Value × Value)
  | [] => [(key, value)]
  | (k, v) :: rest =>
    if key.keyLt k then (key, value) :: (k, v) :: rest
    else if k.keyLt key then (k, v) :: insertEntry key value rest
    else (key, value) :: rest

/-- The map of entries that come one after the other; of several with one key the last stays. -/
def ofEntries (entries : List (Value × Value)) : Value :=
  dict (entries.foldl (fun sorted (key, value) => insertEntry key value sorted) [])

end Value

end RequestBinding
