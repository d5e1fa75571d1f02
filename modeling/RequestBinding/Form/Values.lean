import Std.Data.TreeMap

/-!
# Form values

An ordered mapping from keys to lists of values. Keys keep the order in which they first came, and
each key keeps its values in order of arrival. An index finds the place of a key.
-/

namespace RequestBinding

/-- One key of a form and its values. -/
structure FormEntry where
  key : String
  values : Array String
  deriving DecidableEq, Repr

/-- The entry with one more value at the end. -/
def FormEntry.push (e : FormEntry) (value : String) : FormEntry :=
  { e with values := e.values.push value }

/-- Keys with their values, in the order in which the keys first came; `index` tells the place of
each key. -/
structure FormValues where
  entries : Array FormEntry := #[]
  index : Std.TreeMap String Nat := {}

namespace FormValues

/-- No keys. -/
def empty : FormValues := {}

/-- Adds one value under `key`, behind the values that are already there. -/
def append (form : FormValues) (key value : String) : FormValues :=
  match form.index[key]? with
  | some place => { form with entries := form.entries.modify place (·.push value) }
  | none =>
    { entries := form.entries.push ⟨key, #[value]⟩
      index := form.index.insert key form.entries.size }

/-- Adds pairs one after the other. -/
def appendAll (form : FormValues) (pairs : List (String × String)) : FormValues :=
  pairs.foldl (fun form pair => form.append pair.1 pair.2) form

/-- The form of a list of pairs. -/
def ofPairs (pairs : List (String × String)) : FormValues :=
  empty.appendAll pairs

/-- Keys and values as lists, in order. -/
def toList (form : FormValues) : List (String × List String) :=
  form.entries.toList.map fun e => (e.key, e.values.toList)

/-- Every value with its key, key by key. -/
def pairs (form : FormValues) : List (String × String) :=
  form.toList.flatMap fun (key, values) => values.map fun value => (key, value)

/-- Adds the pairs of another form. -/
def extend (form other : FormValues) : FormValues :=
  form.appendAll other.pairs

/-- All values of a key. -/
def get? (form : FormValues) (key : String) : Option (List String) :=
  (form.index[key]?.bind (form.entries[·]?)).map (·.values.toList)

/-- The first value of a key. -/
def first? (form : FormValues) (key : String) : Option String :=
  (form.get? key).bind (·.head?)

/-- The key occurs. -/
def contains (form : FormValues) (key : String) : Bool :=
  form.index.contains key

/-- The keys in order. -/
def keys (form : FormValues) : List String :=
  form.entries.toList.map (·.key)

/-- The number of different keys. -/
def size (form : FormValues) : Nat :=
  form.entries.size

/-- There are no keys. -/
def isEmpty (form : FormValues) : Bool :=
  form.entries.isEmpty

/-- The octets of all keys, each counted once, and of all values. -/
def byteSize (form : FormValues) : Nat :=
  form.entries.foldl (fun n e =>
    n + e.key.utf8ByteSize + e.values.foldl (fun m v => m + v.utf8ByteSize) 0) 0

/-- Two forms with the same keys and values in the same order. -/
instance : BEq FormValues where
  beq a b := a.toList == b.toList

end FormValues

end RequestBinding
