import RequestBinding.Convert.Raw
import RequestBinding.Record.WireName
import RequestBinding.Source.Bracket

/-!
# Values under keys

How a value is gathered from a source under a key. A flat value is the first text of the key; a
list is a repeated key, or is put together from `key[n]` and `key[]`; a map takes its entries from
`key[name]`; a record takes each of its fields from `key.name` or `key[name]`, whichever comes
first in the source, and those of a flattened record from the same key.

A record can only be found under a key that some longer key of the source begins with, so below it
keys get longer while the source stays the same. The number of characters by which they can still
grow bounds the depth of nested records.
-/

namespace RequestBinding

/-- Nothing, a value, or an error: the outcome of looking for a value under a key. -/
abbrev Found := Except ConvertError (Option Value)

/-- Values are looked for under keys. -/
abbrev Finder := Key → Found

/-! ## Lists -/

namespace Sequence

/-- The first part whose index exceeds the limit. -/
def tooLarge? (limit : Nat) (brackets : List Bracket) : Option (Nat × Key) :=
  (brackets.filterMap Bracket.index?).find? fun part => limit < part.1

/-- The parts with an index within the limit, each index once. -/
def partsWithin (limit : Nat) (brackets : List Bracket) : List (Nat × Key) :=
  Bracket.firsts [] ((brackets.filterMap Bracket.index?).filter fun part => part.1 ≤ limit)

/-- The texts without an index. -/
def appended (brackets : List Bracket) : List String :=
  brackets.flatMap Bracket.appended

/-- The number of places that the indices of parts need. It can be counted in 64 bits unless an
index is the largest number of 64 bits, which takes a limit as large. -/
def placesFor (parts : List (Nat × Key)) : Nat :=
  parts.foldl (fun n part => max n (part.1 + 1)) 0

/-- The values under the keys of the parts, each with its index. A part whose value is missing, or
in lenient mode malformed, is left out. -/
def collect (mode : Mode) (find : Finder) :
    List (Nat × Key) → Except ConvertError (List (Nat × Value))
  | [] => .ok []
  | (index, part) :: rest =>
    match find part with
    | .ok (some v) => (collect mode find rest).map ((index, v) :: ·)
    | .ok none => collect mode find rest
    | .error e =>
      match mode with
      | .strict => .error e
      | .lenient => collect mode find rest

/-- Places that all hold `zero` for now. They are made at once, or not at all if they are too many
for the memory. -/
def places (n : Nat) (zero : Value) : List Value :=
  (Array.replicate n zero).toList

@[simp]
theorem places_eq (n : Nat) (zero : Value) : places n zero = List.replicate n zero := rfl

/-- Puts values into their places. -/
def place (items : List Value) (found : List (Nat × Value)) : List Value :=
  found.foldl (fun items p => items.set p.1 p.2) items

/-- The values of the texts without an index; in lenient mode a malformed one is `zero`. -/
def append (mode : Mode) (type : WireType) (zero : Value) :
    List String → Except ConvertError (List Value)
  | [] => .ok []
  | raw :: rest =>
    match type.ofRaw mode raw with
    | .ok v => (append mode type zero rest).map (v :: ·)
    | .error e =>
      match mode with
      | .strict => .error e
      | .lenient => (append mode type zero rest).map (zero :: ·)

/-- A list that is put together from parts and texts: the places of the indices, then the rest.
No place is made before all values have been found. -/
def build (mode : Mode) (type : WireType) (zero : Value) (find : Finder)
    (parts : List (Nat × Key)) (texts : List String) : Except ConvertError (List Value) := do
  let found ← collect mode find parts
  let rest ← append mode type zero texts
  return place (places (placesFor parts) zero) found ++ rest

/-- A list that is put together from brackets; without an index or an item it is not there. An
index above the limit is an error or is left out. -/
def assemble (mode : Mode) (type : WireType) (zero : Value) (find : Finder) (limit : Nat)
    (brackets : List Bracket) : Found :=
  match mode, tooLarge? limit brackets with
  | .strict, some (index, part) => .error (.indexTooLarge part index limit)
  | _, _ =>
    let parts := partsWithin limit brackets
    let texts := appended brackets
    if parts.isEmpty && texts.isEmpty then .ok none
    else (build mode type zero find parts texts).map (some ∘ .seq)

/-- The values of the texts of a repeated key. -/
def ofTexts (mode : Mode) (type : WireType) : List String → Except ConvertError (List Value)
  | [] => .ok []
  | raw :: rest => do
    let v ← type.ofRaw mode raw
    let others ← ofTexts mode type rest
    return v :: others

end Sequence

/-! ## Maps -/

namespace Mapping

/-- The entries of a map in order. The key of an entry must be readable in either mode; a value
that is malformed is `zero` in lenient mode, and an entry without value is left out. -/
def gather (mode : Mode) (keyType : WireType) (zero : Value) (find : Finder) :
    List (Key × Key) → Except ConvertError (List (Value × Value))
  | [] => .ok []
  | (text, part) :: rest =>
    match keyType.ofRaw mode (String.ofList text) with
    | .error e => .error e
    | .ok k =>
      match find part with
      | .ok (some v) => (gather mode keyType zero find rest).map ((k, v) :: ·)
      | .ok none => gather mode keyType zero find rest
      | .error e =>
        match mode with
        | .strict => .error e
        | .lenient => (gather mode keyType zero find rest).map ((k, zero) :: ·)

/-- A map that is put together from brackets; one without entries is not there. -/
def assemble (mode : Mode) (keyType : WireType) (zero : Value) (find : Finder)
    (brackets : List Bracket) : Found := do
  let keys := Bracket.firsts [] (brackets.filterMap Bracket.mapKey?)
  let entries ← gather mode keyType zero find keys
  return if entries.isEmpty then none else some (.ofEntries entries)

end Mapping

/-! ## Records -/

/-- The key in the source under which a part of a record stands: dotted or in brackets, whichever
comes first. -/
def KeySource.partKey? (src : KeySource) (key : Key) (part : String) : Option Key :=
  src.firstPresent? [key.dotted part.toList, key.bracketed part.toList]

/-- The value of a part of a record that holds `current`. -/
def bindPart (src : KeySource) (find : Finder) (key : Key) (part : String) (current : Value) :
    Except ConvertError (Bool × Value) :=
  match src.partKey? key part with
  | none => .ok (false, current)
  | some sub => (find sub).map fun found => (found.isSome, found.getD current)

/-- Binds one field of a record that stands under `key`; the field holds `current`. -/
def Field.bindWithin (src : KeySource) (find : WireType → Finder) (key : Key) (f : Field)
    (current : Value) : Except ConvertError Value :=
  match f.role with
  | .bound type => (bindPart src (find type) key f.partName current).map (·.2)
  | .unbound _ => .ok current

/-- Binds the fields of a record that stands under `key` and holds `current`. A flattened record
starts from what its own declaration says, not from what the record around it holds. -/
def FieldTable.bindParts (recs : Records) (src : KeySource) (find : WireType → Finder) (key : Key) :
    FieldTable → (current : List Value) → Except ConvertError (List Value)
  | .field f rest, v :: values => do
    let v ← f.bindWithin src find key v
    let values ← rest.bindParts recs src find key values
    return v :: values
  | .flattened _ ident inner rest, _ :: values => do
    let fields ← inner.bindParts recs src find key (recs.zeroOf ident)
    let values ← rest.bindParts recs src find key values
    return .record fields :: values
  | _, values => .ok values

/-! ## All types -/

namespace WireType

/-- The value of a type under a key, where `record` finds the records. -/
def findWith (recs : Records) (src : KeySource) (mode : Mode) (record : String → Finder) :
    WireType → Finder
  | .file, key => .ok ((src.filesAt key).head?.map .file)
  | .cookie, key => .ok ((src.cookie? key).map .cookie)
  | .seq item, key =>
    if item.isFile then
      let files := src.filesAt key
      .ok (if files.isEmpty then none else some (.seq (files.map .file)))
    else
      let texts := src.values key
      if item.isFlat && !texts.isEmpty then
        (Sequence.ofTexts mode item texts).map (some ∘ .seq)
      else
        Sequence.assemble mode item (item.zero recs) (item.findWith recs src mode record)
          src.maxIndex (src.brackets key)
  | .map _ keyType value, key =>
    Mapping.assemble mode keyType (value.zero recs) (value.findWith recs src mode record)
      (src.brackets key)
  | .option inner, key =>
    (inner.findWith recs src mode record key).map (·.map .present)
  | .box inner, key => inner.findWith recs src mode record key
  | .record ident, key => record ident key
  | type, key =>
    match src.firstValue? key with
    | none => .ok none
    | some raw => (type.ofRaw mode raw).map some

end WireType

namespace Record

/-- The record of an identity under a key. Nested records stand under longer keys, and `room`
bounds the characters by which keys can still grow. -/
def findAt (recs : Records) (src : KeySource) (mode : Mode) :
    (room : Nat) → (ident : String) → Finder
  | 0, _, _ => .ok none
  | room + 1, ident, key =>
    if src.hasParts key then
      match recs.find? ident with
      | none => .ok none
      | some r =>
        (r.fields.bindParts recs src
          (WireType.findWith recs src mode (findAt recs src mode room)) key
          r.zero).map (some ∘ .record)
    else .ok none

end Record

/-- The value of a type under a key of the source. -/
def WireType.find (recs : Records) (src : KeySource) (mode : Mode) (type : WireType) : Finder :=
  fun key =>
    type.findWith recs src mode (Record.findAt recs src mode (src.longest + 1 - key.length)) key

end RequestBinding
