import RequestBinding.Record.Example
import RequestBinding.Proofs.Number.Numeral
import RequestBinding.Proofs.Source.Siblings
import RequestBinding.Proofs.Value.Entries

/-!
# Values written as pairs

A value is written under a key as pairs of keys and texts: a scalar as one pair, an item of a list
under `key[n]`, an entry of a map under `key[name]`, and a field of a record under `key.name` or
`key[name]`, where every field of every record may choose its own spelling. `Value.written` writes
a value, and `Value.Addressable` says for which values nothing gets lost: lists and maps have
something in them, optional values are there, the names of fields tell them apart, and fields that
take no part hold what they hold by default.

* `Value.written_seq`, `Value.written_dict`, `Value.written_record`: a composite value is written
  part by part.
* `Value.apart_items`, `Value.apart_entries`, `FieldTable.apart_boundFields`: the parts have no key
  in common.
* `Value.Addressable.pairsUnder`: an addressable value is written in at least one pair, within its
  key, and never uses a key twice.
-/

namespace RequestBinding

/-! ## Writing -/

/-- The name of a map entry with this key. -/
def Value.entryName : Value → Key
  | .int n => (toString n).toList
  | .text s => s.toList
  | _ => []

mutual

/-- The pairs that write a value of some type under a key. -/
def Value.written (recs : Records) (spell : Key → String → Key.Spelling) (key : Key)
    (type : WireType) : Value → List (Key × String)
  | .bool b => [(key, toString b)]
  | .int n => [(key, toString n)]
  | .text s => [(key, s)]
  | .seq items =>
    match type.unboxed with
    | .seq item => Value.writtenItems recs spell key item 0 items
    | _ => []
  | .dict entries =>
    match type.unboxed with
    | .map _ _ value => Value.writtenEntries recs spell key value entries
    | _ => []
  | .present v =>
    match type.unboxed with
    | .option inner => v.written recs spell key inner
    | _ => []
  | .record fields => Value.writtenFields recs spell key (type.table recs) fields
  | _ => []

/-- The pairs that write the items of a list from an index on. -/
def Value.writtenItems (recs : Records) (spell : Key → String → Key.Spelling) (key : Key)
    (item : WireType) (index : Nat) : List Value → List (Key × String)
  | [] => []
  | v :: rest =>
    v.written recs spell (key.bracketed (Nat.toDigits 10 index)) item ++
      Value.writtenItems recs spell key item (index + 1) rest

/-- The pairs that write the entries of a map. -/
def Value.writtenEntries (recs : Records) (spell : Key → String → Key.Spelling) (key : Key)
    (value : WireType) : List (Value × Value) → List (Key × String)
  | [] => []
  | (k, v) :: rest =>
    v.written recs spell (key.bracketed k.entryName) value ++
      Value.writtenEntries recs spell key value rest

/-- The pairs that write the bound fields of a record. -/
def Value.writtenFields (recs : Records) (spell : Key → String → Key.Spelling) (key : Key)
    (table : FieldTable) : List Value → List (Key × String)
  | [] => []
  | v :: values =>
    match table with
    | .nil => []
    | .field f rest =>
      match f.role with
      | .bound type =>
        v.written recs spell (key.spelled (spell key f.partName) f.partName.toList) type ++
          Value.writtenFields recs spell key rest values
      | .unbound _ => Value.writtenFields recs spell key rest values
    | .flattened _ _ inner rest =>
      v.writtenFlattened recs spell key inner ++ Value.writtenFields recs spell key rest values

/-- The pairs that write a flattened record, under the key of the record around it. -/
def Value.writtenFlattened (recs : Records) (spell : Key → String → Key.Spelling) (key : Key)
    (table : FieldTable) : Value → List (Key × String)
  | .record fields => Value.writtenFields recs spell key table fields
  | _ => []

end

/-! ## What can be written -/

/-- A bound field of a record with its value. -/
structure BoundField where
  name : String
  type : WireType
  value : Value

namespace FieldTable

/-- The names of the bound fields, with those of flattened records. -/
def partNames : FieldTable → List String
  | .nil => []
  | .field f rest =>
    match f.role with
    | .bound _ => f.partName :: rest.partNames
    | .unbound _ => rest.partNames
  | .flattened _ _ inner rest => inner.partNames ++ rest.partNames

/-- The bound fields of a record with these values, with those of flattened records. -/
def boundFields : FieldTable → List Value → List BoundField
  | .field f rest, v :: values =>
    match f.role with
    | .bound type => ⟨f.partName, type, v⟩ :: rest.boundFields values
    | .unbound _ => rest.boundFields values
  | .flattened _ _ inner rest, .record fields :: values =>
    inner.boundFields fields ++ rest.boundFields values
  | .flattened _ _ _ rest, _ :: values => rest.boundFields values
  | _, _ => []

/-- The values are those of a record whose unbound fields hold their defaults; `zero` has the
defaults of the table, and the fields of a flattened record those of its own declaration. -/
def Keeps (recs : Records) : FieldTable → (zero fields : List Value) → Prop
  | .nil, [], [] => True
  | .field f rest, z :: zero, v :: values =>
    (f.boundType? = none → v = z) ∧ rest.Keeps recs zero values
  | .flattened _ ident inner rest, _ :: zero, .record fields :: values =>
    inner.Keeps recs (recs.zeroOf ident) fields ∧ rest.Keeps recs zero values
  | _, _, _ => False

/-- The bound fields have names that tell them apart, and there is one. -/
structure Distinguished (table : FieldTable) : Prop where
  inhabited : table.partNames ≠ []
  distinct : table.partNames.Nodup
  plain : ∀ name ∈ table.partNames, Key.Plain name.toList

end FieldTable

/-- Keys of map entries: integers of their type, and texts that fit between brackets. -/
inductive Value.NamesEntry : WireType → Value → Prop
  | int {k : IntKind} {n : Int} (fits : k.holds n) : NamesEntry (.scalar (.int k)) (.int n)
  | text {s : String} (inhabited : s ≠ "") (unclosed : ']' ∉ s.toList) :
    NamesEntry (.scalar .text) (.text s)

/-- The values that survive being written: nothing in them is empty or absent, and no list is
longer than the limit on indices allows. -/
inductive Value.Addressable (recs : Records) (limit : Nat) : WireType → Value → Prop
  | bool (b : Bool) : Addressable recs limit (.scalar .bool) (.bool b)
  | int {k : IntKind} {n : Int} (fits : k.holds n) :
    Addressable recs limit (.scalar (.int k)) (.int n)
  | text (s : String) : Addressable recs limit (.scalar .text) (.text s)
  | present {inner : WireType} {v : Value} (held : Addressable recs limit inner v) :
    Addressable recs limit (.option inner) (.present v)
  | box {inner : WireType} {v : Value} (held : Addressable recs limit inner v) :
    Addressable recs limit (.box inner) v
  | seq {item : WireType} {items : List Value} (inhabited : items ≠ [])
    (short : items.length ≤ limit + 1) (held : ∀ v ∈ items, Addressable recs limit item v) :
    Addressable recs limit (.seq item) (.seq items)
  | dict {sorted : Bool} {keyType value : WireType} {entries : List (Value × Value)}
    (inhabited : entries ≠ []) (ascending : Ascending entries)
    (named : ∀ p ∈ entries, NamesEntry keyType p.1)
    (held : ∀ p ∈ entries, Addressable recs limit value p.2) :
    Addressable recs limit (.map sorted keyType value) (.dict entries)
  | record {ident : String} {r : Record} {fields : List Value}
    (declared : recs.find? ident = some r) (distinguished : r.fields.Distinguished)
    (keeps : r.fields.Keeps recs r.zero fields)
    (held : ∀ b ∈ r.fields.boundFields fields, Addressable recs limit b.type b.value) :
    Addressable recs limit (.record ident) (.record fields)

/-! ## Part by part -/

section

variable (recs : Records) (spell : Key → String → Key.Spelling) (key : Key)

theorem Value.written_box (inner : WireType) (v : Value) :
    v.written recs spell key (.box inner) = v.written recs spell key inner := by
  cases v <;> simp only [Value.written, WireType.table, WireType.unboxed]

theorem Value.writtenItems_eq (item : WireType) (index : Nat) (items : List Value) :
    Value.writtenItems recs spell key item index items = (items.zipIdx index).flatMap fun p =>
      p.1.written recs spell (key.bracketed (Nat.toDigits 10 p.2)) item := by
  induction items generalizing index with
  | nil => rfl
  | cons v rest ih => rw [Value.writtenItems, ih, List.zipIdx_cons, List.flatMap_cons]

theorem Value.writtenEntries_eq (value : WireType) (entries : List (Value × Value)) :
    Value.writtenEntries recs spell key value entries = entries.flatMap fun p =>
      p.2.written recs spell (key.bracketed p.1.entryName) value := by
  induction entries with
  | nil => rfl
  | cons p rest ih => rw [Value.writtenEntries, ih, List.flatMap_cons]

theorem Value.written_seq (item : WireType) (items : List Value) :
    (Value.seq items).written recs spell key (.seq item) = items.zipIdx.flatMap fun p =>
      p.1.written recs spell (key.bracketed (Nat.toDigits 10 p.2)) item :=
  Value.writtenItems_eq recs spell key item 0 items

theorem Value.written_dict (sorted : Bool) (keyType value : WireType)
    (entries : List (Value × Value)) :
    (Value.dict entries).written recs spell key (.map sorted keyType value) =
      entries.flatMap fun p =>
        p.2.written recs spell (key.bracketed p.1.entryName) value :=
  Value.writtenEntries_eq recs spell key value entries

/-- The key under which a bound field is written. -/
def BoundField.keyIn (b : BoundField) : Key :=
  key.spelled (spell key b.name) b.name.toList

theorem Value.writtenFields_eq (table : FieldTable) (fields : List Value) :
    Value.writtenFields recs spell key table fields = (table.boundFields fields).flatMap fun b =>
      b.value.written recs spell (b.keyIn spell key) b.type := by
  induction table generalizing fields with
  | nil => cases fields <;> rfl
  | field f rest ih =>
    cases fields with
    | nil => rfl
    | cons v values =>
      simp only [Value.writtenFields, FieldTable.boundFields, ih]
      cases f.role with
      | bound type => rfl
      | unbound type? => rfl
  | flattened name ident inner rest ihInner ihRest =>
    cases fields with
    | nil => rfl
    | cons v values =>
      cases v with
      | record fields =>
        simp only [Value.writtenFields, Value.writtenFlattened, FieldTable.boundFields, ihInner,
          ihRest, List.flatMap_append]
      | _ => exact ihRest values

end

/-! ## Parts have no key in common -/

theorem Scalar.ofRaw_int {k : IntKind} {n : Int} (fits : k.holds n) (mode : Mode) :
    (int k).ofRaw mode (toString n) = .ok (.int n) := by
  have read := Numeral.readInt_toString fits
  simp only [ofRaw, Scalar.read, read, orZero]

namespace Value

/-- The key of a map entry is read back from the name of the entry. -/
theorem NamesEntry.ofRaw_entryName {type : WireType} {k : Value} (named : NamesEntry type k)
    (mode : Mode) : type.ofRaw mode (String.ofList k.entryName) = .ok k := by
  cases named with
  | int fits =>
    rw [entryName, String.ofList_toList]
    exact Scalar.ofRaw_int fits mode
  | text inhabited unclosed =>
    rw [entryName, String.ofList_toList]
    rfl

theorem NamesEntry.entryName_injective {type : WireType} {k l : Value} (namedK : NamesEntry type k)
    (namedL : NamesEntry type l) (same : k.entryName = l.entryName) : k = l := by
  have read := namedK.ofRaw_entryName .strict
  rw [same, namedL.ofRaw_entryName .strict] at read
  exact (Except.ok.inj read).symm

theorem NamesEntry.unclosed {type : WireType} {k : Value} (named : NamesEntry type k) :
    ']' ∉ k.entryName := by
  cases named with
  | int fits =>
    intro member
    rcases Numeral.isDigit_or_minus_of_mem_toString member with digit | minus
    · exact absurd digit (by decide)
    · exact absurd minus (by decide)
  | text inhabited unclosed => exact unclosed

theorem NamesEntry.inhabited {type : WireType} {k : Value} (named : NamesEntry type k) :
    k.entryName ≠ [] := by
  cases named with
  | int fits => exact Numeral.toString_ne_nil _
  | text inhabited unclosed =>
    intro none
    exact inhabited (String.toList_eq_nil_iff.mp none)

theorem unclosed_toDigits (n : Nat) : ']' ∉ Nat.toDigits 10 n := by
  intro member
  exact absurd (Numeral.isDigit_of_mem_toDigits member) (by decide)

theorem toDigits_injective {m n : Nat} (same : Nat.toDigits 10 m = Nat.toDigits 10 n) : m = n := by
  have read : Nat.ofDigitChars 10 (Nat.toDigits 10 m) 0 = m := Nat.ofDigitChars_ten_toDigits
  rw [same, Nat.ofDigitChars_ten_toDigits] at read
  exact read.symm

/-- Items of a list have no key in common. -/
theorem apart_items (key : Key) (index : Nat) (items : List Value) :
    (items.zipIdx index).Pairwise fun p q =>
      Key.Apart (key.bracketed (Nat.toDigits 10 p.2)) (key.bracketed (Nat.toDigits 10 q.2)) := by
  rw [List.pairwise_iff_getElem]
  intro i j boundI boundJ before
  apply Key.apart_bracketed key (unclosed_toDigits _) (unclosed_toDigits _)
  intro same
  have indices := toDigits_injective same
  rw [List.getElem_zipIdx, List.getElem_zipIdx] at indices
  simp only at indices
  omega

/-- Entries of a map have no key in common. -/
theorem apart_entries {type : WireType} {entries : List (Value × Value)}
    (ascending : Ascending entries) (named : ∀ p ∈ entries, NamesEntry type p.1) (key : Key) :
    entries.Pairwise fun p q =>
      Key.Apart (key.bracketed p.1.entryName) (key.bracketed q.1.entryName) := by
  apply ascending.imp_of_mem
  intro p q memberP memberQ below
  apply Key.apart_bracketed key (named p memberP).unclosed (named q memberQ).unclosed
  intro same
  rw [(named p memberP).entryName_injective (named q memberQ) same, keyLt_irrefl] at below
  cases below

end Value

namespace FieldTable

section

variable {recs : Records} {f : Field} {name ident : String} {inner rest : FieldTable}
  {zero fields : List Value}

theorem Keeps.of_nil (keeps : nil.Keeps recs zero fields) : zero = [] ∧ fields = [] := by
  cases zero with
  | nil =>
    cases fields with
    | nil => exact ⟨rfl, rfl⟩
    | cons v values => exact keeps.elim
  | cons z zero => exact keeps.elim

theorem Keeps.of_field (keeps : (field f rest).Keeps recs zero fields) :
    ∃ z zeros v values, zero = z :: zeros ∧ fields = v :: values ∧
      (f.boundType? = none → v = z) ∧ rest.Keeps recs zeros values := by
  cases zero with
  | nil => exact keeps.elim
  | cons z zeros =>
    cases fields with
    | nil => exact keeps.elim
    | cons v values => exact ⟨z, zeros, v, values, rfl, rfl, keeps⟩

theorem Keeps.of_flattened (keeps : (flattened name ident inner rest).Keeps recs zero fields) :
    ∃ z zeros inside values, zero = z :: zeros ∧ fields = .record inside :: values ∧
      inner.Keeps recs (recs.zeroOf ident) inside ∧ rest.Keeps recs zeros values := by
  cases zero with
  | nil => exact keeps.elim
  | cons z zeros =>
    cases fields with
    | nil => exact keeps.elim
    | cons v values =>
      cases v with
      | record inside => exact ⟨z, zeros, inside, values, rfl, rfl, keeps⟩
      | _ => exact keeps.elim

end

theorem names_boundFields {recs : Records} {table : FieldTable} {zero fields : List Value}
    (keeps : table.Keeps recs zero fields) :
    (table.boundFields fields).map (·.name) = table.partNames := by
  induction table generalizing zero fields with
  | nil => rfl
  | field f rest ih =>
    obtain ⟨z, zeros, v, values, rfl, rfl, _, keepsRest⟩ := keeps.of_field
    have others := ih keepsRest
    unfold boundFields partNames
    cases f.role with
    | bound type => rw [List.map_cons, others]
    | unbound type? => exact others
  | flattened name ident inner rest ihInner ihRest =>
    obtain ⟨z, zeros, inside, values, rfl, rfl, keepsInner, keepsRest⟩ := keeps.of_flattened
    unfold boundFields partNames
    rw [List.map_append, ihInner keepsInner, ihRest keepsRest]

theorem Distinguished.plain_of_mem {recs : Records} {table : FieldTable}
    {zero fields : List Value} (distinguished : table.Distinguished)
    (keeps : table.Keeps recs zero fields) {b : BoundField}
    (member : b ∈ table.boundFields fields) : Key.Plain b.name.toList := by
  apply distinguished.plain
  rw [← names_boundFields keeps]
  exact List.mem_map_of_mem member

/-- Bound fields have no key in common, however they are spelled. -/
theorem apart_boundFields {recs : Records} {table : FieldTable} {zero fields : List Value}
    (distinguished : table.Distinguished) (keeps : table.Keeps recs zero fields)
    (spell : Key → String → Key.Spelling) (key : Key) :
    (table.boundFields fields).Pairwise fun b c =>
      Key.Apart (b.keyIn spell key) (c.keyIn spell key) := by
  have names := names_boundFields keeps
  have distinct := distinguished.distinct
  rw [← names, List.Nodup, List.pairwise_map] at distinct
  apply distinct.imp_of_mem
  intro b c memberB memberC different
  apply Key.apart_spelled key _ _ (distinguished.plain_of_mem keeps memberB)
    (distinguished.plain_of_mem keeps memberC)
  intro same
  exact different (String.toList_injective same)

end FieldTable

/-! ## Addressable values -/

namespace Value

variable {recs : Records} {limit : Nat}

/-- The items of a list that has some are its parts. -/
theorem partsUnder_items {item : WireType} {items : List Value}
    {spell : Key → String → Key.Spelling} (inhabited : items ≠ [])
    (each : ∀ v ∈ items, ∀ key, PairsUnder key (v.written recs spell key item)) (key : Key) :
    PartsUnder key items.zipIdx (fun p => key.bracketed (Nat.toDigits 10 p.2)) fun p =>
      p.1.written recs spell (key.bracketed (Nat.toDigits 10 p.2)) item where
  inhabited := by rwa [ne_eq, List.zipIdx_eq_nil_iff]
  below := fun _ _ => Key.isPartOf_bracketed key _
  apart := apart_items key 0 items
  each := fun p member => each p.1 (List.fst_mem_of_mem_zipIdx member) _

/-- The entries of a map that has some are its parts. -/
theorem partsUnder_entries {keyType value : WireType} {entries : List (Value × Value)}
    {spell : Key → String → Key.Spelling} (inhabited : entries ≠ [])
    (ascending : Ascending entries) (named : ∀ p ∈ entries, NamesEntry keyType p.1)
    (each : ∀ p ∈ entries, ∀ key, PairsUnder key (p.2.written recs spell key value)) (key : Key) :
    PartsUnder key entries (fun p => key.bracketed p.1.entryName) fun p =>
      p.2.written recs spell (key.bracketed p.1.entryName) value where
  inhabited := inhabited
  below := fun _ _ => Key.isPartOf_bracketed key _
  apart := apart_entries ascending named key
  each := fun p member => each p member _

/-- The bound fields of a record with names that tell them apart are its parts. -/
theorem partsUnder_boundFields {table : FieldTable} {zero fields : List Value}
    {spell : Key → String → Key.Spelling} (distinguished : table.Distinguished)
    (keeps : table.Keeps recs zero fields)
    (each : ∀ b ∈ table.boundFields fields, ∀ key,
      PairsUnder key (b.value.written recs spell key b.type)) (key : Key) :
    PartsUnder key (table.boundFields fields) (fun b => b.keyIn spell key) fun b =>
      b.value.written recs spell (b.keyIn spell key) b.type where
  inhabited := by
    intro none
    have names := FieldTable.names_boundFields keeps
    rw [none] at names
    exact distinguished.inhabited names.symm
  below := fun _ _ => Key.isPartOf_spelled key _ _
  apart := FieldTable.apart_boundFields distinguished keeps spell key
  each := fun b member => each b member _

theorem written_record {ident : String} {r : Record} (declared : recs.find? ident = some r)
    (spell : Key → String → Key.Spelling) (key : Key) (fields : List Value) :
    (record fields).written recs spell key (.record ident) =
      (r.fields.boundFields fields).flatMap fun b =>
        b.value.written recs spell (b.keyIn spell key) b.type := by
  rw [← writtenFields_eq, written, WireType.table, WireType.unboxed]
  · simp only [declared, Option.elim_some]
  · exact fun inner boxed => nomatch boxed

/-- An addressable value is written under its key, in at least one pair and with no key twice. -/
theorem Addressable.pairsUnder {type : WireType} {v : Value}
    (addressable : v.Addressable recs limit type) (spell : Key → String → Key.Spelling)
    (key : Key) : PairsUnder key (v.written recs spell key type) := by
  induction addressable generalizing key with
  | bool b => exact .single key _
  | int fits => exact .single key _
  | text s => exact .single key _
  | present held ih => exact ih key
  | box held ih =>
    rw [written_box]
    exact ih key
  | seq inhabited short held ih =>
    rw [written_seq]
    exact (partsUnder_items inhabited ih key).pairsUnder
  | dict inhabited ascending named held ih =>
    rw [written_dict]
    exact (partsUnder_entries inhabited ascending named ih key).pairsUnder
  | record declared distinguished keeps held ih =>
    rw [written_record declared]
    exact (partsUnder_boundFields distinguished keeps ih key).pairsUnder

end Value

end RequestBinding
