import RequestBinding.Proofs.Convert.FinderLocality

/-!
# The calls of the search

Looking for a value under a key calls for other values under other keys. `Search.step` is the body
of the search with every such call left to `answer`, also that for a flattened record, so it has no
bound on the depth of the calls and nothing in it decreases. `Search.Calls` says which searches it
may call.

* `Search.step_congr`: only the answers to these calls matter.
* `Search.find_eq_step`: the values that are found are those that the body gives when it calls
  itself.
-/

namespace RequestBinding

/-- What is looked for under a key. -/
inductive Quest where
  /-- A value of a type. -/
  | value (type : WireType)
  /-- A flattened record: its identity and its fields. -/
  | flattened (ident : String) (table : FieldTable)

/-- Something that is looked for and the key under which it is. -/
structure Search where
  quest : Quest
  key : Key

/-! ## The fields of a record -/

namespace FieldTable

/-- The table has the field itself, not within a flattened record. -/
inductive Owns : FieldTable → Field → Prop
  | here (f : Field) (rest : FieldTable) : Owns (.field f rest) f
  | later {f : Field} {rest : FieldTable} (own : Field) (owns : Owns rest f) :
    Owns (.field own rest) f
  | past {f : Field} {rest : FieldTable} (name ident : String) (inner : FieldTable)
    (owns : Owns rest f) : Owns (.flattened name ident inner rest) f

/-- The table flattens the record itself, not within another flattened record. -/
inductive Flattens : FieldTable → String → FieldTable → Prop
  | here (name ident : String) (inner rest : FieldTable) :
    Flattens (.flattened name ident inner rest) ident inner
  | later {ident : String} {inner rest : FieldTable} (own : Field)
    (flattens : Flattens rest ident inner) : Flattens (.field own rest) ident inner
  | past {ident : String} {inner rest : FieldTable} (name other : String) (before : FieldTable)
    (flattens : Flattens rest ident inner) :
    Flattens (.flattened name other before rest) ident inner

/-- Binds the fields of a record that holds `current`, where `answer` makes all searches. A
flattened record that is not found stays what it is. -/
def bindThrough (src : KeySource) (answer : Search → Found) (key : Key) :
    FieldTable → (current : List Value) → Except ConvertError (List Value)
  | .field f rest, v :: values => do
    let v ← f.bindWithin src (fun type sub => answer ⟨.value type, sub⟩) key v
    let values ← rest.bindThrough src answer key values
    return v :: values
  | .flattened _ ident inner rest, v :: values => do
    let found ← answer ⟨.flattened ident inner, key⟩
    let values ← rest.bindThrough src answer key values
    return found.getD v :: values
  | _, values => .ok values

/-- The fields of a record ask about the fields and the flattened records of the table. -/
theorem bindThrough_congr {src : KeySource} {key : Key} {f g : Search → Found} {table : FieldTable}
    (fields : ∀ own type sub, table.Owns own → own.role = .bound type →
      src.partKey? key own.partName = some sub → f ⟨.value type, sub⟩ = g ⟨.value type, sub⟩)
    (flat : ∀ ident inner, table.Flattens ident inner →
      f ⟨.flattened ident inner, key⟩ = g ⟨.flattened ident inner, key⟩)
    (current : List Value) :
    table.bindThrough src f key current = table.bindThrough src g key current := by
  induction table generalizing current with
  | nil => cases current <;> rfl
  | field own rest ih =>
    cases current with
    | nil => rfl
    | cons v values =>
      have bound : own.bindWithin src (fun type sub => f ⟨.value type, sub⟩) key v =
          own.bindWithin src (fun type sub => g ⟨.value type, sub⟩) key v := by
        unfold Field.bindWithin
        cases role : own.role with
        | unbound type? => rfl
        | bound type =>
          unfold bindPart
          cases chosen : src.partKey? key own.partName with
          | none => rfl
          | some sub => simp only [fields own type sub (.here own rest) role chosen]
      have later := ih (fun other type sub owns => fields other type sub (.later own owns))
        (fun ident inner flattens => flat ident inner (.later own flattens)) values
      simp only [bindThrough, bound, later]
  | flattened name ident inner rest _ ih =>
    cases current with
    | nil => rfl
    | cons v values =>
      have found := flat ident inner (.here name ident inner rest)
      have later := ih (fun other type sub owns =>
        fields other type sub (.past name ident inner owns))
        (fun other table flattens => flat other table (.past name ident inner flattens)) values
      simp only [bindThrough, found, later]

end FieldTable

/-! ## The body of the search -/

namespace Quest

/-- The fields that are bound when this is looked for. -/
def table? (recs : Records) : Quest → Option FieldTable
  | .value (.record ident) => (recs.find? ident).map (·.fields)
  | .value _ => none
  | .flattened _ table => some table

/-- The second is looked for under the key of the first: what an optional or boxed type holds, or a
record that is flattened into the first. -/
inductive Inside (recs : Records) : Quest → Quest → Prop
  | option (inner : WireType) : Inside recs (.value (.option inner)) (.value inner)
  | box (inner : WireType) : Inside recs (.value (.box inner)) (.value inner)
  | flattened {quest : Quest} {table inner : FieldTable} {ident : String}
    (fields : quest.table? recs = some table) (flattens : table.Flattens ident inner) :
    Inside recs quest (.flattened ident inner)

end Quest

namespace Search

/-- One level of the search, where `answer` makes all searches that it calls. -/
def step (recs : Records) (src : KeySource) (mode : Mode) (answer : Search → Found) :
    Search → Found
  | ⟨.value .file, key⟩ => .ok ((src.filesAt key).head?.map .file)
  | ⟨.value .cookie, key⟩ => .ok ((src.cookie? key).map .cookie)
  | ⟨.value (.seq item), key⟩ =>
    if item.isFile then
      .ok (if (src.filesAt key).isEmpty then none else some (.seq ((src.filesAt key).map .file)))
    else if item.isFlat && !(src.values key).isEmpty then
      (Sequence.ofTexts mode item (src.values key)).map (some ∘ .seq)
    else
      Sequence.assemble mode item (item.zero recs) (fun part => answer ⟨.value item, part⟩)
        src.maxIndex (src.brackets key)
  | ⟨.value (.map _ keyType value), key⟩ =>
    Mapping.assemble mode keyType (value.zero recs) (fun part => answer ⟨.value value, part⟩)
      (src.brackets key)
  | ⟨.value (.option inner), key⟩ => (answer ⟨.value inner, key⟩).map (·.map .present)
  | ⟨.value (.box inner), key⟩ => answer ⟨.value inner, key⟩
  | ⟨.value (.record ident), key⟩ =>
    if src.hasParts key then
      match recs.find? ident with
      | none => .ok none
      | some r => (r.fields.bindThrough src answer key r.zero).map (some ∘ .record)
    else .ok none
  | ⟨.flattened ident table, key⟩ =>
    if src.hasParts key then
      (table.bindThrough src answer key (recs.zeroOf ident)).map (some ∘ .record)
    else .ok none
  | ⟨.value type, key⟩ =>
    match src.firstValue? key with
    | none => .ok none
    | some raw => (type.ofRaw mode raw).map some

/-- A search may call another. -/
inductive Calls (recs : Records) (src : KeySource) : Search → Search → Prop
  /-- The fields of a record are looked at if some key goes on from its own. -/
  | inside {quest inner : Quest} {key : Key} (inside : quest.Inside recs inner)
    (parts : (quest.table? recs).isSome = true → src.hasParts key = true) :
    Calls recs src ⟨quest, key⟩ ⟨inner, key⟩
  | item {item : WireType} {key part : Key} {index : Nat}
    (listed : (index, part) ∈ Sequence.partsWithin src.maxIndex (src.brackets key)) :
    Calls recs src ⟨.value (.seq item), key⟩ ⟨.value item, part⟩
  | entry {sorted : Bool} {keyType value : WireType} {key label part : Key}
    (named : (label, part) ∈ Bracket.firsts [] ((src.brackets key).filterMap Bracket.mapKey?)) :
    Calls recs src ⟨.value (.map sorted keyType value), key⟩ ⟨.value value, part⟩
  | field {quest : Quest} {table : FieldTable} {f : Field} {type : WireType} {key sub : Key}
    (fields : quest.table? recs = some table) (parts : src.hasParts key = true)
    (owns : table.Owns f) (role : f.role = .bound type)
    (chosen : src.partKey? key f.partName = some sub) :
    Calls recs src ⟨quest, key⟩ ⟨.value type, sub⟩

variable {recs : Records} {src : KeySource} {mode : Mode}

/-- The fields of a record ask about nothing but searches that its own may call. -/
theorem bindThrough_eq_of_calls {quest : Quest} {table : FieldTable} {key : Key}
    {f g : Search → Found} (fields : quest.table? recs = some table)
    (parts : src.hasParts key = true)
    (same : ∀ other, Calls recs src ⟨quest, key⟩ other → f other = g other)
    (current : List Value) :
    table.bindThrough src f key current = table.bindThrough src g key current := by
  apply FieldTable.bindThrough_congr
  · intro own type sub owns role chosen
    exact same _ (.field fields parts owns role chosen)
  · intro ident inner flattens
    exact same _ (.inside (.flattened fields flattens) fun _ => parts)

/-- The body of the search depends on the answers to the searches that it may call, and on no
others. -/
theorem step_congr {search : Search} {f g : Search → Found}
    (same : ∀ other, Calls recs src search other → f other = g other) :
    search.step recs src mode f = search.step recs src mode g := by
  obtain ⟨quest, key⟩ := search
  cases quest with
  | flattened ident table =>
    simp only [step]
    split
    · rename_i parts
      rw [bindThrough_eq_of_calls rfl parts same]
    · rfl
  | value type =>
    cases type with
    | scalar s => rfl
    | bytes => rfl
    | file => rfl
    | cookie => rfl
    | body target => rfl
    | option inner =>
      have found := same ⟨.value inner, key⟩ (.inside (.option inner) nofun)
      simp only [step, found]
    | box inner => exact same ⟨.value inner, key⟩ (.inside (.box inner) nofun)
    | seq item =>
      let parts := Sequence.partsWithin src.maxIndex (src.brackets key)
      have collected : Sequence.collect mode (fun part => f ⟨.value item, part⟩) parts =
          Sequence.collect mode (fun part => g ⟨.value item, part⟩) parts :=
        Sequence.collect_congr fun _ listed => same _ (.item listed)
      simp only [step, Sequence.assemble, Sequence.build, parts, collected]
    | map sorted keyType value =>
      let keys := Bracket.firsts [] ((src.brackets key).filterMap Bracket.mapKey?)
      have gathered : Mapping.gather mode keyType (value.zero recs)
            (fun part => f ⟨.value value, part⟩) keys =
          Mapping.gather mode keyType (value.zero recs) (fun part => g ⟨.value value, part⟩) keys :=
        Mapping.gather_congr fun _ named => same _ (.entry named)
      simp only [step, Mapping.assemble, keys, gathered]
    | record ident =>
      simp only [step]
      split
      · rename_i parts
        cases declared : recs.find? ident with
        | none => rfl
        | some r =>
          have fields : (Quest.value (.record ident)).table? recs = some r.fields := by
            simp only [Quest.table?, declared, Option.map_some]
          simp only [bindThrough_eq_of_calls fields parts same]
      · rfl

/-! ## What is found -/

/-- What is found under a key. A flattened record starts from what its declaration says. -/
def find (recs : Records) (src : KeySource) (mode : Mode) : Search → Found
  | ⟨.value type, key⟩ => type.find recs src mode key
  | ⟨.flattened ident table, key⟩ =>
    if src.hasParts key then
      (table.bindParts recs src (WireType.find recs src mode) key (recs.zeroOf ident)).map
        (some ∘ .record)
    else .ok none

/-- Binding the fields looks for flattened records as it looks for all others. -/
theorem bindParts_eq_bindThrough {key : Key} (parts : src.hasParts key = true)
    (table : FieldTable) (current : List Value) :
    table.bindParts recs src (WireType.find recs src mode) key current =
      table.bindThrough src (find recs src mode) key current := by
  induction table generalizing current with
  | nil => cases current <;> rfl
  | field own rest ih =>
    cases current with
    | nil => rfl
    | cons v values => simp only [FieldTable.bindParts, FieldTable.bindThrough, ih, find]
  | flattened name ident inner rest _ ih =>
    cases current with
    | nil => rfl
    | cons v values =>
      simp only [FieldTable.bindParts, FieldTable.bindThrough, ih, find, parts, if_true]
      cases inner.bindParts recs src (WireType.find recs src mode) key (recs.zeroOf ident) <;> rfl

/-- What is found is what the body of the search gives when it calls itself. -/
theorem find_eq_step (search : Search) :
    search.find recs src mode = search.step recs src mode (find recs src mode) := by
  obtain ⟨quest, key⟩ := search
  cases quest with
  | flattened ident table =>
    simp only [find, step]
    split
    · rename_i parts
      rw [bindParts_eq_bindThrough parts]
    · rfl
  | value type =>
    cases type with
    | scalar s => rfl
    | bytes => rfl
    | file => rfl
    | cookie => rfl
    | body target => rfl
    | option inner => rfl
    | box inner => rfl
    | seq item => exact WireType.find_seq item key
    | map sorted keyType value => exact WireType.find_map sorted keyType value key
    | record ident =>
      simp only [find, WireType.find_record, step]
      split
      · rename_i parts
        cases recs.find? ident with
        | none => rfl
        | some r => simp only [bindParts_eq_bindThrough parts]
      · rfl

end Search

end RequestBinding
