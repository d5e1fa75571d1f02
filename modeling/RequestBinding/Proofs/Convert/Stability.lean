import RequestBinding.Proofs.Convert.Leniency
import RequestBinding.Proofs.Record.FieldPaths
import RequestBinding.Proofs.Source.Pairs

/-!
# Later input changes no field that is there

A field of a record is looked for under the spelling of its key that comes first in the source, and
of the texts there the first counts. When more pairs follow, they come behind: keys keep their
order, and so do the texts of each key (`KeySource.extends_ofPairs`). So a spelling that has been
chosen stays chosen at every level of nested records, and a field of scalars that has a value keeps
it (`WireType.find_extended`). A field without a value may still get one.

* `WireType.Supplies` says which fields have a value, and which one, level by level.
* `WireType.Supplies.mono`: what a source supplies, every source supplies that goes on after it.
* `WireType.Supplies.find`: what is supplied stands in the record that is found.
-/

namespace RequestBinding

/-! ## Sources that go on -/

namespace KeySource

/-- The second source goes on after the first: new keys come behind the old ones, and new texts of
a key behind its old ones. -/
structure Extends (src src' : KeySource) : Prop where
  keys : src.entries.map (·.1) <+: src'.entries.map (·.1)
  values : ∀ key, src.values key <+: src'.values key

/-- Pairs that follow others come behind them. -/
theorem extends_ofPairs (pairs later : List (String × String)) (limit : Nat) :
    (ofPairs pairs limit).Extends (ofPairs (pairs ++ later) limit) where
  keys := by
    rw [entries_ofPairs, entries_ofPairs, List.map_map, List.map_map, List.map_append,
      List.eraseDups_append, List.map_append]
    exact List.prefix_append _ _
  values := by
    intro key
    rw [← String.toList_ofList (l := key), values_ofPairs, values_ofPairs,
      FormValues.valuesUnder_append]
    exact List.prefix_append _ _

variable {src src' : KeySource} (behind : src.Extends src')

include behind

/-- A text that comes first under a key still does. -/
theorem Extends.firstValue? {key : Key} {raw : String} (first : src.firstValue? key = some raw) :
    src'.firstValue? key = some raw := by
  obtain ⟨more, values⟩ := behind.values key
  rw [KeySource.firstValue?, ← values, List.head?_append,
    show (src.values key).head? = some raw from first]
  rfl

/-- A key that has been chosen for a part of a record stays chosen. -/
theorem Extends.partKey? {key sub : Key} {part : String}
    (chosen : src.partKey? key part = some sub) : src'.partKey? key part = some sub := by
  have byKeys : ∀ (source : KeySource) (candidates : List Key),
      source.firstPresent? candidates =
        (source.entries.map (·.1)).findSome? (addressed? candidates) := by
    intro source candidates
    rw [firstPresent?, List.findSome?_map]
    rfl
  obtain ⟨more, keys⟩ := behind.keys
  rw [KeySource.partKey?, byKeys] at chosen ⊢
  rw [← keys, List.findSome?_append, chosen]
  rfl

end KeySource

/-! ## What a source supplies -/

/-- The values that a table starts from have its shape, and so have those that each flattened record
starts from by its own declaration. -/
inductive FieldTable.Begins (recs : Records) : FieldTable → List Value → Prop
  | nil : Begins recs .nil []
  | field {f : Field} {rest : FieldTable} {v : Value} {values : List Value}
    (begins : Begins recs rest values) : Begins recs (.field f rest) (v :: values)
  | flattened {name ident : String} {inner rest : FieldTable} {v : Value} {values : List Value}
    (beginsInner : Begins recs inner (recs.zeroOf ident)) (begins : Begins recs rest values) :
    Begins recs (.flattened name ident inner rest) (v :: values)

namespace WireType

/-- Values that one text holds, and records of such values and records. -/
inductive Composed (recs : Records) : WireType → Prop
  | flat {type : WireType} (flat : type.isFlat = true) : Composed recs type
  | record {ident : String} {r : Record} (declared : recs.find? ident = some r)
    (begins : r.fields.Begins recs r.zero)
    (composed : ∀ leaf ∈ r.fields.leaves, Composed recs leaf.type) : Composed recs (.record ident)

/-- Under a key the source has a value `v` for the field at a path, where the empty path stands for
the key itself: at each level the field is looked for under the spelling that comes first, and of
the texts in the end the first counts. -/
inductive Supplies (recs : Records) (src : KeySource) : WireType → Key → FieldPath → Value → Prop
  | flat {type : WireType} {key : Key} {raw : String} {v : Value} (flat : type.isFlat = true)
    (first : src.firstValue? key = some raw) (read : type.ofRaw .lenient raw = .ok v) :
    Supplies recs src type key [] v
  | field {ident : String} {r : Record} {f : Field} {type : WireType} {key sub : Key}
    {path below : FieldPath} {v : Value} (declared : recs.find? ident = some r)
    (has : r.fields.HasField path f) (role : f.role = .bound type)
    (chosen : src.partKey? key f.partName = some sub)
    (supplies : Supplies recs src type sub below v) :
    Supplies recs src (.record ident) key (path ++ below) v

variable {recs : Records} {src src' : KeySource} {type : WireType} {key : Key} {path : FieldPath}
  {v : Value}

/-- A value that one text holds is supplied when it is found. -/
theorem supplies_iff_find (flat : type.isFlat = true) :
    type.Supplies recs src key [] v ↔ type.find recs src .lenient key = .ok (some v) := by
  rw [find_flat flat]
  constructor
  · generalize own : ([] : FieldPath) = path
    intro supplies
    cases supplies with
    | flat _ first read => simp only [first, read, Except.map]
    | field => cases flat
  · intro found
    split at found
    · cases found
    · rename_i raw first
      obtain ⟨w, read, same⟩ := Except.map_eq_ok_iff.mp found
      cases same
      exact .flat flat first read

/-- What a source supplies, every source supplies that goes on after it. The induction goes down
the levels of nested records. -/
theorem Supplies.mono (supplies : type.Supplies recs src key path v)
    (behind : src.Extends src') : type.Supplies recs src' key path v := by
  induction supplies with
  | flat flat first read => exact .flat flat (behind.firstValue? first) read
  | field declared has role chosen _ ih =>
    exact .field declared has role (behind.partKey? chosen) ih

/-- Nothing in such a type is refused in lenient mode. -/
theorem Composed.not_refuses {refused : WireType} (composed : type.Composed recs) :
    ¬ type.Refuses recs refused := by
  intro refuses
  induction refuses with
  | body target =>
    cases composed with
    | flat flat => cases flat
  | key unreadable =>
    cases composed with
    | flat flat => cases flat
  | option _ ih =>
    cases composed with
    | flat flat => exact ih (.flat flat)
  | box _ ih =>
    cases composed with
    | flat flat => exact ih (.flat flat)
  | field declared member _ ih =>
    cases composed with
    | flat flat => cases flat
    | record declared' begins composed =>
      cases declared.symm.trans declared'
      exact ih (composed _ member)

theorem Composed.exists_find (composed : type.Composed recs) (src : KeySource) (key : Key) :
    ∃ found, type.find recs src .lenient key = .ok found := by
  cases search : type.find recs src .lenient key with
  | ok found => exact ⟨found, rfl⟩
  | error e =>
    obtain ⟨refused, refuses, _⟩ := complains_of_find search
    exact absurd refuses composed.not_refuses

end WireType

/-! ## What is supplied is found -/

theorem KeySource.hasParts_of_partKey? {src : KeySource} {key sub : Key} {part : String}
    (chosen : src.partKey? key part = some sub) : src.hasParts key = true := by
  obtain ⟨entry, member, addressed⟩ := List.exists_of_findSome?_eq_some chosen
  rw [hasParts, List.any_eq_true]
  exact ⟨entry, member,
    Key.isPartOf_of_isWithin (addressed?_eq_some addressed).2 (isPartOf_of_partKey? chosen)⟩

/-- The value that is found for a field stands in its place. -/
theorem FieldTable.HasField.part?_of_bindParts {recs : Records} {src : KeySource}
    {find : WireType → Finder} {key sub : Key} {table : FieldTable} {path : FieldPath} {f : Field}
    {type : WireType} {v : Value} {current fields : List Value} (has : table.HasField path f)
    (begins : table.Begins recs current) (role : f.role = .bound type)
    (chosen : src.partKey? key f.partName = some sub) (found : find type sub = .ok (some v))
    (bound : table.bindParts recs src find key current = .ok fields) :
    (Value.record fields).part? path = some v := by
  induction has generalizing current fields with
  | here f rest =>
    cases begins with
    | field begins =>
      obtain ⟨own, first, more⟩ := Except.bind_eq_ok_iff.mp bound
      obtain ⟨values, _, done⟩ := Except.bind_eq_ok_iff.mp more
      cases done
      rw [Field.bindWithin, role] at first
      simp only [bindPart, chosen, found] at first
      cases first
      rfl
  | later has ih =>
    cases begins with
    | field begins =>
      obtain ⟨own, _, more⟩ := Except.bind_eq_ok_iff.mp bound
      obtain ⟨values, others, done⟩ := Except.bind_eq_ok_iff.mp more
      cases done
      exact ih begins role chosen others
  | inside has ih =>
    cases begins with
    | flattened beginsInner _ =>
      obtain ⟨inside, first, more⟩ := Except.bind_eq_ok_iff.mp bound
      obtain ⟨values, _, done⟩ := Except.bind_eq_ok_iff.mp more
      cases done
      exact ih beginsInner role chosen first
  | past has ih =>
    cases begins with
    | flattened _ begins =>
      obtain ⟨inside, _, more⟩ := Except.bind_eq_ok_iff.mp bound
      obtain ⟨values, others, done⟩ := Except.bind_eq_ok_iff.mp more
      cases done
      exact ih begins role chosen others

theorem Value.part?_append (whole : Value) (path below : FieldPath) :
    whole.part? (path ++ below) = (whole.part? path).bind (·.part? below) := by
  induction path generalizing whole with
  | nil => rfl
  | cons n path ih =>
    cases whole with
    | record fields =>
      rw [List.cons_append, part?, part?]
      cases fields[n]? with
      | none => rfl
      | some v => exact ih v
    | _ => rfl

namespace WireType

variable {recs : Records} {src : KeySource} {type : WireType} {key : Key} {path : FieldPath}
  {v : Value}

theorem Supplies.find (supplies : type.Supplies recs src key path v)
    (composed : type.Composed recs) :
    ∃ whole, type.find recs src .lenient key = .ok (some whole) ∧ whole.part? path = some v := by
  induction supplies with
  | @flat type key raw v flat first read =>
    exact ⟨v, (supplies_iff_find flat).mp (.flat flat first read), rfl⟩
  | @field ident r f type key sub path below v declared has role chosen _ ih =>
    obtain ⟨found, search⟩ := composed.exists_find src key
    cases composed with
    | flat flat => cases flat
    | record declared' begins composed =>
      cases declared.symm.trans declared'
      have typed : r.fields.typeAt? path = some type := by
        rw [has.typeAt?, Field.boundType?, role]
      obtain ⟨leaf, member, _, rfl⟩ := FieldTable.exists_mem_leaves_of_typeAt? typed
      obtain ⟨inner, held, placed⟩ := ih (composed leaf member)
      rw [find_record, KeySource.hasParts_of_partKey? chosen, if_pos rfl] at search
      simp only [declared] at search
      obtain ⟨fields, bound, rfl⟩ := Except.map_eq_ok_iff.mp search
      refine ⟨.record fields, ?_, ?_⟩
      · rw [find_record, KeySource.hasParts_of_partKey? chosen, if_pos rfl]
        simp only [declared, bound]
        rfl
      · rw [Value.part?_append, has.part?_of_bindParts begins role chosen held bound]
        exact placed

/-- Whatever pairs follow others, a field of scalars that the others give a value keeps it, at any
depth of nested and flattened records. -/
theorem find_extended (composed : type.Composed recs) (key : Key) (limit : Nat)
    (pairs later : List (String × String)) {path : FieldPath} {v : Value}
    (supplied : type.Supplies recs (.ofPairs pairs limit) key path v) :
    type.Supplies recs (.ofPairs (pairs ++ later) limit) key path v ∧
      ∃ whole whole',
        type.find recs (.ofPairs pairs limit) .lenient key = .ok (some whole) ∧
        type.find recs (.ofPairs (pairs ++ later) limit) .lenient key = .ok (some whole') ∧
        whole.part? path = some v ∧ whole'.part? path = some v := by
  have still := supplied.mono (KeySource.extends_ofPairs pairs later limit)
  obtain ⟨whole, found, placed⟩ := supplied.find composed
  obtain ⟨whole', found', placed'⟩ := still.find composed
  exact ⟨still, whole, whole', found, found', placed, placed'⟩

end WireType

/-- Points with a name, which stands in a flattened record. -/
def Records.marks : Records :=
  let named : FieldTable := .field (.annotated "name" (.scalar .text) "") .nil
  (Records.points.declare "Named" "Named" named).declare "Mark" "Mark"
    (.flattened "named" "Named" named (.field (.annotated "at" (.record "Point") "") .nil))

theorem WireType.composed_mark : (record "Mark").Composed .marks := by
  have flats : ∀ leaf : Leaf, leaf.type = .scalar (.int .int32) ∨ leaf.type = .scalar .text →
      leaf.type.Composed .marks := by
    rintro leaf (number | text)
    · exact .flat (by rw [number]; rfl)
    · exact .flat (by rw [text]; rfl)
  have point : (record "Point").Composed .marks := by
    refine .record rfl (.field (.field .nil)) ?_
    intro leaf member
    rcases List.mem_cons.mp member with rfl | later
    · exact flats _ (Or.inl rfl)
    · rw [List.mem_singleton.mp later]
      exact flats _ (Or.inl rfl)
  refine .record rfl (.flattened (.field .nil) (.field .nil)) ?_
  intro leaf member
  rcases List.mem_cons.mp member with rfl | later
  · exact flats _ (Or.inr rfl)
  · rw [List.mem_singleton.mp later]
    exact point

/-- The place of a mark is spelled in brackets first, and its `y` is malformed; what follows spells
it otherwise and gives all fields other values, and `x` one that is new. -/
theorem WireType.find_extended_mark :
    let pairs := [("m[at].y", "?"), ("m.at.y", "2"), ("m.name", "a")]
    let later := [("m.name", "b"), ("m[at].y", "3"), ("m.at[x]", "4"), ("m[at][x]", "5")]
    (record "Mark").Composed .marks ∧
      (record "Mark").Supplies .marks (.ofPairs pairs 0) "m".toList [1, 1] (.int 0) ∧
      ∃ whole, (record "Mark").find .marks (.ofPairs (pairs ++ later) 0) .lenient "m".toList =
        .ok (some whole) ∧ whole.part? [1, 1] = some (.int 0) := by
  intro pairs later
  have malformed : (scalar (.int .int32)).Supplies .marks (.ofPairs pairs 0) "m[at].y".toList []
      (.int 0) := by
    have first : (KeySource.ofPairs pairs 0).firstValue? "m[at].y".toList = some "?" := by
      decide +kernel
    exact .flat rfl first rfl
  have place : (record "Point").Supplies .marks (.ofPairs pairs 0) "m[at]".toList ([1] ++ [])
      (.int 0) :=
    .field rfl (.later (.here _ _)) rfl (by decide +kernel) malformed
  have supplied : (record "Mark").Supplies .marks (.ofPairs pairs 0) "m".toList
      ([1] ++ ([1] ++ [])) (.int 0) :=
    .field rfl (.past (.here _ _)) rfl (by decide +kernel) place
  obtain ⟨_, whole, whole', _, found, _, placed⟩ :=
    find_extended composed_mark "m".toList 0 pairs later supplied
  exact ⟨composed_mark, supplied, whole', found, placed⟩

end RequestBinding
