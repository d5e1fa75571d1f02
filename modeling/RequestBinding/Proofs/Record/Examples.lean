import RequestBinding.Record.Example
import RequestBinding.Proofs.Convert.Stability
import RequestBinding.Proofs.Json.Members

/-!
# What an example shows of a record

A record that is found under a key looks for its fields under their names, those of flattened
records among its own (`Record.Reads`, `WireType.reads_record`). The example of a record shows the
fields that it binds itself, each with the example of what it holds, and leaves out flattened
records (`Value.member?_example`). So an example shows all names that the record reads when
flattened records add none (`Value.example_shows_own`), and otherwise it does not
(`Value.example_mark_without_name`).
-/

namespace RequestBinding

/-! ## The names that a record reads -/

/-- Under a key the record of an identity reads the fields and nothing else. What is found of it
depends on whether the key has parts, on the spelling under which each field is found and on what
stands there; and what is found for a field is what the record holds in its place. -/
structure Record.Reads (recs : Records) (ident : String) (leaves : List Leaf) : Prop where
  nothingElse : ∀ (src src' : KeySource) (mode : Mode) (key : Key),
    src.hasParts key = src'.hasParts key →
    (∀ leaf ∈ leaves,
      src.partKey? key leaf.field.partName = src'.partKey? key leaf.field.partName) →
    (∀ leaf ∈ leaves, ∀ sub, src.partKey? key leaf.field.partName = some sub →
      KeySource.AgreeOn sub src src') →
    (WireType.record ident).find recs src mode key = (WireType.record ident).find recs src' mode key
  each : ∀ leaf ∈ leaves, ∀ (src : KeySource) (mode : Mode) (key sub : Key) (v whole : Value),
    src.partKey? key leaf.field.partName = some sub →
    leaf.type.find recs src mode sub = .ok (some v) →
    (WireType.record ident).find recs src mode key = .ok (some whole) →
    whole.part? leaf.path = some v

/-- A declared record reads its fields and those of its flattened records. -/
theorem WireType.reads_record {recs : Records} {ident : String} {r : Record}
    (declared : recs.find? ident = some r) (begins : r.fields.Begins recs r.zero) :
    Record.Reads recs ident r.fields.leaves where
  nothingElse := by
    intro src src' mode key parts chosen agree
    have same : ∀ leaf ∈ r.fields.leaves, ∀ sub,
        src.partKey? key leaf.field.partName = some sub →
          leaf.type.find recs src mode sub = leaf.type.find recs src' mode sub := by
      intro leaf member sub found
      obtain ⟨family, files, cookies, maxIndex⟩ := agree leaf member sub found
      exact leaf.type.find_eq_of_family_eq sub family files cookies maxIndex
    have fields := FieldTable.bindParts_congr_of_names recs [] 0 chosen same r.zero
    rw [find_record, find_record, parts, declared]
    simp only [fields]
  each := by
    intro leaf member src mode key sub v whole chosen found search
    obtain ⟨has, role⟩ := FieldTable.hasField_of_mem_leaves member
    rw [find_record, KeySource.hasParts_of_partKey? chosen, if_pos rfl, declared] at search
    obtain ⟨fields, bound, same⟩ := Except.map_eq_ok_iff.mp search
    cases same
    exact has.part?_of_bindParts begins role chosen found bound

/-! ## The fields that an example shows -/

/-- The field is one of the record itself, not of a flattened one. -/
def Leaf.isOwn (leaf : Leaf) : Bool :=
  leaf.path.length == 1

/-- The example of what a record holds in the field. -/
def Leaf.exampleIn (recs : Records) (whole : Value) (leaf : Leaf) : Json :=
  (whole.part? leaf.path).elim .null (·.example recs leaf.type)

theorem FieldTable.filter_isOwn_inside (table : FieldTable) (place index : Nat) :
    (table.leavesFrom [place] index).filter Leaf.isOwn = [] := by
  rw [List.filter_eq_nil_iff]
  intro leaf member own
  obtain ⟨n, path, shape, -⟩ := hasField_of_mem_leavesFrom member
  have single : leaf.path.length = 1 := beq_iff_eq.mp own
  simp only [shape, List.length_append, List.length_cons, List.length_nil] at single
  omega

/-- An example has a member for each field of the record itself. The values in `front` belong to
fields before those of the table. -/
theorem Value.exampleFields_eq (recs : Records) {table : FieldTable} {values : List Value}
    (fits : table.Fits values) (front : List Value) :
    exampleFields recs table values =
      ((table.leavesFrom [] front.length).filter Leaf.isOwn).map fun leaf =>
        (leaf.field.partName, leaf.exampleIn recs (.record (front ++ values))) := by
  induction fits generalizing front with
  | nil => rfl
  | @field f rest v values fits ih =>
    have next := ih (front ++ [v])
    rw [List.length_append, List.length_singleton, List.append_assoc, List.singleton_append] at next
    cases role : f.role with
    | unbound type? => simpa only [exampleFields, FieldTable.leavesFrom, role] using next
    | bound type =>
      have held : (Value.record (front ++ v :: values)).part? [front.length] = some v := by
        simp [part?]
      simp only [exampleFields, FieldTable.leavesFrom, role, List.nil_append, next,
        List.filter_cons, Leaf.isOwn, List.length_singleton, BEq.rfl, if_true, List.map_cons,
        Leaf.exampleIn, held, Option.elim_some]
  | @flattened name ident inner rest fields values _ fits _ ih =>
    have next := ih (front ++ [.record fields])
    rw [List.length_append, List.length_singleton, List.append_assoc, List.singleton_append] at next
    simp only [exampleFields, FieldTable.leavesFrom, List.filter_append, List.nil_append,
      FieldTable.filter_isOwn_inside, next]

/-- The member of a name is that of the last field of the record itself that has the name. -/
theorem Value.member?_example {recs : Records} {ident : String} {r : Record} {values : List Value}
    (declared : recs.find? ident = some r) (fits : r.fields.Fits values) (name : String) :
    ((Value.record values).example recs (.record ident)).member? name =
      ((r.fields.leaves.filter Leaf.isOwn).reverse.find? (·.field.partName == name)).map
        (·.exampleIn recs (.record values)) := by
  have table : (WireType.record ident).table recs = r.fields := by
    simp only [WireType.table, WireType.unboxed, declared, Option.elim_some]
  have members := exampleFields_eq recs fits []
  rw [List.length_nil, List.nil_append] at members
  rw [Value.example, table, members, Json.member?_ofMembers, ← List.map_reverse,
    FieldTable.leaves]
  induction ((r.fields.leavesFrom [] 0).filter Leaf.isOwn).reverse with
  | nil => rfl
  | cons leaf rest ih =>
    rw [List.map_cons, List.lookup_cons, List.find?_cons, ih, BEq.comm]
    cases leaf.field.partName == name <;> rfl

/-- The names that the example of a record shows. -/
theorem Value.isSome_member?_example_iff {recs : Records} {ident : String} {r : Record}
    {values : List Value} (declared : recs.find? ident = some r) (fits : r.fields.Fits values)
    (name : String) :
    (((Value.record values).example recs (.record ident)).member? name).isSome = true ↔
      ∃ leaf ∈ r.fields.leaves, leaf.isOwn = true ∧ leaf.field.partName = name := by
  rw [member?_example declared fits, Option.isSome_map, List.find?_isSome]
  simp only [List.mem_reverse, List.mem_filter, beq_iff_eq, and_assoc]

/-- The example of a record shows, under its name, each field that the record binds itself, the last
one where several share a name, and no other. With the fields of flattened records the record reads
more names than that, unless each of them is also the name of a field of its own. -/
theorem Value.example_shows_own {recs : Records} {ident : String} {r : Record}
    {values : List Value} (declared : recs.find? ident = some r)
    (begins : r.fields.Begins recs r.zero) (fits : r.fields.Fits values) :
    let shown := (Value.record values).example recs (.record ident)
    Record.Reads recs ident r.fields.leaves ∧
      (∀ name, shown.member? name =
        ((r.fields.leaves.filter Leaf.isOwn).reverse.find? (·.field.partName == name)).map
          (·.exampleIn recs (.record values))) ∧
      ((∀ name, (shown.member? name).isSome = true ↔
          name ∈ r.fields.leaves.map (·.field.partName)) ↔
        ∀ leaf ∈ r.fields.leaves, ∃ own ∈ r.fields.leaves, own.isOwn = true ∧
          own.field.partName = leaf.field.partName) := by
  intro shown
  refine ⟨WireType.reads_record declared begins, member?_example declared fits, ?_⟩
  simp only [shown, isSome_member?_example_iff declared fits, List.mem_map]
  constructor
  · intro all leaf member
    exact (all leaf.field.partName).mpr ⟨leaf, member, rfl⟩
  · intro covered name
    constructor
    · rintro ⟨leaf, member, -, named⟩
      exact ⟨leaf, member, named⟩
    · rintro ⟨leaf, member, rfl⟩
      exact covered leaf member

/-- A mark shows its place, which is a field of its own. -/
theorem Value.example_shows_own_mark :
    let name := Value.record [.text "a"]
    let place := Value.record [.int 1, .int 2]
    ((Value.record [name, place]).example .marks (.record "Mark")).member? "at" =
      some (place.example .marks (.record "Point")) := by
  intro name place
  let r : Record :=
    ⟨"Mark", "Mark", (WireType.record "Mark").table .marks, Records.marks.zeroOf "Mark"⟩
  have declared : Records.marks.find? "Mark" = some r := rfl
  have begins : r.fields.Begins .marks r.zero := .flattened (.field .nil) (.field .nil)
  have fits : r.fields.Fits [name, place] := .flattened (.field .nil) (.field .nil)
  obtain ⟨-, shown, -⟩ := example_shows_own declared begins fits
  exact shown "at"

/-- A mark is found with the name that stands under `m.name`, which it holds in a flattened record.
The example of the mark does not show the name. -/
theorem Value.example_mark_without_name :
    let src := KeySource.ofPairs [("m.name", "a")] 0
    let mark := Value.record [.record [.text "a"], .record [.int 0, .int 0]]
    let read := ((WireType.record "Mark").table .marks).leaves.map (·.field.partName)
    (WireType.record "Mark").find .marks src .strict "m".toList = .ok (some mark) ∧
      mark.part? [0, 0] = some (.text "a") ∧
      ¬ ∀ name, ((mark.example .marks (.record "Mark")).member? name).isSome = true ↔
        name ∈ read := by
  intro src mark read
  have reads : "name" ∈ read := .head _
  refine ⟨rfl, rfl, ?_⟩
  intro all
  have shown := (all "name").mpr reads
  have missing : (mark.example .marks (.record "Mark")).member? "name" = none := rfl
  rw [missing] at shown
  exact Bool.noConfusion shown

end RequestBinding
