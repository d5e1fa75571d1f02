import RequestBinding.Proofs.Convert.Typing
import RequestBinding.Proofs.Source.Names

/-!
# The entries of a map

A map is put together from the names in `key[name]…`. Each name is looked at once, where it comes
first, so a name that comes again changes nothing. But several names can be read as the same key of
the map, such as `1`, `01` and `+1`, or in lenient mode all that are no numbers, and names are told
apart before they are read. Of the names of one key it is the last that stays, not the first
(`WireType.find_map_entries`, `WireType.find_map_later_spelling`).
-/

namespace RequestBinding

namespace WireType

/-- There is an order on the values that texts of the type hold, so they can be the keys of a map.
There is none on floats and octets. -/
def isOrdered : WireType → Bool
  | scalar .float32 => false
  | scalar .float64 => false
  | bytes => false
  | option inner => inner.isOrdered
  | box inner => inner.isOrdered
  | _ => true

/-- Texts of an ordered type are read as values that can be compared. -/
theorem comparable_of_ofRaw {mode : Mode} {type : WireType} (ordered : type.isOrdered = true)
    {raw raw' : String} {a b : Value} (read : type.ofRaw mode raw = .ok a)
    (read' : type.ofRaw mode raw' = .ok b) : Value.Comparable a b := by
  induction type generalizing a b with
  | scalar s =>
    have left := Scalar.admits_of_ofRaw read
    have right := Scalar.admits_of_ofRaw read'
    cases s with
    | bool =>
      obtain ⟨p, rfl⟩ := left
      obtain ⟨q, rfl⟩ := right
      cases p <;> cases q <;> simp [Value.Comparable, Value.keyLt]
    | int k =>
      obtain ⟨m, _, rfl⟩ := left
      obtain ⟨n, _, rfl⟩ := right
      simp only [Value.Comparable, Value.keyLt, decide_eq_true_eq, Value.int.injEq]
      omega
    | text =>
      obtain ⟨s, rfl⟩ := left
      obtain ⟨t, rfl⟩ := right
      simp only [Value.Comparable, Value.keyLt, decide_eq_true_eq, Value.text.injEq]
      by_cases below : s < t
      · exact Or.inl below
      by_cases above : t < s
      · exact Or.inr (Or.inl above)
      exact Or.inr (Or.inr (String.le_antisymm (String.not_lt.mp above) (String.not_lt.mp below)))
    | float32 => cases ordered
    | float64 => cases ordered
  | bytes => cases ordered
  | option inner ih =>
    obtain ⟨v, found, rfl⟩ := Except.map_eq_ok_iff.mp read
    obtain ⟨w, found', rfl⟩ := Except.map_eq_ok_iff.mp read'
    exact (ih ordered found found').imp_right (Or.imp_right (congrArg _))
  | box inner ih => exact ih ordered read read'
  | file | cookie | seq | map | body | record => cases read

end WireType

namespace Mapping

variable {mode : Mode} {keyType : WireType} {zero : Value} {find : Finder}

/-- The value that an entry has: in lenient mode one that is malformed is `zero`. -/
def held (mode : Mode) (zero : Value) : Found → Found
  | .ok found => .ok found
  | .error e =>
    match mode with
    | .strict => .error e
    | .lenient => .ok (some zero)

theorem held_strict (zero : Value) (found : Found) : held .strict zero found = found := by
  cases found <;> rfl

/-- The entry that a name and the key of its part make, if there is a value. -/
def entryOf? (mode : Mode) (keyType : WireType) (zero : Value) (find : Finder) (p : Key × Key) :
    Option (Value × Value) :=
  match keyType.ofRaw mode (String.ofList p.1), held mode zero (find p.2) with
  | .ok k, .ok (some v) => some (k, v)
  | _, _ => none

theorem entryOf?_eq_some_iff {p : Key × Key} {k v : Value} :
    entryOf? mode keyType zero find p = some (k, v) ↔
      keyType.ofRaw mode (String.ofList p.1) = .ok k ∧
        held mode zero (find p.2) = .ok (some v) := by
  unfold entryOf?
  split
  · rename_i k' v' read found
    simp [read, found]
  · rename_i other
    constructor
    · nofun
    · rintro ⟨read, found⟩
      exact absurd found (other k v read)

/-- When entries are gathered, they are those of the parts that have a value. -/
theorem eq_of_gather {parts : List (Key × Key)} {entries : List (Value × Value)}
    (made : gather mode keyType zero find parts = .ok entries) :
    entries = parts.filterMap (entryOf? mode keyType zero find) := by
  induction parts generalizing entries with
  | nil =>
    cases made
    rfl
  | cons p rest ih =>
    unfold gather at made
    rw [List.filterMap_cons]
    split at made
    · cases made
    · rename_i k read
      split at made
      · rename_i v found
        obtain ⟨others, later, rfl⟩ := Except.map_eq_ok_iff.mp made
        have own : entryOf? mode keyType zero find p = some (k, v) :=
          entryOf?_eq_some_iff.mpr ⟨read, by rw [found]; rfl⟩
        rw [own, ih later]
      · rename_i missing
        have own : entryOf? mode keyType zero find p = none := by
          rw [entryOf?, read, missing]
          rfl
        rw [own]
        exact ih made
      · rename_i bad
        cases mode with
        | strict => cases made
        | lenient =>
          obtain ⟨others, later, rfl⟩ := Except.map_eq_ok_iff.mp made
          have own : entryOf? .lenient keyType zero find p = some (k, zero) :=
            entryOf?_eq_some_iff.mpr ⟨read, by rw [bad]; rfl⟩
          rw [own, ih later]

/-- An entry is the last of its key when it comes from the last element that has one. -/
theorem lastEntry_filterMap_iff {α : Type} {f : α → Option (Value × Value)} {elements : List α}
    {k v : Value} :
    Value.LastEntry (elements.filterMap f) (k, v) ↔
      ∃ before a after, elements = before ++ a :: after ∧ f a = some (k, v) ∧
        ∀ b ∈ after, ∀ w, f b ≠ some (k, w) := by
  constructor
  · rintro ⟨front, back, split, fresh⟩
    obtain ⟨before, rest, rfl, rfl, tail⟩ := List.filterMap_eq_append_iff.mp split
    obtain ⟨skipped, a, after, rfl, none, own, rfl⟩ := List.filterMap_eq_cons_iff.mp tail
    refine ⟨before ++ skipped, a, after, (List.append_assoc _ _ _).symm, own, ?_⟩
    intro b member w entry
    exact fresh (k, w) (List.mem_filterMap.mpr ⟨b, member, entry⟩) rfl
  · rintro ⟨before, a, after, rfl, own, fresh⟩
    refine ⟨before.filterMap f, after.filterMap f, ?_, ?_⟩
    · rw [List.filterMap_append, List.filterMap_cons_some own]
    · rintro ⟨k', w⟩ member rfl
      obtain ⟨b, later, entry⟩ := List.mem_filterMap.mp member
      exact fresh b later w entry

/-- A map that is put together is made of the entries that have been gathered. -/
theorem exists_of_assemble {brackets : List Bracket} {m : Value}
    (made : assemble mode keyType zero find brackets = .ok (some m)) :
    ∃ entries, gather mode keyType zero find
        (Bracket.firsts [] (brackets.filterMap Bracket.mapKey?)) = .ok entries ∧
      m = .ofEntries entries := by
  obtain ⟨entries, gathered, done⟩ := Except.bind_eq_ok_iff.mp made
  refine ⟨entries, gathered, ?_⟩
  cases empty : entries.isEmpty with
  | true =>
    rw [empty] at done
    cases done
  | false =>
    rw [empty] at done
    cases done
    rfl

end Mapping

namespace WireType

variable {src : KeySource} {key : Key} {sorted : Bool} {keyType value : WireType}

/-- A map that is found holds its entries in the order of their keys. A key of the map has the value
under the last of the names that are read as this key and have a value, where every name counts at
the place where it first comes. So where every key has one name, each name that has a value makes an
entry, whatever else comes under it later. -/
theorem find_map_entries (recs : Records) (mode : Mode) (ordered : keyType.isOrdered = true)
    {m : Value} (found : (map sorted keyType value).find recs src mode key = .ok (some m)) :
    let names := (src.names key).eraseDups
    let keyOf := fun name : Key => keyType.ofRaw mode (String.ofList name)
    let valueOf := fun name =>
      Mapping.held mode (value.zero recs) (value.find recs src mode (key.bracketed name))
    ∃ entries, m = .dict entries ∧ Value.Ascending entries ∧
      (∀ k v, (k, v) ∈ entries ↔ ∃ before name after, names = before ++ name :: after ∧
        keyOf name = .ok k ∧ valueOf name = .ok (some v) ∧
          ∀ later ∈ after, keyOf later = .ok k → ∀ w, valueOf later ≠ .ok (some w)) ∧
      ((names.Pairwise fun a b => ∀ k, keyOf a = .ok k → keyOf b ≠ .ok k) →
        ∀ k v, (k, v) ∈ entries ↔
          ∃ name ∈ names, keyOf name = .ok k ∧ valueOf name = .ok (some v)) := by
  intro names keyOf valueOf
  rw [find_map] at found
  obtain ⟨gathered, made, rfl⟩ := Mapping.exists_of_assemble found
  rw [KeySource.firsts_names] at made
  have each := Mapping.eq_of_gather made
  rw [List.filterMap_map] at each
  have comparable : ∀ p ∈ gathered, ∀ q ∈ gathered, Value.Comparable p.1 q.1 := by
    rintro ⟨k, v⟩ member ⟨k', v'⟩ member'
    rw [each] at member member'
    obtain ⟨name, _, own⟩ := List.mem_filterMap.mp member
    obtain ⟨name', _, own'⟩ := List.mem_filterMap.mp member'
    exact comparable_of_ofRaw ordered (Mapping.entryOf?_eq_some_iff.mp own).1
      (Mapping.entryOf?_eq_some_iff.mp own').1
  obtain ⟨entries, collected, ascending, last⟩ := Value.ofEntries_spec comparable
  have lastName : ∀ k v, (k, v) ∈ entries ↔ ∃ before name after, names = before ++ name :: after ∧
      keyOf name = .ok k ∧ valueOf name = .ok (some v) ∧
        ∀ later ∈ after, keyOf later = .ok k → ∀ w, valueOf later ≠ .ok (some w) := by
    intro k v
    rw [last, each, Mapping.lastEntry_filterMap_iff]
    simp only [Function.comp_apply, ne_eq, Mapping.entryOf?_eq_some_iff, not_and]
    constructor
    · rintro ⟨before, name, after, split, ⟨read, present⟩, fresh⟩
      exact ⟨before, name, after, split, read, present, fun later member read' w =>
        fresh later member w read'⟩
    · rintro ⟨before, name, after, split, read, present, fresh⟩
      exact ⟨before, name, after, split, ⟨read, present⟩, fun later member w read' =>
        fresh later member read' w⟩
  refine ⟨entries, collected, ascending, lastName, fun apart k v => ?_⟩
  rw [lastName]
  constructor
  · rintro ⟨before, name, after, split, read, present, _⟩
    exact ⟨name, split ▸ List.mem_append_right before List.mem_cons_self, read, present⟩
  · rintro ⟨name, member, read, present⟩
    obtain ⟨before, after, split⟩ := List.append_of_mem member
    refine ⟨before, name, after, split, read, present, fun later behind read' => ?_⟩
    rw [split] at apart
    have different := (List.pairwise_cons.mp (List.pairwise_append.mp apart).2.1).1 later behind
    exact absurd read' (different k read)

/-- The name `2` comes again, and its second text is not looked at. -/
theorem find_map_entries_repeated :
    let src : KeySource :=
      { entries := [("m[2]".toList, ["4", "9"]), ("m[1]".toList, ["5"])], maxIndex := 8 }
    let type : WireType := .scalar (.int .uint8)
    type.isOrdered = true ∧
      (map true type type).find {} src .strict "m".toList =
        .ok (some (.dict [(.int 1, .int 5), (.int 2, .int 4)])) ∧
      ∃ before name after, (src.names "m".toList).eraseDups = before ++ name :: after ∧
        type.ofRaw .strict (String.ofList name) = .ok (.int 2) ∧
        type.find {} src .strict (Key.bracketed "m".toList name) = .ok (some (.int 4)) := by
  intro src type
  have ordered : type.isOrdered = true := rfl
  have found : (map true type type).find {} src .strict "m".toList =
      .ok (some (.dict [(.int 1, .int 5), (.int 2, .int 4)])) := rfl
  obtain ⟨entries, same, _, lastName, _⟩ := find_map_entries {} .strict ordered found
  cases same
  obtain ⟨before, name, after, split, read, present, _⟩ :=
    (lastName (.int 2) (.int 4)).mp (List.mem_cons_of_mem _ List.mem_cons_self)
  exact ⟨ordered, found, before, name, after, split, read,
    (Mapping.held_strict _ _).symm.trans present⟩

/-- The names `1` and `01` are read as the same key. The first of them that comes is `1`, and its
value is 5, but the map has the value of the other. -/
theorem find_map_later_spelling :
    let src : KeySource :=
      { entries := [("m[1]".toList, ["5"]), ("m[01]".toList, ["7"])], maxIndex := 8 }
    let type : WireType := .scalar (.int .uint8)
    (src.names "m".toList).eraseDups = ["1".toList, "01".toList] ∧
      type.ofRaw .strict "1" = .ok (.int 1) ∧ type.ofRaw .strict "01" = .ok (.int 1) ∧
      type.find {} src .strict "m[1]".toList = .ok (some (.int 5)) ∧
      (map true type type).find {} src .strict "m".toList =
        .ok (some (.dict [(.int 1, .int 7)])) :=
  ⟨rfl, rfl, rfl, rfl, rfl⟩

end WireType

end RequestBinding
