import RequestBinding.Value.Basic

/-!
# How many items a value has

`Value.elements` counts the items of all lists anywhere in a value, also those of structured bodies.
The lemmas say how the count behaves under what binding does with values: setting the item of a
list and putting entries into a map.
-/

namespace RequestBinding

mutual

/-- The number of items of all arrays in structured data. -/
def Json.elements : Json → Nat
  | .array items => items.length + Json.itemsElements items
  | .object members => Json.membersElements members
  | _ => 0

/-- The number of items of all arrays in items. -/
def Json.itemsElements : List Json → Nat
  | [] => 0
  | v :: rest => v.elements + Json.itemsElements rest

/-- The number of items of all arrays in members. -/
def Json.membersElements : List (String × Json) → Nat
  | [] => 0
  | (_, v) :: rest => v.elements + Json.membersElements rest

end

namespace Value

mutual

/-- The number of items of all lists in the value. -/
def elements : Value → Nat
  | .seq items => items.length + itemsElements items
  | .dict entries => entriesElements entries
  | .present v => v.elements
  | .body content => content.elements
  | .record fields => itemsElements fields
  | _ => 0

/-- The number of items of all lists in values that come one after the other. -/
def itemsElements : List Value → Nat
  | [] => 0
  | v :: rest => v.elements + itemsElements rest

/-- The number of items of all lists in the entries of a map. -/
def entriesElements : List (Value × Value) → Nat
  | [] => 0
  | (k, v) :: rest => k.elements + v.elements + entriesElements rest

end

theorem itemsElements_append (a b : List Value) :
    itemsElements (a ++ b) = itemsElements a + itemsElements b := by
  induction a with
  | nil => rw [List.nil_append, itemsElements, Nat.zero_add]
  | cons v rest ih => rw [List.cons_append, itemsElements, itemsElements, ih, Nat.add_assoc]

/-- Places that are all filled with a value without items. -/
theorem itemsElements_replicate {v : Value} (bare : v.elements = 0) (n : Nat) :
    itemsElements (List.replicate n v) = 0 := by
  induction n with
  | zero => rfl
  | succ n ih => rw [List.replicate_succ, itemsElements, bare, ih]

theorem itemsElements_set_le (items : List Value) (i : Nat) (v : Value) :
    itemsElements (items.set i v) ≤ itemsElements items + v.elements := by
  induction items generalizing i with
  | nil => exact Nat.zero_le _
  | cons w rest ih =>
    cases i with
    | zero =>
      simp only [List.set_cons_zero, itemsElements]
      omega
    | succ i =>
      have others := ih i
      simp only [List.set_cons_succ, itemsElements]
      omega

theorem entriesElements_insertEntry_le (key value : Value) (entries : List (Value × Value)) :
    entriesElements (insertEntry key value entries) ≤
      key.elements + value.elements + entriesElements entries := by
  induction entries with
  | nil => exact Nat.le_refl _
  | cons entry rest ih =>
    obtain ⟨k, v⟩ := entry
    unfold insertEntry
    split
    · exact Nat.le_refl _
    · split
      · simp only [entriesElements]
        omega
      · simp only [entriesElements]
        omega

/-- A map has no more items than the entries that it is made of. -/
theorem elements_ofEntries_le (entries : List (Value × Value)) :
    (ofEntries entries).elements ≤ entriesElements entries := by
  have inserted : ∀ sorted, entriesElements
      (entries.foldl (fun sorted p => insertEntry p.1 p.2 sorted) sorted) ≤
        entriesElements sorted + entriesElements entries := by
    induction entries with
    | nil => exact fun sorted => Nat.le_refl _
    | cons p rest ih =>
      intro sorted
      have first := entriesElements_insertEntry_le p.1 p.2 sorted
      have others := ih (insertEntry p.1 p.2 sorted)
      rw [List.foldl_cons, entriesElements]
      omega
  have made := inserted []
  rw [entriesElements, Nat.zero_add] at made
  exact made

end Value

end RequestBinding
