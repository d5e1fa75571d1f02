import Mathlib.Algebra.BigOperators.Ring.List
import Mathlib.Algebra.Order.Group.Nat
import Mathlib.Algebra.Ring.Nat
import RequestBinding.Proofs.Convert.Assembly
import RequestBinding.Proofs.Convert.WrittenForm
import RequestBinding.Proofs.Outcome
import RequestBinding.Proofs.Value.Elements
import RequestBinding.Record.Path

/-!
# The items of what is put together

A list, a map or a record that is put together under a key has the items of its parts, and a list
has its own places besides. Each lemma takes what a part may cost as a hypothesis on the finder that
is asked for it, and says what the whole costs: `Sequence.assemble_elements`,
`Mapping.assemble_elements` and `FieldTable.bindParts_elements`. A value that one text holds costs
nothing (`WireType.elements_of_ofRaw`).
-/

namespace RequestBinding

/-! ## What is built from texts and parts -/

/-- A value that one text holds has no items. -/
theorem Scalar.elements_eq_zero {mode : Mode} {s : Scalar} {raw : String} {v : Value}
    (read : s.ofRaw mode raw = .ok v) : v.elements = 0 := by
  have ofRead : ∀ w, s.read raw = .ok w → w.elements = 0 := by
    intro w found
    cases s with
    | bool | text =>
      cases found
      rfl
    | int k | float32 | float64 =>
      unfold Scalar.read at found
      simp only at found
      split at found
      · cases found
        rfl
      · cases found
  unfold ofRaw orZero at read
  split at read
  · cases read
    exact ofRead _ ‹_›
  · split at read
    · cases read
      cases s <;> rfl
    · cases read

theorem WireType.elements_of_ofRaw {mode : Mode} {type : WireType} {raw : String} {v : Value}
    (read : type.ofRaw mode raw = .ok v) : v.elements = 0 := by
  induction type generalizing v with
  | scalar s => exact Scalar.elements_eq_zero read
  | bytes =>
    cases read
    rfl
  | option inner ih =>
    obtain ⟨w, found, rfl⟩ := Except.map_eq_ok_iff.mp read
    have none : w.elements = 0 := ih found
    exact none
  | box inner ih => exact ih read
  | file | cookie | seq | map | body | record => cases read

namespace Sequence

variable {mode : Mode} {type : WireType} {zero : Value} {find : Finder} {cost : Key → Nat}

theorem ofTexts_elements {texts : List String} {items : List Value}
    (made : ofTexts mode type texts = .ok items) :
    items.length = texts.length ∧ Value.itemsElements items = 0 := by
  induction texts generalizing items with
  | nil =>
    cases made
    exact ⟨rfl, rfl⟩
  | cons raw rest ih =>
    obtain ⟨v, first, more⟩ := Except.bind_eq_ok_iff.mp made
    obtain ⟨others, later, done⟩ := Except.bind_eq_ok_iff.mp more
    cases done
    obtain ⟨length, none⟩ := ih later
    rw [Value.itemsElements, WireType.elements_of_ofRaw first, none]
    exact ⟨congrArg (· + 1) length, rfl⟩

theorem append_elements (bare : zero.elements = 0) {texts : List String} {items : List Value}
    (made : append mode type zero texts = .ok items) :
    items.length = texts.length ∧ Value.itemsElements items = 0 := by
  induction texts generalizing items with
  | nil =>
    cases made
    exact ⟨rfl, rfl⟩
  | cons raw rest ih =>
    have onward : ∀ v : Value, v.elements = 0 →
        (append mode type zero rest).map (v :: ·) = .ok items →
          items.length = (raw :: rest).length ∧ Value.itemsElements items = 0 := by
      intro v none added
      obtain ⟨others, later, rfl⟩ := Except.map_eq_ok_iff.mp added
      obtain ⟨length, noOthers⟩ := ih later
      rw [Value.itemsElements, none, noOthers]
      exact ⟨congrArg (· + 1) length, rfl⟩
    unfold append at made
    split at made
    · exact onward _ (WireType.elements_of_ofRaw ‹_›) made
    · split at made
      · cases made
      · exact onward zero bare made

/-- What is collected has no more items than the parts cost. -/
theorem collect_elements {parts : List (Nat × Key)} {found : List (Nat × Value)}
    (made : collect mode find parts = .ok found)
    (each : ∀ p ∈ parts, ∀ v, find p.2 = .ok (some v) → v.elements ≤ cost p.2) :
    (found.map fun q => q.2.elements).sum ≤ (parts.map fun p => cost p.2).sum := by
  induction parts generalizing found with
  | nil =>
    cases made
    exact Nat.le_refl _
  | cons p rest ih =>
    have others := fun q (later : q ∈ rest) => each q (List.mem_cons_of_mem p later)
    rw [List.map_cons, List.sum_cons]
    have skipped : collect mode find rest = .ok found →
        (found.map fun q => q.2.elements).sum ≤
          cost p.2 + (rest.map fun p => cost p.2).sum :=
      fun onward => Nat.le_trans (ih onward others) (Nat.le_add_left _ _)
    unfold collect at made
    split at made
    · rename_i v present
      obtain ⟨more, later, rfl⟩ := Except.map_eq_ok_iff.mp made
      have own := each p List.mem_cons_self v present
      have bound := ih later others
      rw [List.map_cons, List.sum_cons]
      exact Nat.add_le_add own bound
    · exact skipped made
    · split at made
      · cases made
      · exact skipped made

/-- Putting values into their places adds no other items. -/
theorem place_elements (start : List Value) (found : List (Nat × Value)) :
    Value.itemsElements (place start found) ≤
      Value.itemsElements start + (found.map fun q => q.2.elements).sum := by
  induction found generalizing start with
  | nil => exact Nat.le_add_right _ _
  | cons q rest ih =>
    have put := Value.itemsElements_set_le start q.1 q.2
    rw [List.map_cons, List.sum_cons]
    exact Nat.le_trans (ih (start.set q.1 q.2)) (by omega)

/-- A list that is put together has its places, a place for each text without an index, and the
items of its parts. -/
theorem assemble_elements (bare : zero.elements = 0) {limit : Nat} {brackets : List Bracket}
    {v : Value} (made : assemble mode type zero find limit brackets = .ok (some v))
    (each : ∀ p ∈ partsWithin limit brackets, ∀ w, find p.2 = .ok (some w) →
      w.elements ≤ cost p.2) :
    v.elements ≤ (if (partsWithin limit brackets).isEmpty then 0 else limit + 1) +
        (appended brackets).length +
      ((partsWithin limit brackets).map fun p => cost p.2).sum := by
  have built : ∃ items, build mode type zero find (partsWithin limit brackets)
      (appended brackets) = .ok items ∧ .seq items = v := by
    unfold assemble at made
    split at made
    · cases made
    · simp only at made
      split at made
      · cases made
      · obtain ⟨items, built, same⟩ := Except.map_eq_ok_iff.mp made
        exact ⟨items, built, Option.some.inj same⟩
  obtain ⟨items, built, rfl⟩ := built
  obtain ⟨found, collected, more⟩ := Except.bind_eq_ok_iff.mp built
  obtain ⟨rest, added, done⟩ := Except.bind_eq_ok_iff.mp more
  cases done
  have boundFound := collect_elements collected each
  have boundPlaced :=
    place_elements (List.replicate (placesFor (partsWithin limit brackets)) zero) found
  obtain ⟨lengthRest, none⟩ := append_elements bare added
  have places : placesFor (partsWithin limit brackets) ≤
      if (partsWithin limit brackets).isEmpty then 0 else limit + 1 := by
    apply (placesFor_bounds _).2
    intro p member
    obtain ⟨_, _, _, within⟩ := mem_of_mem_partsWithin member
    rw [if_neg (mt List.isEmpty_iff.mp (List.ne_nil_of_mem member))]
    omega
  rw [Value.itemsElements_replicate bare] at boundPlaced
  rw [Value.elements, List.length_append, Value.itemsElements_append, none, length_place,
    places_eq, List.length_replicate, lengthRest]
  omega

end Sequence

/-- The entries of a map have no more items than their parts cost. -/
theorem Mapping.gather_elements {mode : Mode} {keyType : WireType} {zero : Value} {find : Finder}
    {cost : Key → Nat} (bare : zero.elements = 0) {parts : List (Key × Key)}
    {entries : List (Value × Value)}
    (made : gather mode keyType zero find parts = .ok entries)
    (each : ∀ p ∈ parts, ∀ v, find p.2 = .ok (some v) → v.elements ≤ cost p.2) :
    Value.entriesElements entries ≤ (parts.map fun p => cost p.2).sum := by
  induction parts generalizing entries with
  | nil =>
    cases made
    exact Nat.le_refl _
  | cons p rest ih =>
    obtain ⟨text, part⟩ := p
    have others := fun q (later : q ∈ rest) => each q (List.mem_cons_of_mem _ later)
    rw [List.map_cons, List.sum_cons]
    dsimp only
    unfold gather at made
    split at made
    · cases made
    · rename_i k read
      have bareKey : k.elements = 0 := WireType.elements_of_ofRaw read
      split at made
      · rename_i v found
        obtain ⟨more, later, rfl⟩ := Except.map_eq_ok_iff.mp made
        have own : v.elements ≤ cost part := each (text, part) List.mem_cons_self v found
        have bound := ih later others
        rw [Value.entriesElements, bareKey]
        omega
      · exact Nat.le_trans (ih made others) (Nat.le_add_left _ _)
      · split at made
        · cases made
        · obtain ⟨more, later, rfl⟩ := Except.map_eq_ok_iff.mp made
          have bound := ih later others
          rw [Value.entriesElements, bareKey, bare]
          omega

/-- A map that is put together has no more items than its parts cost. -/
theorem Mapping.assemble_elements {mode : Mode} {keyType : WireType} {zero : Value} {find : Finder}
    {cost : Key → Nat} (bare : zero.elements = 0) {brackets : List Bracket} {v : Value}
    (made : assemble mode keyType zero find brackets = .ok (some v))
    (each : ∀ p ∈ Bracket.firsts [] (brackets.filterMap Bracket.mapKey?), ∀ w,
      find p.2 = .ok (some w) → w.elements ≤ cost p.2) :
    v.elements ≤
      ((Bracket.firsts [] (brackets.filterMap Bracket.mapKey?)).map fun p => cost p.2).sum := by
  obtain ⟨entries, gathered, done⟩ := Except.bind_eq_ok_iff.mp made
  have bound := gather_elements bare gathered each
  split at done
  · cases done
  · cases done
    exact Nat.le_trans (Value.elements_ofEntries_le entries) bound

/-! ## Records -/

namespace FieldTable

/-- The identities of the flattened records of a table, at any depth. -/
def flattenedIdents : FieldTable → List String
  | .nil => []
  | .field _ rest => rest.flattenedIdents
  | .flattened _ ident inner rest => ident :: (inner.flattenedIdents ++ rest.flattenedIdents)

variable {recs : Records} {src : KeySource} {find : WireType → Finder} {key : Key}
  {cost : Key → Nat}

/-- The fields of a record that starts without items have no more items than the parts that are
found cost. -/
theorem bindParts_elements {table : FieldTable} {lead : FieldPath} {index : Nat}
    {current fields : List Value}
    (bound : table.bindParts recs src find key current = .ok fields)
    (bare : Value.itemsElements current = 0)
    (flattened : ∀ ident ∈ table.flattenedIdents, Value.itemsElements (recs.zeroOf ident) = 0)
    (each : ∀ leaf ∈ table.leavesFrom lead index, ∀ sub, Key.isPartOf sub key = true → ∀ v,
      find leaf.type sub = .ok (some v) → v.elements ≤ cost sub) :
    Value.itemsElements fields ≤ ((table.partNames.filterMap (src.partKey? key)).map cost).sum := by
  induction table generalizing lead index current fields with
  | nil =>
    have same : current = fields := by
      cases current <;> exact Except.ok.inj bound
    rw [← same, bare]
    exact Nat.zero_le _
  | field f rest ih =>
    cases current with
    | nil =>
      cases bound
      exact Nat.zero_le _
    | cons v values =>
      rw [Value.itemsElements] at bare
      obtain ⟨w, own, more⟩ := Except.bind_eq_ok_iff.mp bound
      obtain ⟨others, later, done⟩ := Except.bind_eq_ok_iff.mp more
      cases done
      unfold Field.bindWithin at own
      unfold partNames
      unfold leavesFrom at each
      rw [Value.itemsElements]
      cases role : f.role with
      | unbound type? =>
        rw [role] at own each
        cases own
        have boundRest := ih later (by omega) flattened each
        simp only
        omega
      | bound type =>
        rw [role] at own each
        have boundRest := ih later (by omega) flattened
          fun leaf member => each leaf (List.mem_cons_of_mem _ member)
        obtain ⟨⟨found, held⟩, part, rfl⟩ := Except.map_eq_ok_iff.mp own
        simp only
        unfold bindPart at part
        cases present : src.partKey? key f.partName with
        | none =>
          rw [present] at part
          cases part
          rw [List.filterMap_cons_none present]
          omega
        | some sub =>
          rw [present] at part
          obtain ⟨found?, search, same⟩ := Except.map_eq_ok_iff.mp part
          have ownBound : held.elements ≤ cost sub := by
            cases same
            cases found? with
            | none =>
              rw [Option.getD_none]
              omega
            | some u =>
              exact each _ List.mem_cons_self sub (KeySource.isPartOf_of_partKey? present) u search
          rw [List.filterMap_cons_some present, List.map_cons, List.sum_cons]
          omega
  | flattened name ident inner rest ihInner ihRest =>
    cases current with
    | nil =>
      cases bound
      exact Nat.zero_le _
    | cons v values =>
      rw [Value.itemsElements] at bare
      obtain ⟨inside, own, more⟩ := Except.bind_eq_ok_iff.mp bound
      obtain ⟨others, later, done⟩ := Except.bind_eq_ok_iff.mp more
      cases done
      unfold flattenedIdents at flattened
      unfold leavesFrom at each
      have boundInner := ihInner own (flattened ident List.mem_cons_self)
        (fun other member =>
          flattened other (List.mem_cons_of_mem _ (List.mem_append_left _ member)))
        fun leaf member => each leaf (List.mem_append_left _ member)
      have boundRest := ihRest later (by omega)
        (fun other member =>
          flattened other (List.mem_cons_of_mem _ (List.mem_append_right _ member)))
        fun leaf member => each leaf (List.mem_append_right _ member)
      rw [partNames, List.filterMap_append, List.map_append, List.sum_append, Value.itemsElements,
        Value.elements]
      omega

end FieldTable

end RequestBinding
