import RequestBinding.Proofs.Convert.FinderLocality
import RequestBinding.Proofs.Convert.ItemCounts
import RequestBinding.Proofs.Source.Allowance

/-!
# How large a request can make a value

Few texts can ask for long lists: `key[1024]` makes a list of 1025 items, and lists nest. The limit
on indices bounds all lists of a value together (`WireType.find_elements_le`): a value has at most
as many items as the opening brackets in the keys of the source pay for, each with one full list,
and the raw texts, each with one item.

The induction carries a finer bound, the allowance of the key at hand. A list under a key is paid
for by a bracket right behind the key, which no part of the list can use again, and parts share out
the rest, since no key of the source belongs to two of them.
-/

namespace RequestBinding

/-! ## Shares of an allowance -/

namespace KeySource

variable {src : KeySource} {key : Key}

/-- What is allowed under a key is enough for all fields of a record. -/
theorem sum_allowance_fields_le (src : KeySource) {names : List String} (distinct : names.Nodup)
    (plain : ∀ name ∈ names, Key.Plain name.toList) :
    ((names.filterMap (src.partKey? key)).map src.allowance).sum ≤ src.allowance key := by
  have below : ∀ sub ∈ names.filterMap (src.partKey? key), Key.isPartOf sub key = true := by
    intro sub member
    obtain ⟨name, _, found⟩ := List.mem_filterMap.mp member
    exact isPartOf_of_partKey? found
  have apart : (names.filterMap (src.partKey? key)).Pairwise Key.Apart := by
    rw [List.pairwise_filterMap]
    refine distinct.imp_of_mem fun {a b} memberA memberB different subA foundA subB foundB => ?_
    obtain ⟨s, rfl⟩ := exists_spelled_of_partKey? foundA
    obtain ⟨t, rfl⟩ := exists_spelled_of_partKey? foundB
    exact Key.apart_spelled key s t (plain a memberA) (plain b memberB)
      fun same => different (String.toList_inj.mp same)
  have shares := src.sum_allowance_add_le below apart
  omega

/-- What is allowed under a key is enough for all entries of a map. -/
theorem sum_allowance_entries_le (src : KeySource) (key : Key) :
    ((Bracket.firsts [] ((src.brackets key).filterMap Bracket.mapKey?)).map
      fun p => src.allowance p.2).sum ≤ src.allowance key := by
  let parts := Bracket.firsts [] ((src.brackets key).filterMap Bracket.mapKey?)
  have named : ∀ p ∈ parts, ']' ∉ p.1 ∧ p.2 = key.bracketed p.1 := by
    intro p member
    obtain ⟨b, present, named⟩ := List.mem_filterMap.mp (Bracket.mem_of_mem_firsts member)
    obtain ⟨entry, _, read⟩ := List.mem_filterMap.mp present
    rcases Bracket.eq_of_read? read with ⟨_, rfl⟩ | ⟨inner, _, free, rfl⟩
    · cases named
    · rw [Bracket.mapKey?_ofName] at named
      cases named
      exact ⟨free, rfl⟩
  have bracketed : ∀ sub ∈ parts.map (·.2), ∃ label, ']' ∉ label ∧ sub = key.bracketed label := by
    intro sub member
    obtain ⟨p, present, rfl⟩ := List.mem_map.mp member
    exact ⟨p.1, named p present⟩
  have distinct : (parts.map (·.2)).Nodup := by
    have labels := List.pairwise_map.mp (Bracket.nodup_firsts []
      ((src.brackets key).filterMap Bracket.mapKey?)).1
    refine List.pairwise_map.mpr (labels.imp_of_mem fun {p q} memberP memberQ different same => ?_)
    rw [(named p memberP).2, (named q memberQ).2] at same
    exact different (Key.bracketed_injective same)
  have shares := src.sum_allowance_bracketed_le bracketed distinct
  rw [List.map_map] at shares
  exact Nat.le_trans (Nat.le_add_right _ _) shares

/-- The texts without an index are allowed for under the key with empty brackets. -/
theorem length_appended_le (src : KeySource) (key : Key) :
    (Sequence.appended (src.brackets key)).length ≤ src.allowance (key.bracketed []) := by
  unfold Sequence.appended brackets allowance family
  induction src.entries with
  | nil => exact Nat.zero_le _
  | cons e rest ih =>
    have more : (((rest.filter fun entry => Key.isWithin entry.1 (key.bracketed [])).map
        (src.entryAllowance (key.bracketed []))).sum ≤
        (((e :: rest).filter fun entry => Key.isWithin entry.1 (key.bracketed [])).map
          (src.entryAllowance (key.bracketed []))).sum) := by
      rw [List.filter_cons]
      split
      · rw [List.map_cons, List.sum_cons]
        exact Nat.le_add_left _ _
      · exact Nat.le_refl _
    cases read : Bracket.read? key e with
    | none =>
      rw [List.filterMap_cons_none read]
      exact Nat.le_trans ih more
    | some b =>
      rw [List.filterMap_cons_some read, List.flatMap_cons, List.length_append]
      rcases Bracket.eq_of_read? read with ⟨whole, rfl⟩ | ⟨inner, _, _, rfl⟩
      · have worth : e.2.length ≤ src.entryAllowance (key.bracketed []) e := Nat.le_add_left _ _
        have within : Key.isWithin e.1 (key.bracketed []) = true := by
          rw [whole]
          exact Key.isWithin_self _
        rw [List.filter_cons, if_pos within, List.map_cons, List.sum_cons]
        exact Nat.add_le_add worth ih
      · have silent : (Bracket.ofName key inner).appended = [] := by
          unfold Bracket.ofName
          split <;> rfl
        rw [silent, List.length_nil, Nat.zero_add]
        exact Nat.le_trans ih more

/-- A bracket behind the key allows for the places of a list. -/
theorem le_sum_places {b : Bracket} (member : b ∈ src.brackets key) :
    src.maxIndex + 1 ≤ ((src.family key).map (src.places key)).sum := by
  obtain ⟨entry, there, read⟩ := List.mem_filterMap.mp member
  have inFamily : entry ∈ src.family key := by
    have within := Key.isWithin_of_isPartOf (Bracket.isPartOf_of_read? read)
    exact List.mem_filter.mpr ⟨there, within⟩
  have opens : src.places key entry = src.maxIndex + 1 := by
    obtain ⟨inner, after, _, shape⟩ := Bracket.shape_of_read? read
    have lead : Text.dropLead? (key ++ ['[']) entry.1 = some (inner ++ ']' :: after) := by
      rw [Text.dropLead?_eq_some_iff, shape, Key.bracketed_append]
      simp
    rw [places, lead, Option.isSome_some, if_pos rfl]
  rw [← opens]
  exact List.le_sum_of_mem (List.mem_map_of_mem inFamily)

/-- A part of a list has digits between its brackets, and these tell its index. -/
theorem exists_digits_of_mem_partsWithin {limit : Nat} {p : Nat × Key}
    (member : p ∈ Sequence.partsWithin limit (src.brackets key)) :
    ∃ digits, digits ≠ [] ∧ ']' ∉ digits ∧ p.1 = Bracket.indexOf digits ∧
      p.2 = key.bracketed digits := by
  obtain ⟨b, present, index, _⟩ := Sequence.mem_of_mem_partsWithin member
  obtain ⟨entry, _, read⟩ := List.mem_filterMap.mp present
  rcases Bracket.eq_of_read? read with ⟨_, rfl⟩ | ⟨digits, inhabited, free, rfl⟩
  · cases index
  · exact ⟨digits, inhabited, free, Bracket.index?_ofName index⟩

/-- What is allowed under a key is enough for the places of a list, for the texts without an index
and for all parts with an index. -/
theorem sum_allowance_items_le (src : KeySource) (key : Key) :
    let parts := Sequence.partsWithin src.maxIndex (src.brackets key)
    (if parts.isEmpty then 0 else src.maxIndex + 1) +
        (Sequence.appended (src.brackets key)).length +
      (parts.map fun p => src.allowance p.2).sum ≤ src.allowance key := by
  intro parts
  have bracketed : ∀ sub ∈ key.bracketed [] :: parts.map (·.2),
      ∃ label, ']' ∉ label ∧ sub = key.bracketed label := by
    intro sub member
    rcases List.mem_cons.mp member with rfl | member
    · exact ⟨[], List.not_mem_nil, rfl⟩
    · obtain ⟨p, present, rfl⟩ := List.mem_map.mp member
      obtain ⟨digits, _, free, _, part⟩ := exists_digits_of_mem_partsWithin present
      exact ⟨digits, free, part⟩
  have distinct : (key.bracketed [] :: parts.map (·.2)).Nodup := by
    refine List.nodup_cons.mpr ⟨fun member => ?_, ?_⟩
    · obtain ⟨p, present, empty⟩ := List.mem_map.mp member
      obtain ⟨digits, inhabited, _, _, part⟩ := exists_digits_of_mem_partsWithin present
      exact inhabited (Key.bracketed_injective (part.symm.trans empty))
    · have indices : parts.Pairwise fun p q => p.1 ≠ q.1 :=
        List.pairwise_map.mp (Bracket.nodup_firsts [] _).1
      refine List.pairwise_map.mpr (indices.imp_of_mem ?_)
      intro p q memberP memberQ different same
      obtain ⟨digitsP, _, _, indexP, partP⟩ := exists_digits_of_mem_partsWithin memberP
      obtain ⟨digitsQ, _, _, indexQ, partQ⟩ := exists_digits_of_mem_partsWithin memberQ
      rw [partP, partQ] at same
      rw [indexP, indexQ, Key.bracketed_injective same] at different
      exact different rfl
  have placed : (if parts.isEmpty then 0 else src.maxIndex + 1) ≤
      ((src.family key).map (src.places key)).sum := by
    split
    · exact Nat.zero_le _
    · rename_i inhabited
      obtain ⟨p, present⟩ := List.exists_mem_of_ne_nil parts (mt List.isEmpty_iff.mpr inhabited)
      obtain ⟨b, member, _⟩ := Sequence.mem_of_mem_partsWithin present
      exact le_sum_places member
  have texts := src.length_appended_le key
  have shares := src.sum_allowance_bracketed_le bracketed distinct
  rw [List.map_cons, List.sum_cons, List.map_map, Function.comp_def] at shares
  omega

end KeySource

/-! ## Types whose lists are paid for -/

namespace WireType

/-- A type that values of another one are made of, in lists, maps and bound fields of records at any
depth. -/
inductive HasPart (recs : Records) : WireType → WireType → Prop
  | self (type : WireType) : HasPart recs type type
  | item {item part : WireType} (has : HasPart recs item part) : HasPart recs (.seq item) part
  | value {sorted : Bool} {keyType value part : WireType} (has : HasPart recs value part) :
    HasPart recs (.map sorted keyType value) part
  | option {inner part : WireType} (has : HasPart recs inner part) :
    HasPart recs (.option inner) part
  | box {inner part : WireType} (has : HasPart recs inner part) : HasPart recs (.box inner) part
  | field {ident : String} {r : Record} {leaf : Leaf} {part : WireType}
    (declared : recs.find? ident = some r) (member : leaf ∈ r.fields.leaves)
    (has : HasPart recs leaf.type part) : HasPart recs (.record ident) part

/-- A type without files, whose values have no items before anything is bound, and whose records
have fields that can be told apart. -/
structure Frugal (recs : Records) (type : WireType) : Prop where
  noFile : ∀ part, type.HasPart recs part → part.isFile = false
  bare : ∀ part, type.HasPart recs part → (part.zero recs).elements = 0
  bareInside : ∀ ident r, type.HasPart recs (.record ident) → recs.find? ident = some r →
    ∀ inner ∈ r.fields.flattenedIdents, ((WireType.record inner).zero recs).elements = 0
  distinct : ∀ ident r, type.HasPart recs (.record ident) → recs.find? ident = some r →
    r.fields.partNames.Nodup
  plain : ∀ ident r, type.HasPart recs (.record ident) → recs.find? ident = some r →
    ∀ name ∈ r.fields.partNames, Key.Plain name.toList

variable {recs : Records} {src : KeySource} {mode : Mode}

/-- Whatever is part of a part is part of the whole, so a part is as frugal. -/
theorem Frugal.mono {type inner : WireType} (frugal : type.Frugal recs)
    (below : ∀ part, inner.HasPart recs part → type.HasPart recs part) : inner.Frugal recs where
  noFile part has := frugal.noFile part (below part has)
  bare part has := frugal.bare part (below part has)
  bareInside ident r has := frugal.bareInside ident r (below _ has)
  distinct ident r has := frugal.distinct ident r (below _ has)
  plain ident r has := frugal.plain ident r (below _ has)

/-- What is found under a key has no more items than are allowed there. -/
def Bounded (recs : Records) (src : KeySource) (mode : Mode) (type : WireType) (key : Key) : Prop :=
  ∀ v, type.find recs src mode key = .ok (some v) → v.elements ≤ src.allowance key

/-- A value that the first text of the key holds has no items. -/
theorem bounded_of_text {type : WireType} {key : Key}
    (search : type.find recs src mode key =
      match src.firstValue? key with
      | none => .ok none
      | some raw => (type.ofRaw mode raw).map some) : Bounded recs src mode type key := by
  intro v found
  rw [search] at found
  split at found
  · cases found
  · obtain ⟨w, read, same⟩ := Except.map_eq_ok_iff.mp found
    cases same
    rw [elements_of_ofRaw read]
    exact Nat.zero_le _

/-- Where records are bounded under all keys from a length on, so are all types. -/
theorem bounded_of_records {floor : Nat}
    (records : ∀ ident key, floor ≤ key.length → (record ident).Frugal recs →
      Bounded recs src mode (.record ident) key)
    {type : WireType} (frugal : type.Frugal recs) {key : Key} (long : floor ≤ key.length) :
    Bounded recs src mode type key := by
  induction type generalizing key with
  | scalar s => exact bounded_of_text rfl
  | bytes => exact bounded_of_text rfl
  | body target => exact bounded_of_text rfl
  | file => cases frugal.noFile _ (.self _)
  | cookie =>
    intro v found
    obtain ⟨c, _, rfl⟩ := Option.map_eq_some_iff.mp (Except.ok.inj found)
    exact Nat.zero_le _
  | option inner ih =>
    intro v found
    rw [find_option] at found
    obtain ⟨w, search, same⟩ := Except.map_eq_ok_iff.mp found
    obtain ⟨u, rfl, rfl⟩ := Option.map_eq_some_iff.mp same
    exact ih (frugal.mono fun _ => .option) long u search
  | box inner ih => exact ih (frugal.mono fun _ => .box) long
  | record ident => exact records ident key long frugal
  | seq item ih =>
    intro v found
    have below : ∀ sub, Key.isPartOf sub key = true → Bounded recs src mode item sub := by
      intro sub part
      have longer := Key.length_lt_of_isPartOf part
      exact ih (frugal.mono fun _ => .item) (by omega)
    rw [find_seq, frugal.noFile item (.item (.self item)), if_neg Bool.false_ne_true] at found
    split at found
    · obtain ⟨items, read, same⟩ := Except.map_eq_ok_iff.mp found
      cases same
      obtain ⟨length, none⟩ := Sequence.ofTexts_elements read
      rw [Value.elements, length, none]
      exact src.length_values_le key
    · have bare := frugal.bare item (.item (.self item))
      refine Nat.le_trans (Sequence.assemble_elements bare found ?_)
        (src.sum_allowance_items_le key)
      intro p member w search
      obtain ⟨b, present, index, _⟩ := Sequence.mem_of_mem_partsWithin member
      obtain ⟨label, named⟩ := Bracket.mapKey?_of_index? index
      exact below p.2 (KeySource.isPartOf_of_bracket present named) w search
  | map sorted keyType value _ ih =>
    intro v found
    have below : ∀ sub, Key.isPartOf sub key = true → Bounded recs src mode value sub := by
      intro sub part
      have longer := Key.length_lt_of_isPartOf part
      exact ih (frugal.mono fun _ => .value) (by omega)
    rw [find_map] at found
    have bare := frugal.bare value (.value (.self value))
    refine Nat.le_trans (Mapping.assemble_elements bare found ?_) (src.sum_allowance_entries_le key)
    intro p member w search
    obtain ⟨b, present, named⟩ := List.mem_filterMap.mp (Bracket.mem_of_mem_firsts member)
    exact below p.2 (KeySource.isPartOf_of_bracket present named) w search

/-- Records are bounded under every key. The induction is on the characters by which keys of the
source can still grow. -/
theorem bounded_record {room : Nat} {ident : String} {key : Key}
    (frugal : (record ident).Frugal recs) (enough : src.longest + 1 ≤ room + key.length) :
    Bounded recs src mode (.record ident) key := by
  induction room generalizing ident key with
  | zero =>
    have bare : src.hasParts key = false := by
      rw [Bool.eq_false_iff]
      intro parts
      have bound := KeySource.length_lt_longest_of_hasParts parts
      omega
    intro v found
    rw [find_record, bare, if_neg Bool.false_ne_true] at found
    cases found
  | succ room ih =>
    intro v found
    rw [find_record] at found
    split at found
    · split at found
      · cases found
      · rename_i r declared
        obtain ⟨fields, bound, same⟩ := Except.map_eq_ok_iff.mp found
        cases same
        have below : ∀ leaf ∈ r.fields.leaves, ∀ sub, Key.isPartOf sub key = true →
            Bounded recs src mode leaf.type sub := by
          intro leaf member sub part
          have longer := Key.length_lt_of_isPartOf part
          have frugalLeaf := frugal.mono fun _ => .field declared member
          exact bounded_of_records
            (fun ident low long frugalLow => ih frugalLow (by omega)) frugalLeaf longer
        have zero : Value.itemsElements r.zero = 0 := by
          have bare := frugal.bare _ (.self (.record ident))
          rw [WireType.zero, Records.zeroOf, declared] at bare
          exact bare
        have inside := frugal.bareInside ident r (.self _) declared
        have counted := FieldTable.bindParts_elements bound zero inside below
        exact Nat.le_trans counted (src.sum_allowance_fields_le
          (frugal.distinct ident r (.self _) declared) (frugal.plain ident r (.self _) declared))
    · cases found

/-- The limit on indices bounds what a request can make of a value: all its lists together have at
most as many items as the opening brackets of the source pay for, a full list each, and the raw
texts, one item each. -/
theorem find_elements_le {type : WireType} {key : Key} {v : Value} (frugal : type.Frugal recs)
    (found : type.find recs src mode key = .ok (some v)) :
    v.elements ≤ (src.maxIndex + 1) * src.bracketCount + src.textCount := by
  have records : ∀ ident low, 0 ≤ low.length → (record ident).Frugal recs →
      Bounded recs src mode (.record ident) low :=
    fun _ _ _ frugalRecord => bounded_record frugalRecord (Nat.le_add_right _ _)
  calc v.elements ≤ src.allowance key := bounded_of_records records frugal (Nat.zero_le _) v found
    _ ≤ (src.maxIndex + 1) * src.bracketCount + src.textCount := src.allowance_le key

/-- A route of a number of stops. -/
def routes : Records :=
  Records.declare {} "Route" "Route"
    (.field (.annotated "stops" (.seq (.scalar (.int .int32))) "") .nil)

theorem frugal_routes : (seq (.record "Route")).Frugal routes := by
  have parts : ∀ part, (seq (.record "Route")).HasPart routes part →
      part = .seq (.record "Route") ∨ part = .record "Route" ∨
        part = .seq (.scalar (.int .int32)) ∨ part = .scalar (.int .int32) := by
    intro part has
    cases has with
    | self => exact Or.inl rfl
    | item has =>
      cases has with
      | self => exact Or.inr (Or.inl rfl)
      | field declared member has =>
        cases declared
        obtain rfl := List.mem_singleton.mp member
        cases has with
        | self => exact Or.inr (Or.inr (Or.inl rfl))
        | item has =>
          cases has with
          | self => exact Or.inr (Or.inr (Or.inr rfl))
  have named : ∀ ident r, (seq (.record "Route")).HasPart routes (.record ident) →
      routes.find? ident = some r →
        r.fields.flattenedIdents = [] ∧ r.fields.partNames = ["stops"] := by
    intro ident r has declared
    rcases parts _ has with other | same | other | other
    · cases other
    · cases same
      cases declared
      exact ⟨rfl, by decide +kernel⟩
    · cases other
    · cases other
  refine ⟨fun part has => ?_, fun part has => ?_, fun ident r has declared => ?_,
    fun ident r has declared => ?_, fun ident r has declared => ?_⟩
  · rcases parts part has with rfl | rfl | rfl | rfl <;> rfl
  · rcases parts part has with rfl | rfl | rfl | rfl <;> rfl
  · rw [(named ident r has declared).1]
    exact fun inner none => nomatch none
  · rw [(named ident r has declared).2]
    exact List.pairwise_singleton _ _
  · rw [(named ident r has declared).2]
    decide

/-- Two lists in one key: a list of two routes, the second of which has three stops. -/
theorem find_elements_le_routes :
    let src : KeySource := { entries := [("r[1].stops[2]".toList, ["7"])], maxIndex := 3 }
    ∃ v, (seq (.record "Route")).Frugal routes ∧
      (seq (.record "Route")).find routes src .strict "r".toList = .ok (some v) ∧
      v.elements = 5 ∧ v.elements ≤ (src.maxIndex + 1) * src.bracketCount + src.textCount := by
  intro src
  obtain ⟨v, found, items⟩ : ∃ v, (seq (.record "Route")).find routes src .strict "r".toList =
      .ok (some v) ∧ v.elements = 5 := ⟨_, rfl, rfl⟩
  exact ⟨v, frugal_routes, found, items, find_elements_le frugal_routes found⟩

end WireType

end RequestBinding
