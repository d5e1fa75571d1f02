import RequestBinding.Proofs.Convert.FinderLocality
import RequestBinding.Proofs.Convert.WrittenForm

/-!
# Putting parts together

What a list, a map and a record become when every one of their parts is found: a list has each item
in its place whatever the order of the indices (`Sequence.assemble_eq_ok`), a map has its entries
in the order of their keys (`Mapping.assemble_eq_ok`), and a record has the values of its bound
fields and its defaults elsewhere (`FieldTable.bindParts_eq_ok`). A part may be named by several
keys; only which parts are named matters, not how often or in which order.
-/

namespace RequestBinding

/-! ## First occurrences -/

namespace Bracket

variable {α : Type} [BEq α] [LawfulBEq α]

theorem nodup_firsts (seen : List α) (parts : List (α × Key)) :
    ((firsts seen parts).map (·.1)).Nodup ∧
      ∀ label ∈ (firsts seen parts).map (·.1), label ∉ seen := by
  induction parts generalizing seen with
  | nil => exact ⟨List.nodup_nil, fun _ member => nomatch member⟩
  | cons p rest ih =>
    unfold firsts
    split
    · exact ih seen
    · rename_i unseen
      have fresh : p.1 ∉ seen := fun member => unseen (List.contains_iff_mem.mpr member)
      obtain ⟨distinct, others⟩ := ih (p.1 :: seen)
      constructor
      · rw [List.map_cons, List.nodup_cons]
        exact ⟨fun member => others p.1 member List.mem_cons_self, distinct⟩
      · intro label member
        rcases List.mem_cons.mp member with rfl | later
        · exact fresh
        · exact fun old => others label later (List.mem_cons_of_mem _ old)

/-- Each label that occurs and has not been seen is among the first parts. -/
theorem exists_mem_firsts {seen : List α} {parts : List (α × Key)} {p : α × Key}
    (member : p ∈ parts) (fresh : p.1 ∉ seen) : ∃ part, (p.1, part) ∈ firsts seen parts := by
  induction parts generalizing seen with
  | nil => cases member
  | cons q rest ih =>
    unfold firsts
    by_cases same : p.1 = q.1
    · have unseen : seen.contains q.1 = false := by
        rw [← same, Bool.eq_false_iff]
        exact fun old => fresh (List.contains_iff_mem.mp old)
      rw [unseen, if_neg Bool.false_ne_true]
      exact ⟨q.2, same ▸ List.mem_cons_self⟩
    · have later : p ∈ rest := by
        rcases List.mem_cons.mp member with rfl | later
        · exact absurd rfl same
        · exact later
      split
      · exact ih later fresh
      · have freshStill : p.1 ∉ q.1 :: seen := by
          intro old
          rcases List.mem_cons.mp old with first | before
          · exact same first
          · exact fresh before
        obtain ⟨part, found⟩ := ih later freshStill
        exact ⟨part, List.mem_cons_of_mem _ found⟩

omit [BEq α] [LawfulBEq α] in
/-- Where no label occurs twice, a label determines its part. -/
theorem eq_of_label_eq {distinct : List (α × Key)} (nodup : (distinct.map (·.1)).Nodup)
    {p q : α × Key} (memberP : p ∈ distinct) (memberQ : q ∈ distinct) (same : p.1 = q.1) :
    p = q := by
  induction distinct with
  | nil => cases memberP
  | cons r rest ih =>
    rw [List.map_cons, List.nodup_cons] at nodup
    obtain ⟨fresh, nodupRest⟩ := nodup
    rcases List.mem_cons.mp memberP with rfl | laterP
    · rcases List.mem_cons.mp memberQ with rfl | laterQ
      · rfl
      · exact absurd (same ▸ List.mem_map_of_mem laterQ) fresh
    · rcases List.mem_cons.mp memberQ with rfl | laterQ
      · exact absurd (same ▸ List.mem_map_of_mem laterP) fresh
      · exact ih nodupRest laterP laterQ

omit [BEq α] [LawfulBEq α] in
theorem nodup_of_nodup_labels {parts : List (α × Key)} (nodup : (parts.map (·.1)).Nodup) :
    parts.Nodup :=
  (List.pairwise_map.mp nodup).imp fun different same => different (congrArg Prod.fst same)

/-- Parts that repeat a list of parts with different labels are that list once the repetitions are
left out, up to the order. -/
theorem firsts_perm {parts distinct : List (α × Key)} (same : ∀ p, p ∈ parts ↔ p ∈ distinct)
    (nodup : (distinct.map (·.1)).Nodup) : (firsts [] parts).Perm distinct := by
  have nodupFirsts := (nodup_firsts [] parts).1
  apply (List.perm_ext_iff_of_nodup (nodup_of_nodup_labels nodupFirsts)
    (nodup_of_nodup_labels nodup)).mpr
  intro p
  constructor
  · exact fun first => (same p).mp (mem_of_mem_firsts first)
  · intro member
    obtain ⟨part, found⟩ := exists_mem_firsts ((same p).mpr member) List.not_mem_nil
    have again := (same _).mp (mem_of_mem_firsts found)
    rw [← eq_of_label_eq nodup again member rfl]
    exact found

omit [BEq α] [LawfulBEq α] in
/-- Where each bracket is the bracket of something, what can be read off the brackets is what can
be read off these things. -/
theorem mem_filterMap_of_named {γ : Type} {brackets : List Bracket} {named : List γ}
    {bracket : γ → Bracket} {read : Bracket → Option α} {label : γ → α}
    (each : ∀ b, b ∈ brackets ↔ ∃ p ∈ named, b = bracket p)
    (reads : ∀ p, read (bracket p) = some (label p)) (q : α) :
    q ∈ brackets.filterMap read ↔ ∃ p ∈ named, q = label p := by
  rw [List.mem_filterMap]
  constructor
  · rintro ⟨b, present, found⟩
    obtain ⟨p, member, rfl⟩ := (each b).mp present
    rw [reads] at found
    exact ⟨p, member, (Option.some.inj found).symm⟩
  · rintro ⟨p, member, rfl⟩
    exact ⟨bracket p, (each _).mpr ⟨p, member, rfl⟩, reads p⟩

end Bracket

/-! ## Lists -/

namespace Sequence

/-- When the value of every part is found, all of them are collected in order. -/
theorem collect_eq_ok (mode : Mode) {find : Finder} {items : List Value} {parts : List (Nat × Key)}
    (found : ∀ p ∈ parts, ∃ v, items[p.1]? = some v ∧ find p.2 = .ok (some v)) :
    ∃ values, collect mode find parts = .ok values ∧ values.map (·.1) = parts.map (·.1) ∧
      ∀ q ∈ values, items[q.1]? = some q.2 := by
  induction parts with
  | nil => exact ⟨[], rfl, rfl, nofun⟩
  | cons p rest ih =>
    obtain ⟨v, item, value⟩ := found p List.mem_cons_self
    obtain ⟨values, collected, same, each⟩ :=
      ih fun q later => found q (List.mem_cons_of_mem p later)
    refine ⟨(p.1, v) :: values, ?_, ?_, List.forall_mem_cons.mpr ⟨item, each⟩⟩
    · simp only [collect, value, collected]
      rfl
    · rw [List.map_cons, List.map_cons, same]

theorem length_place (start : List Value) (found : List (Nat × Value)) :
    (place start found).length = start.length := by
  induction found generalizing start with
  | nil => rfl
  | cons q rest ih => exact (ih _).trans List.length_set

/-- Values that have their places in a list make that list when no place is left out. -/
theorem place_eq {items start : List Value} {found : List (Nat × Value)}
    (each : ∀ q ∈ found, items[q.1]? = some q.2) (length : start.length = items.length)
    (complete : ∀ i v, items[i]? = some v → start[i]? = some v ∨ i ∈ found.map (·.1)) :
    place start found = items := by
  induction found generalizing start with
  | nil =>
    apply List.ext_getElem?
    intro i
    cases present : items[i]? with
    | none =>
      show start[i]? = none
      rw [List.getElem?_eq_none_iff] at present ⊢
      omega
    | some v =>
      rcases complete i v present with placed | none
      · exact placed
      · cases none
  | cons q rest ih =>
    have item := each q List.mem_cons_self
    apply ih (fun r later => each r (List.mem_cons_of_mem q later))
      (by rw [List.length_set, length])
    intro i w present
    have bound : i < items.length := (List.getElem?_eq_some_iff.mp present).1
    by_cases own : q.1 = i
    · left
      rw [← own, List.getElem?_set_self (by omega)]
      rw [← own, item] at present
      exact present
    · rw [List.getElem?_set_ne own]
      rcases complete i w present with placed | member
      · exact Or.inl placed
      · rcases List.mem_cons.mp member with first | later
        · exact absurd first.symm own
        · exact Or.inr later

/-- Counting on from `m`, the places are the fewest that are at least `m` and hold every part. -/
theorem foldl_places_bounds (parts : List (Nat × Key)) (m : Nat) :
    m ≤ parts.foldl (fun n part => max n (part.1 + 1)) m ∧
      (∀ p ∈ parts, p.1 < parts.foldl (fun n part => max n (part.1 + 1)) m) ∧
      ∀ n, m ≤ n → (∀ p ∈ parts, p.1 < n) →
        parts.foldl (fun n part => max n (part.1 + 1)) m ≤ n := by
  induction parts generalizing m with
  | nil => exact ⟨Nat.le_refl m, fun _ none => absurd none List.not_mem_nil, fun n le _ => le⟩
  | cons q rest ih =>
    obtain ⟨above, each, least⟩ := ih (max m (q.1 + 1))
    rw [List.foldl_cons]
    refine ⟨?_, ?_, ?_⟩
    · omega
    · intro p member
      rcases List.mem_cons.mp member with rfl | later
      · omega
      · exact each p later
    · intro n le bound
      have first := bound q List.mem_cons_self
      have others := fun p (later : p ∈ rest) => bound p (List.mem_cons_of_mem q later)
      exact least n (by omega) others

theorem placesFor_bounds (parts : List (Nat × Key)) :
    (∀ p ∈ parts, p.1 < placesFor parts) ∧
      ∀ n, (∀ p ∈ parts, p.1 < n) → placesFor parts ≤ n := by
  obtain ⟨_, each, least⟩ := foldl_places_bounds parts 0
  exact ⟨each, fun n bound => least n (Nat.zero_le n) bound⟩

/-- A list is built from the parts of all its items, in whatever order they come. -/
theorem build_eq_ok {mode : Mode} {type : WireType} {zero : Value} {find : Finder}
    {items : List Value} {parts : List (Nat × Key)}
    (found : ∀ p ∈ parts, ∃ v, items[p.1]? = some v ∧ find p.2 = .ok (some v))
    (complete : ∀ i, i < items.length → ∃ part, (i, part) ∈ parts) :
    build mode type zero find parts [] = .ok items := by
  have length : placesFor parts = items.length := by
    obtain ⟨each, least⟩ := placesFor_bounds parts
    have upper : placesFor parts ≤ items.length := by
      apply least
      intro p member
      obtain ⟨v, item, _⟩ := found p member
      exact (List.getElem?_eq_some_iff.mp item).1
    have lower : ∀ i, i < items.length → i < placesFor parts := by
      intro i bound
      obtain ⟨part, member⟩ := complete i bound
      exact each (i, part) member
    have last := lower (items.length - 1)
    omega
  obtain ⟨values, collected, same, each⟩ := collect_eq_ok mode found
  have placed : place (List.replicate (placesFor parts) zero) values = items := by
    apply place_eq each (by rw [List.length_replicate, length])
    intro i v item
    obtain ⟨part, member⟩ := complete i (List.getElem?_eq_some_iff.mp item).1
    exact Or.inr (same ▸ List.mem_map_of_mem member)
  simp only [build, collected, append]
  exact congrArg Except.ok ((List.append_nil _).trans placed)

/-- Brackets that name the index of every item, and nothing else, make the list. -/
theorem assemble_eq_ok {mode : Mode} {type : WireType} {zero : Value} {find : Finder} {limit : Nat}
    {brackets : List Bracket} {items : List Value} (digits part : Nat → Key)
    (named : ∀ b, b ∈ brackets ↔ ∃ p ∈ items.zipIdx, b = .index p.2 (digits p.2) (part p.2))
    (inhabited : items ≠ []) (short : items.length ≤ limit + 1)
    (found : ∀ p ∈ items.zipIdx, find (part p.2) = .ok (some p.1)) :
    assemble mode type zero find limit brackets = .ok (some (.seq items)) := by
  have itemAt : ∀ {p : Value × Nat}, p ∈ items.zipIdx → items[p.2]? = some p.1 :=
    List.mem_zipIdx_iff_getElem?.mp
  have bound : ∀ {p : Value × Nat}, p ∈ items.zipIdx → p.2 < items.length :=
    fun member => (List.getElem?_eq_some_iff.mp (itemAt member)).1
  have indexed : ∀ q, q ∈ brackets.filterMap Bracket.index? ↔
      ∃ p ∈ items.zipIdx, q = (p.2, part p.2) :=
    Bracket.mem_filterMap_of_named named fun _ => rfl
  have within : tooLarge? limit brackets = none := by
    rw [tooLarge?, List.find?_eq_none]
    intro q present
    obtain ⟨p, member, rfl⟩ := (indexed q).mp present
    have small := bound member
    simp only [decide_eq_true_eq]
    omega
  have noTexts : appended brackets = [] := by
    rw [appended, List.flatMap_eq_nil_iff]
    intro b present
    obtain ⟨p, _, rfl⟩ := (named b).mp present
    rfl
  have values : ∀ q ∈ partsWithin limit brackets,
      ∃ v, items[q.1]? = some v ∧ find q.2 = .ok (some v) := by
    intro q member
    obtain ⟨b, present, index, _⟩ := mem_of_mem_partsWithin member
    obtain ⟨p, item, rfl⟩ := (indexed q).mp (List.mem_filterMap.mpr ⟨b, present, index⟩)
    exact ⟨p.1, itemAt item, found p item⟩
  have complete : ∀ i, i < items.length → ∃ part, (i, part) ∈ partsWithin limit brackets := by
    intro i small
    have item : (items[i], i) ∈ items.zipIdx :=
      List.mem_zipIdx_iff_getElem?.mpr (List.getElem?_eq_getElem small)
    have member : (i, part i) ∈
        (brackets.filterMap Bracket.index?).filter fun part => part.1 ≤ limit := by
      rw [List.mem_filter]
      refine ⟨(indexed _).mpr ⟨_, item, rfl⟩, ?_⟩
      simp only [decide_eq_true_eq]
      omega
    exact Bracket.exists_mem_firsts member List.not_mem_nil
  have nonempty : (partsWithin limit brackets).isEmpty = false := by
    obtain ⟨part, member⟩ := complete 0 (List.length_pos_iff.mpr inhabited)
    exact List.isEmpty_eq_false_iff.mpr (List.ne_nil_of_mem member)
  rw [assemble_of_tooLarge?_eq_none fun _ => within, noTexts, build_eq_ok values complete,
    nonempty]
  rfl

end Sequence

/-! ## Maps -/

namespace Mapping

/-- When every key is readable and every value is found, all entries are gathered in order. -/
theorem gather_eq_ok {mode : Mode} {keyType : WireType} {zero : Value} {find : Finder}
    {entries : List (Value × Value)} {part : Value × Value → Key × Key}
    (readable : ∀ p ∈ entries, keyType.ofRaw mode (String.ofList (part p).1) = .ok p.1)
    (found : ∀ p ∈ entries, find (part p).2 = .ok (some p.2)) :
    gather mode keyType zero find (entries.map part) = .ok entries := by
  induction entries with
  | nil => rfl
  | cons p rest ih =>
    have key := readable p List.mem_cons_self
    have value := found p List.mem_cons_self
    have others := ih (fun q later => readable q (List.mem_cons_of_mem p later))
      fun q later => found q (List.mem_cons_of_mem p later)
    simp only [List.map_cons, gather, key, value, others]
    rfl

/-- A list that rearranges an image is the image of a rearrangement. -/
theorem exists_perm_of_perm_map {α β : Type} {f : α → β} {l : List α} {m : List β}
    (perm : m.Perm (l.map f)) : ∃ l' : List α, l'.Perm l ∧ l'.map f = m := by
  induction m generalizing l with
  | nil =>
    have none : l = [] := List.map_eq_nil_iff.mp (List.nil_perm.mp perm)
    exact ⟨[], none ▸ .refl _, rfl⟩
  | cons b rest ih =>
    obtain ⟨a, member, rfl⟩ := List.mem_map.mp (perm.subset List.mem_cons_self)
    obtain ⟨before, after, rfl⟩ := List.append_of_mem member
    have moved : (f a :: rest).Perm (f a :: (before ++ after).map f) := by
      refine perm.trans ?_
      rw [List.map_append, List.map_cons, List.map_append]
      exact List.perm_middle
    obtain ⟨others, rearranged, image⟩ := ih moved.cons_inv
    refine ⟨a :: others, (rearranged.cons a).trans List.perm_middle.symm, ?_⟩
    rw [List.map_cons, image]

/-- Brackets that name every entry, and nothing else, make the map. -/
theorem assemble_eq_ok {mode : Mode} {keyType : WireType} {zero : Value} {find : Finder}
    {key : Key} {brackets : List Bracket} {entries : List (Value × Value)}
    {nameOf : Value × Value → Key}
    (named : ∀ b, b ∈ brackets ↔ ∃ p ∈ entries, b = Bracket.ofName key (nameOf p))
    (inhabited : entries ≠ []) (distinct : (entries.map nameOf).Nodup)
    (ascending : Value.Ascending entries)
    (readable : ∀ p ∈ entries, keyType.ofRaw mode (String.ofList (nameOf p)) = .ok p.1)
    (found : ∀ p ∈ entries, find (key.bracketed (nameOf p)) = .ok (some p.2)) :
    assemble mode keyType zero find brackets = .ok (some (.dict entries)) := by
  let part : Value × Value → Key × Key := fun p => (nameOf p, key.bracketed (nameOf p))
  have parts : ∀ q, q ∈ brackets.filterMap Bracket.mapKey? ↔ q ∈ entries.map part := by
    intro q
    have keyed := Bracket.mem_filterMap_of_named named
      (fun p => Bracket.mapKey?_ofName key (nameOf p)) q
    rw [keyed, List.mem_map]
    exact exists_congr fun _ => and_congr_right fun _ => eq_comm
  have labels : ((entries.map part).map (·.1)).Nodup := by
    rw [List.map_map]
    exact distinct
  obtain ⟨arrived, perm, keys⟩ := exists_perm_of_perm_map (Bracket.firsts_perm parts labels)
  have gathered : gather mode keyType zero find (arrived.map part) = .ok arrived :=
    gather_eq_ok (fun p member => readable p (perm.mem_iff.mp member))
      fun p member => found p (perm.mem_iff.mp member)
  have nonempty : arrived.isEmpty = false := by
    rw [List.isEmpty_eq_false_iff]
    rintro rfl
    exact inhabited (List.nil_perm.mp perm)
  simp only [assemble, ← keys, gathered]
  show Except.ok (if arrived.isEmpty then none else some (Value.ofEntries arrived)) = _
  rw [nonempty, if_neg Bool.false_ne_true, Value.ofEntries_of_perm perm ascending]

end Mapping

/-! ## Records -/

namespace KeySource

/-- When the entries that address a part all address it in one spelling, it is found in that
spelling. -/
theorem partKey?_eq_some {src : KeySource} {key : Key} {part : String} {s : Key.Spelling}
    (only : ∀ entry ∈ src.family key, ∀ t,
      Key.isWithin entry.1 (key.spelled t part.toList) = true → t = s)
    (present : ∃ entry ∈ src.family key,
      Key.isWithin entry.1 (key.spelled s part.toList) = true) :
    src.partKey? key part = some (key.spelled s part.toList) := by
  have candidate : ∀ t : Key.Spelling,
      key.spelled t part.toList ∈ [key.dotted part.toList, key.bracketed part.toList] := by
    intro t
    cases t with
    | dotted => exact List.mem_cons_self
    | bracketed => exact List.mem_cons_of_mem _ List.mem_cons_self
  have spelling : ∀ sub ∈ [key.dotted part.toList, key.bracketed part.toList],
      ∃ t : Key.Spelling, sub = key.spelled t part.toList := by
    intro sub member
    simp only [List.mem_cons, List.not_mem_nil, or_false] at member
    rcases member with rfl | rfl
    · exact ⟨.dotted, rfl⟩
    · exact ⟨.bracketed, rfl⟩
  rw [partKey?_eq_family]
  cases search : (src.family key).findSome? fun entry =>
      addressed? [key.dotted part.toList, key.bracketed part.toList] entry.1 with
  | none =>
    obtain ⟨entry, member, within⟩ := present
    have missed := List.findSome?_eq_none_iff.mp search entry member
    exact absurd within (List.find?_eq_none.mp missed _ (candidate s))
  | some sub =>
    obtain ⟨entry, member, found⟩ := List.exists_of_findSome?_eq_some search
    obtain ⟨among, within⟩ := addressed?_eq_some found
    obtain ⟨t, rfl⟩ := spelling sub among
    rw [only entry member t within]

end KeySource

/-- When the value of every bound field is found, a record that starts from its defaults becomes
the record with these values. -/
theorem FieldTable.bindParts_eq_ok {recs : Records} {src : KeySource} {find : WireType → Finder}
    {key : Key} {table : FieldTable} {zero fields : List Value}
    (keeps : table.Keeps recs zero fields)
    (found : ∀ b ∈ table.boundFields fields, ∃ sub,
      src.partKey? key b.name = some sub ∧ find b.type sub = .ok (some b.value)) :
    table.bindParts recs src find key zero = .ok fields := by
  induction table generalizing zero fields with
  | nil =>
    obtain ⟨rfl, rfl⟩ := keeps.of_nil
    rfl
  | field f rest ih =>
    obtain ⟨z, zeros, v, values, rfl, rfl, kept, keepsRest⟩ := keeps.of_field
    unfold boundFields at found
    unfold Field.boundType? at kept
    unfold bindParts Field.bindWithin
    cases role : f.role with
    | bound type =>
      rw [role] at found
      obtain ⟨sub, present, value⟩ := found _ List.mem_cons_self
      have others := ih keepsRest fun b later => found b (List.mem_cons_of_mem _ later)
      simp only [bindPart, present, value, others]
      rfl
    | unbound type? =>
      rw [role] at found kept
      simp only [ih keepsRest found, kept rfl]
      rfl
  | flattened name ident inner rest ihInner ihRest =>
    obtain ⟨z, zeros, inside, values, rfl, rfl, keepsInner, keepsRest⟩ := keeps.of_flattened
    unfold boundFields at found
    have own := ihInner keepsInner fun b member => found b (List.mem_append_left _ member)
    have others := ihRest keepsRest fun b member => found b (List.mem_append_right _ member)
    simp only [bindParts, own, others]
    rfl

end RequestBinding
