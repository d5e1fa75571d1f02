import RequestBinding.Proofs.Source.KeyFamily
import RequestBinding.Record.Path

/-!
# A value depends on the family of its key alone

Looking for a value rescans the whole source with a longer key for every list item, map entry and
record field. This module shows that none of these searches leaves the family of the key it began
with: each step of the search is a congruence in the finder that it passes on
(`Sequence.assemble_congr`, `Mapping.assemble_congr`, `FieldTable.bindParts_congr`), which is only
ever asked about parts of the key at hand.

* `WireType.find_eq_of_agreeOn`: sources that agree on the family of a key give the same outcome.
* `WireType.findWith_findAt`: the bound on the depth of nested records is never reached, so a
  search with more room than the keys of the source leave finds the same.
* `WireType.find_record`, `WireType.find_seq`, `WireType.find_map` and the others: the equations
  of the search without that bound.
-/

namespace RequestBinding

/-- The key of a part that the brackets of a source name is a part of the key. -/
theorem KeySource.isPartOf_of_bracket {src : KeySource} {key label part : Key} {b : Bracket}
    (member : b ∈ src.brackets key) (named : b.mapKey? = some (label, part)) :
    Key.isPartOf part key = true := by
  obtain ⟨entry, _, read⟩ := List.mem_filterMap.mp member
  exact Bracket.isPartOf_of_mapKey? read named

/-! ## Lists -/

namespace Sequence

theorem mem_of_mem_partsWithin {limit : Nat} {brackets : List Bracket} {p : Nat × Key}
    (member : p ∈ partsWithin limit brackets) :
    ∃ b ∈ brackets, b.index? = some p ∧ p.1 ≤ limit := by
  have among := Bracket.mem_of_mem_firsts member
  rw [List.mem_filter, List.mem_filterMap] at among
  obtain ⟨⟨b, present, index⟩, within⟩ := among
  exact ⟨b, present, index, of_decide_eq_true within⟩

theorem collect_congr {mode : Mode} {f g : Finder} {parts : List (Nat × Key)}
    (same : ∀ p ∈ parts, f p.2 = g p.2) : collect mode f parts = collect mode g parts := by
  induction parts with
  | nil => rfl
  | cons p rest ih =>
    have head : f p.2 = g p.2 := same p List.mem_cons_self
    have tail := ih fun q member => same q (List.mem_cons_of_mem p member)
    simp only [collect, head, tail]

/-- A list that is put together asks its finder about the keys of its parts alone. -/
theorem assemble_congr {mode : Mode} {type : WireType} {zero : Value} {f g : Finder} {limit : Nat}
    {brackets : List Bracket}
    (same : ∀ b ∈ brackets, ∀ n part, b.index? = some (n, part) → f part = g part) :
    assemble mode type zero f limit brackets = assemble mode type zero g limit brackets := by
  have parts : ∀ p ∈ partsWithin limit brackets, f p.2 = g p.2 := by
    intro p member
    obtain ⟨b, present, index, _⟩ := mem_of_mem_partsWithin member
    exact same b present p.1 p.2 index
  simp only [assemble, build, collect_congr parts]

/-- Unless an index above the limit is an error, a list is put together from the parts within the
limit. -/
theorem assemble_of_tooLarge?_eq_none {mode : Mode} {type : WireType} {zero : Value} {f : Finder}
    {limit : Nat} {brackets : List Bracket}
    (within : mode = .strict → tooLarge? limit brackets = none) :
    assemble mode type zero f limit brackets =
      if (partsWithin limit brackets).isEmpty && (appended brackets).isEmpty then .ok none
      else (build mode type zero f (partsWithin limit brackets) (appended brackets)).map
        (some ∘ .seq) := by
  unfold assemble
  cases mode with
  | strict => rw [within rfl]
  | lenient => rfl

end Sequence

/-! ## Maps -/

namespace Mapping

theorem gather_congr {mode : Mode} {keyType : WireType} {zero : Value} {f g : Finder}
    {keys : List (Key × Key)} (same : ∀ p ∈ keys, f p.2 = g p.2) :
    gather mode keyType zero f keys = gather mode keyType zero g keys := by
  induction keys with
  | nil => rfl
  | cons p rest ih =>
    have head : f p.2 = g p.2 := same p List.mem_cons_self
    have tail := ih fun q member => same q (List.mem_cons_of_mem p member)
    simp only [gather, head, tail]

/-- A map that is put together asks its finder about the keys of its parts alone. -/
theorem assemble_congr {mode : Mode} {keyType : WireType} {zero : Value} {f g : Finder}
    {brackets : List Bracket}
    (same : ∀ b ∈ brackets, ∀ label part, b.mapKey? = some (label, part) → f part = g part) :
    assemble mode keyType zero f brackets = assemble mode keyType zero g brackets := by
  have parts : ∀ p ∈ Bracket.firsts [] (brackets.filterMap Bracket.mapKey?), f p.2 = g p.2 := by
    intro p member
    obtain ⟨b, present, named⟩ := List.mem_filterMap.mp (Bracket.mem_of_mem_firsts member)
    exact same b present p.1 p.2 named
  simp only [assemble, gather_congr parts]

end Mapping

/-! ## Records -/

/-- The fields of a record look for their values under their names alone: two sources that have the
same there, and finders that find the same, bind the same. -/
theorem FieldTable.bindParts_congr_of_names (recs : Records) {src src' : KeySource} {key : Key}
    {f g : WireType → Finder} {table : FieldTable} (lead : FieldPath) (index : Nat)
    (chosen : ∀ leaf ∈ table.leavesFrom lead index,
      src.partKey? key leaf.field.partName = src'.partKey? key leaf.field.partName)
    (same : ∀ leaf ∈ table.leavesFrom lead index, ∀ sub,
      src.partKey? key leaf.field.partName = some sub → f leaf.type sub = g leaf.type sub)
    (current : List Value) :
    table.bindParts recs src f key current = table.bindParts recs src' g key current := by
  induction table generalizing lead index current with
  | nil => cases current <;> rfl
  | field own rest ih =>
    cases current with
    | nil => rfl
    | cons v values =>
      unfold leavesFrom at chosen same
      cases role : own.role with
      | unbound type? =>
        rw [role] at chosen same
        simp only [bindParts, Field.bindWithin, role, ih lead (index + 1) chosen same]
      | bound type =>
        rw [role] at chosen same
        obtain ⟨chosenOwn, chosenRest⟩ := List.forall_mem_cons.mp chosen
        obtain ⟨sameOwn, sameRest⟩ := List.forall_mem_cons.mp same
        have bound : bindPart src (f type) key own.partName v =
            bindPart src' (g type) key own.partName v := by
          simp only [bindPart, ← chosenOwn]
          cases found : src.partKey? key own.partName with
          | none => rfl
          | some sub => simp only [sameOwn sub found]
        simp only [bindParts, Field.bindWithin, role, bound,
          ih lead (index + 1) chosenRest sameRest]
  | flattened name ident inner rest ihInner ihRest =>
    cases current with
    | nil => rfl
    | cons v values =>
      unfold leavesFrom at chosen same
      obtain ⟨chosenInner, chosenRest⟩ := List.forall_mem_append.mp chosen
      obtain ⟨sameInner, sameRest⟩ := List.forall_mem_append.mp same
      simp only [bindParts, ihInner _ _ chosenInner sameInner, ihRest _ _ chosenRest sameRest]

/-- The fields of a record ask their finders about parts of the record's key alone. -/
theorem FieldTable.bindParts_congr (recs : Records) {src src' : KeySource} {key : Key}
    {f g : WireType → Finder} (parts : ∀ part, src.partKey? key part = src'.partKey? key part)
    (same : ∀ type sub, Key.isPartOf sub key = true → f type sub = g type sub)
    (table : FieldTable) (current : List Value) :
    table.bindParts recs src f key current = table.bindParts recs src' g key current := by
  apply bindParts_congr_of_names recs [] 0
  · exact fun leaf _ => parts leaf.field.partName
  · exact fun leaf _ sub found => same leaf.type sub (KeySource.isPartOf_of_partKey? found)

/-! ## All types -/

/-- The search for a value depends on the family of its key and on what the records at the key
and below it are found to be. -/
theorem WireType.findWith_congr {recs : Records} {src src' : KeySource} {mode : Mode}
    {record record' : String → Finder} (type : WireType) {key : Key}
    (agree : KeySource.AgreeOn key src src')
    (same : ∀ ident sub, Key.isWithin sub key = true → record ident sub = record' ident sub) :
    type.findWith recs src mode record key = type.findWith recs src' mode record' key := by
  induction type generalizing key with
  | scalar s => simp only [findWith, KeySource.firstValue?, agree.values]
  | bytes => simp only [findWith, KeySource.firstValue?, agree.values]
  | body target => simp only [findWith, KeySource.firstValue?, agree.values]
  | file => simp only [findWith, KeySource.filesAt, agree.files]
  | cookie => simp only [findWith, KeySource.cookie?, agree.cookies]
  | option inner ih => simp only [findWith, ih agree same]
  | box inner ih => simp only [findWith, ih agree same]
  | record ident => exact same ident key (Key.isWithin_self key)
  | seq item ih =>
    have below : ∀ sub, Key.isPartOf sub key = true →
        item.findWith recs src mode record sub = item.findWith recs src' mode record' sub := by
      intro sub part
      have within := Key.isWithin_of_isPartOf part
      exact ih (agree.mono within) fun ident low deeper =>
        same ident low (Key.isWithin_trans deeper within)
    have assembled : Sequence.assemble mode item (item.zero recs)
          (item.findWith recs src mode record) src.maxIndex (src.brackets key) =
        Sequence.assemble mode item (item.zero recs)
          (item.findWith recs src' mode record') src'.maxIndex (src'.brackets key) := by
      rw [← agree.maxIndex, ← agree.brackets]
      apply Sequence.assemble_congr
      intro b member n part index
      obtain ⟨label, named⟩ := Bracket.mapKey?_of_index? index
      exact below part (KeySource.isPartOf_of_bracket member named)
    rw [findWith, findWith, assembled, agree.values, KeySource.filesAt, agree.files]
    rfl
  | map sorted keyType value _ ih =>
    have below : ∀ sub, Key.isPartOf sub key = true →
        value.findWith recs src mode record sub = value.findWith recs src' mode record' sub := by
      intro sub part
      have within := Key.isWithin_of_isPartOf part
      exact ih (agree.mono within) fun ident low deeper =>
        same ident low (Key.isWithin_trans deeper within)
    rw [findWith, findWith, ← agree.brackets]
    apply Mapping.assemble_congr
    intro b member label part named
    exact below part (KeySource.isPartOf_of_bracket member named)

/-- With room for all the keys of a source, the search for a record depends on the family of its
key alone. The induction is on the room: below a record keys are longer, so less room will do. -/
theorem Record.findAt_congr {recs : Records} {src src' : KeySource} {mode : Mode}
    {room room' : Nat} {ident : String} {key : Key} (agree : KeySource.AgreeOn key src src')
    (enough : src.longest + 1 ≤ room + key.length)
    (enough' : src'.longest + 1 ≤ room' + key.length) :
    findAt recs src mode room ident key = findAt recs src' mode room' ident key := by
  induction room generalizing room' ident key with
  | zero =>
    have bare : src.hasParts key = false := by
      rw [Bool.eq_false_iff]
      intro parts
      have bound := KeySource.length_lt_longest_of_hasParts parts
      omega
    cases room' with
    | zero => rfl
    | succ room' => rw [findAt, findAt, ← agree.hasParts, bare, if_neg Bool.false_ne_true]
  | succ room ih =>
    cases parts : src.hasParts key with
    | false =>
      cases room' with
      | zero => rw [findAt, findAt, parts, if_neg Bool.false_ne_true]
      | succ room' =>
        rw [findAt, findAt, ← agree.hasParts, parts, if_neg Bool.false_ne_true,
          if_neg Bool.false_ne_true]
    | true =>
      have bound := KeySource.length_lt_longest_of_hasParts (agree.hasParts.symm.trans parts)
      cases room' with
      | zero => omega
      | succ room' =>
        have below : ∀ type sub, Key.isPartOf sub key = true →
            WireType.findWith recs src mode (findAt recs src mode room) type sub =
              WireType.findWith recs src' mode (findAt recs src' mode room') type sub := by
          intro type sub part
          have longer := Key.length_lt_of_isPartOf part
          apply WireType.findWith_congr type (agree.mono (Key.isWithin_of_isPartOf part))
          intro ident low deeper
          have lower := Key.isPartOf_of_isWithin deeper part
          have longest := Key.length_lt_of_isPartOf lower
          exact ih (agree.mono (Key.isWithin_of_isPartOf lower)) (by omega) (by omega)
        have fields := fun r : Record =>
          FieldTable.bindParts_congr recs agree.partKey? below r.fields r.zero
        rw [findAt, findAt, ← agree.hasParts, parts]
        simp only [fields]

/-- A record of two coordinates. -/
def Records.points : Records :=
  Records.declare {} "Point" "Point"
    (.field (.annotated "x" (.scalar (.int .int32)) "")
      (.field (.annotated "y" (.scalar (.int .int32)) "") .nil))

/-! ## The search without its bound -/

namespace WireType

variable {recs : Records} {src src' : KeySource} {mode : Mode}

theorem findWith_findAt_congr {room room' : Nat} (type : WireType) {key : Key}
    (agree : KeySource.AgreeOn key src src') (enough : src.longest + 1 ≤ room + key.length)
    (enough' : src'.longest + 1 ≤ room' + key.length) :
    type.findWith recs src mode (Record.findAt recs src mode room) key =
      type.findWith recs src' mode (Record.findAt recs src' mode room') key := by
  apply findWith_congr type agree
  intro ident sub within
  have longer := Key.length_le_of_isWithin within
  exact Record.findAt_congr (agree.mono within) (by omega) (by omega)

/-- More room than the keys of the source leave changes nothing. -/
theorem findWith_findAt {room : Nat} (type : WireType) {key : Key}
    (enough : src.longest + 1 ≤ room + key.length) :
    type.findWith recs src mode (Record.findAt recs src mode room) key =
      type.find recs src mode key :=
  findWith_findAt_congr type (.refl key src) enough (by omega)

/-- Below a key the bound that was made for the key itself is as good as any. -/
theorem findWith_below {key sub : Key} (type : WireType) (part : Key.isPartOf sub key = true) :
    type.findWith recs src mode (Record.findAt recs src mode (src.longest + 1 - key.length)) sub =
      type.find recs src mode sub := by
  have longer := Key.length_lt_of_isPartOf part
  exact findWith_findAt type (by omega)

@[simp] theorem find_scalar (s : Scalar) (key : Key) :
    (scalar s).find recs src mode key =
      match src.firstValue? key with
      | none => .ok none
      | some raw => (s.ofRaw mode raw).map some := rfl

@[simp] theorem find_option (inner : WireType) (key : Key) :
    (option inner).find recs src mode key =
      (inner.find recs src mode key).map (·.map .present) := rfl

@[simp] theorem find_box (inner : WireType) (key : Key) :
    (box inner).find recs src mode key = inner.find recs src mode key := rfl

theorem find_seq (item : WireType) (key : Key) :
    (seq item).find recs src mode key =
      if item.isFile then
        .ok (if (src.filesAt key).isEmpty then none else some (.seq ((src.filesAt key).map .file)))
      else if item.isFlat && !(src.values key).isEmpty then
        (Sequence.ofTexts mode item (src.values key)).map (some ∘ .seq)
      else
        Sequence.assemble mode item (item.zero recs) (item.find recs src mode) src.maxIndex
          (src.brackets key) := by
  have assembled : Sequence.assemble mode item (item.zero recs)
        (item.findWith recs src mode
          (Record.findAt recs src mode (src.longest + 1 - key.length)))
        src.maxIndex (src.brackets key) =
      Sequence.assemble mode item (item.zero recs) (item.find recs src mode) src.maxIndex
        (src.brackets key) := by
    apply Sequence.assemble_congr
    intro b member n part index
    obtain ⟨label, named⟩ := Bracket.mapKey?_of_index? index
    exact findWith_below item (KeySource.isPartOf_of_bracket member named)
  rw [find, findWith, assembled]

theorem find_map (sorted : Bool) (keyType value : WireType) (key : Key) :
    (map sorted keyType value).find recs src mode key =
      Mapping.assemble mode keyType (value.zero recs) (value.find recs src mode)
        (src.brackets key) := by
  rw [find, findWith]
  apply Mapping.assemble_congr
  intro b member label part named
  exact findWith_below value (KeySource.isPartOf_of_bracket member named)

theorem find_record (ident : String) (key : Key) :
    (record ident).find recs src mode key =
      if src.hasParts key then
        match recs.find? ident with
        | none => .ok none
        | some r =>
          (r.fields.bindParts recs src (WireType.find recs src mode) key r.zero).map
            (some ∘ .record)
      else .ok none := by
  cases parts : src.hasParts key with
  | false =>
    rw [find, findWith]
    cases src.longest + 1 - key.length with
    | zero => rfl
    | succ room =>
      rw [Record.findAt, parts, if_neg Bool.false_ne_true, if_neg Bool.false_ne_true]
  | true =>
    have bound := KeySource.length_lt_longest_of_hasParts parts
    obtain ⟨room, spare⟩ : ∃ room, src.longest + 1 - key.length = room + 1 :=
      ⟨src.longest - key.length, by omega⟩
    have below : ∀ (type : WireType) (sub : Key), Key.isPartOf sub key = true →
        type.findWith recs src mode (Record.findAt recs src mode room) sub =
          type.find recs src mode sub := by
      intro type sub part
      have longer := Key.length_lt_of_isPartOf part
      exact findWith_findAt type (by omega)
    have fields := fun r : Record =>
      FieldTable.bindParts_congr recs (fun part => Eq.refl (src.partKey? key part)) below
        r.fields r.zero
    rw [find, findWith, spare, Record.findAt, parts, if_pos rfl, if_pos rfl]
    cases recs.find? ident with
    | none => rfl
    | some r => simp only [fields]

/-- Whatever a source holds besides the family of a key, and however the family is interleaved with
it, the value under the key is the same: present, absent or an error. -/
theorem find_eq_of_family_eq (type : WireType) (key : Key)
    (family : src.family key = src'.family key) (files : src.files = src'.files)
    (cookies : src.cookies = src'.cookies) (limit : src.maxIndex = src'.maxIndex) :
    type.find recs src mode key = type.find recs src' mode key :=
  findWith_findAt_congr type ⟨family, files, cookies, limit⟩ (by omega) (by omega)

/-- Keys that begin with the same letter, or hold the key further back, are strangers to it. -/
theorem find_points_among_strangers :
    let src : KeySource :=
      { entries := [("p[0].x".toList, ["1"]), ("px".toList, ["9"]), ("p[1][y]".toList, ["2"])],
        maxIndex := 4 }
    let src' : KeySource :=
      { entries := [("q.p[0].x".toList, ["7"]), ("p[0].x".toList, ["1"]),
          ("p[1][y]".toList, ["2"]), ("pp[0].y".toList, ["3"])],
        maxIndex := 4 }
    src.family "p".toList = src'.family "p".toList ∧
      (seq (.record "Point")).find .points src .strict "p".toList =
        (seq (.record "Point")).find .points src' .strict "p".toList ∧
      (seq (.record "Point")).find .points src' .strict "p".toList =
        .ok (some (.seq [.record [.int 1, .int 0], .record [.int 0, .int 2]])) :=
  ⟨rfl, find_eq_of_family_eq _ _ rfl rfl rfl rfl, rfl⟩

end WireType

end RequestBinding
