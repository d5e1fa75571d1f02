import RequestBinding.Proofs.Convert.Assembly

/-!
# Decoding undoes encoding

Whatever order the pairs of an addressable value arrive in, the value is found under its key again
(`Value.Addressable.find_of_perm`). The induction is on the value and holds for every key and every
source whose family of the key consists of the pairs (`Value.Addressable.find_of_holds`): the
family of each part is then made of the pairs of the part, so the parts are found, and
`Sequence.assemble_eq_ok`, `Mapping.assemble_eq_ok` and `FieldTable.bindParts_eq_ok` put them
together.
-/

namespace RequestBinding

/-- Polygons with a name, which stands in a flattened record, and a list of corners. -/
def Records.polygons : Records :=
  let named : FieldTable :=
    .field (.annotated "name" (.scalar .text) "") (.field (.plain "id" (.scalar .text)) .nil)
  (Records.points.declare "Named" "Named" named).declare "Polygon" "Polygon"
    (.flattened "named" "Named" named
      (.field (.annotated "corners" (.seq (.record "Point")) "") .nil))

namespace Value

variable {recs : Records} {limit : Nat} {src : KeySource} {mode : Mode}

theorem Addressable.isFile_eq_false {type : WireType} {v : Value}
    (addressable : v.Addressable recs limit type) : type.isFile = false := by
  cases addressable <;> rfl

/-- An index is read back from the bracket that names it. -/
theorem ofName_toDigits {n : Nat} (fits : n ≤ wordMax) (key : Key) :
    Bracket.ofName key (Nat.toDigits 10 n) =
      .index n (Nat.toDigits 10 n) (key.bracketed (Nat.toDigits 10 n)) := by
  have digits : (Nat.toDigits 10 n).all Text.isDigit = true :=
    List.all_eq_true.mpr fun c => Numeral.isDigit_of_mem_toDigits
  rw [Bracket.ofName, if_pos digits, Bracket.indexOf, Numeral.readWord?_toDigits fits,
    Option.getD_some]

/-- A list whose items are found is found. -/
theorem find_seq_of_holds {item : WireType} {items : List Value} {key : Key}
    {pairs : Value × Nat → List (Key × String)}
    (holds : src.Holds key (items.zipIdx.flatMap pairs))
    (under : PartsUnder key items.zipIdx (fun p => key.bracketed (Nat.toDigits 10 p.2)) pairs)
    (noFile : item.isFile = false) (inhabited : items ≠ [])
    (short : items.length ≤ src.maxIndex + 1) (fits : src.maxIndex ≤ wordMax)
    (found : ∀ p ∈ items.zipIdx,
      item.find recs src mode (key.bracketed (Nat.toDigits 10 p.2)) = .ok (some p.1)) :
    (WireType.seq item).find recs src mode key = .ok (some (.seq items)) := by
  have bracket : ∀ p ∈ items.zipIdx, Bracket.ofName key (Nat.toDigits 10 p.2) =
      .index p.2 (Nat.toDigits 10 p.2) (key.bracketed (Nat.toDigits 10 p.2)) := by
    intro p member
    have item := List.mem_zipIdx_iff_getElem?.mp member
    have bound := (List.getElem?_eq_some_iff.mp item).1
    exact ofName_toDigits (by omega) key
  have named : ∀ b, b ∈ src.brackets key ↔ ∃ p ∈ items.zipIdx,
      b = .index p.2 (Nat.toDigits 10 p.2) (key.bracketed (Nat.toDigits 10 p.2)) := by
    intro b
    rw [holds.mem_brackets_iff under (fun p _ => Nat.toDigits_ne_nil)
      fun p _ => unclosed_toDigits p.2]
    constructor
    · rintro ⟨p, member, rfl⟩
      exact ⟨p, member, bracket p member⟩
    · rintro ⟨p, member, rfl⟩
      exact ⟨p, member, (bracket p member).symm⟩
  rw [WireType.find_seq, noFile, if_neg Bool.false_ne_true, holds.values_eq_nil under,
    List.isEmpty_nil, Bool.not_true, Bool.and_false, if_neg Bool.false_ne_true]
  exact Sequence.assemble_eq_ok (Nat.toDigits 10) (fun n => key.bracketed (Nat.toDigits 10 n)) named
    inhabited short found

/-- A map whose entries are found is found. -/
theorem find_map_of_holds {sorted : Bool} {keyType value : WireType}
    {entries : List (Value × Value)} {key : Key} {pairs : Value × Value → List (Key × String)}
    (holds : src.Holds key (entries.flatMap pairs))
    (under : PartsUnder key entries (fun p => key.bracketed p.1.entryName) pairs)
    (ascending : Ascending entries) (named : ∀ p ∈ entries, NamesEntry keyType p.1)
    (found : ∀ p ∈ entries,
      value.find recs src mode (key.bracketed p.1.entryName) = .ok (some p.2)) :
    (WireType.map sorted keyType value).find recs src mode key = .ok (some (.dict entries)) := by
  have brackets : ∀ b, b ∈ src.brackets key ↔
      ∃ p ∈ entries, b = Bracket.ofName key p.1.entryName :=
    fun b => holds.mem_brackets_iff under (fun p member => (named p member).inhabited)
      fun p member => (named p member).unclosed
  have distinct : (entries.map fun p => p.1.entryName).Nodup := by
    rw [List.Nodup, List.pairwise_map]
    apply ascending.imp_of_mem
    intro p q memberP memberQ below same
    rw [(named p memberP).entryName_injective (named q memberQ) same, keyLt_irrefl] at below
    cases below
  rw [WireType.find_map]
  exact Mapping.assemble_eq_ok brackets under.inhabited distinct ascending
    (fun p member => (named p member).ofRaw_entryName mode) found

/-- A record whose bound fields are found is found. -/
theorem find_record_of_holds {ident : String} {r : Record} {fields : List Value} {key : Key}
    {spell : Key → String → Key.Spelling} {pairs : BoundField → List (Key × String)}
    (holds : src.Holds key ((r.fields.boundFields fields).flatMap pairs))
    (under : PartsUnder key (r.fields.boundFields fields) (fun b => b.keyIn spell key) pairs)
    (declared : recs.find? ident = some r) (distinguished : r.fields.Distinguished)
    (keeps : r.fields.Keeps recs r.zero fields)
    (found : ∀ b ∈ r.fields.boundFields fields,
      b.type.find recs src mode (b.keyIn spell key) = .ok (some b.value)) :
    (WireType.record ident).find recs src mode key = .ok (some (.record fields)) := by
  have parts : ∀ b ∈ r.fields.boundFields fields,
      src.partKey? key b.name = some (b.keyIn spell key) := by
    intro b member
    -- An entry that addresses `b` in some spelling belongs to a part, which can only be `b`.
    have only : ∀ entry ∈ src.family key, ∀ t,
        Key.isWithin entry.1 (key.spelled t b.name.toList) = true → t = spell key b.name := by
      intro entry present t within
      obtain ⟨c, memberC, withinC⟩ := holds.exists_part under present
      obtain ⟨spelling, name⟩ := Key.eq_of_within_spelled
        (distinguished.plain_of_mem keeps member) (distinguished.plain_of_mem keeps memberC)
        within withinC
      rw [spelling, String.toList_injective name]
    exact KeySource.partKey?_eq_some only (holds.exists_entry under member)
  rw [WireType.find_record, holds.hasParts under, if_pos rfl, declared]
  simp only [FieldTable.bindParts_eq_ok keeps fun b member => ⟨_, parts b member, found b member⟩]
  rfl

/-- Where a source holds the pairs of an addressable value, the value is found. -/
theorem Addressable.find_of_holds {type : WireType} {v : Value}
    (addressable : v.Addressable recs limit type) (fits : limit ≤ wordMax)
    {spell : Key → String → Key.Spelling} {key : Key} (within : src.maxIndex = limit)
    (holds : src.Holds key (v.written recs spell key type)) :
    type.find recs src mode key = .ok (some v) := by
  induction addressable generalizing key with
  | bool b =>
    rw [WireType.find_scalar, holds.firstValue?_eq]
    cases b <;> rfl
  | int inside =>
    rw [WireType.find_scalar, holds.firstValue?_eq]
    simp only [Scalar.ofRaw_int inside mode]
    rfl
  | text s =>
    rw [WireType.find_scalar, holds.firstValue?_eq]
    rfl
  | present held ih =>
    rw [WireType.find_option, ih holds]
    rfl
  | box held ih =>
    rw [written_box] at holds
    rw [WireType.find_box]
    exact ih holds
  | seq inhabited short held ih =>
    rw [written_seq] at holds
    have under := partsUnder_items inhabited (fun v member => (held v member).pairsUnder spell) key
    obtain ⟨v, member⟩ := List.exists_mem_of_ne_nil _ inhabited
    apply find_seq_of_holds holds under (held v member).isFile_eq_false inhabited
      (by rw [within]; exact short) (by rw [within]; exact fits)
    intro p item
    exact ih p.1 (List.fst_mem_of_mem_zipIdx item) (holds.part under item)
  | dict inhabited ascending named held ih =>
    rw [written_dict] at holds
    have under := partsUnder_entries inhabited ascending named
      (fun p member => (held p member).pairsUnder spell) key
    apply find_map_of_holds holds under ascending named
    intro p member
    exact ih p member (holds.part under member)
  | record declared distinguished keeps held ih =>
    rw [written_record declared] at holds
    have under := partsUnder_boundFields distinguished keeps
      (fun b member => (held b member).pairsUnder spell) key
    apply find_record_of_holds holds under declared distinguished keeps
    intro b member
    exact ih b member (holds.part under member)

/-- In whatever order the pairs that write an addressable value arrive, the value is found again
under its key, in either mode. -/
theorem Addressable.find_of_perm {type : WireType} {v : Value}
    (addressable : v.Addressable recs limit type) (fits : limit ≤ wordMax)
    (spell : Key → String → Key.Spelling) (key : Key) {pairs : List (String × String)}
    (arrival : pairs.Perm
      ((v.written recs spell key type).map fun p => (String.ofList p.1, p.2)))
    (mode : Mode) :
    type.find recs (KeySource.ofPairs pairs limit) mode key = .ok (some v) := by
  have under := addressable.pairsUnder spell key
  exact addressable.find_of_holds fits rfl (KeySource.holds_ofPairs under arrival limit)

/-- A polygon with two corners and an empty name. -/
def polygon : Value :=
  .record [.record [.text "", .text ""],
    .seq [.record [.int (-1), .int 0], .record [.int 20, .int 3]]]

theorem addressable_corner {x y : Int} (fitsX : IntKind.int32.holds x)
    (fitsY : IntKind.int32.holds y) :
    Addressable .polygons 1 (.record "Point") (.record [.int x, .int y]) := by
  refine .record rfl ⟨by decide +kernel, by decide +kernel, by decide +kernel⟩ ?_ ?_
  · exact ⟨(nomatch ·), (nomatch ·), trivial⟩
  · intro b member
    rcases List.mem_cons.mp member with rfl | member
    · exact .int fitsX
    rcases List.mem_cons.mp member with rfl | member
    · exact .int fitsY
    · exact nomatch member

theorem addressable_polygon : polygon.Addressable .polygons 1 (.record "Polygon") := by
  refine .record rfl ⟨by decide +kernel, by decide +kernel, by decide +kernel⟩ ?_ ?_
  · exact ⟨⟨(nomatch ·), fun _ => rfl, trivial⟩, (nomatch ·), trivial⟩
  · intro b member
    rcases List.mem_cons.mp member with rfl | member
    · exact .text _
    rcases List.mem_cons.mp member with rfl | member
    · refine .seq (List.cons_ne_nil _ _) (by decide) ?_
      intro v corner
      rcases List.mem_cons.mp corner with rfl | corner
      · exact addressable_corner (by decide) (by decide)
      rcases List.mem_cons.mp corner with rfl | corner
      · exact addressable_corner (by decide) (by decide)
      · exact nomatch corner
    · exact nomatch member

/-- The pairs of the polygon, dotted and bracketed, with the corners taken apart. -/
theorem find_of_perm_polygon :
    let spell : Key → String → Key.Spelling := fun key part =>
      if part = "y" ∨ key = "p".toList then .bracketed else .dotted
    let pairs := [("p[corners][1][y]", "3"), ("p[corners][0].x", "-1"), ("p[name]", ""),
      ("p[corners][1].x", "20"), ("p[corners][0][y]", "0")]
    polygon.Addressable .polygons 1 (.record "Polygon") ∧ 1 ≤ wordMax ∧
      pairs.Perm ((polygon.written .polygons spell "p".toList (.record "Polygon")).map fun p =>
        (String.ofList p.1, p.2)) ∧
      (WireType.record "Polygon").find .polygons (KeySource.ofPairs pairs 1) .lenient "p".toList =
        .ok (some polygon) := by
  intro spell pairs
  have fits : 1 ≤ wordMax := by decide
  have arrival : pairs.Perm ((polygon.written .polygons spell "p".toList (.record "Polygon")).map
      fun p => (String.ofList p.1, p.2)) := by decide +kernel
  exact ⟨addressable_polygon, fits, arrival,
    addressable_polygon.find_of_perm fits spell "p".toList arrival .lenient⟩

end Value

end RequestBinding
