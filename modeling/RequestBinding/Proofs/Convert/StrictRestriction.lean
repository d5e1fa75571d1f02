import RequestBinding.Proofs.Convert.FinderLocality
import RequestBinding.Proofs.Outcome

/-!
# Strict binding restricts lenient binding

The two modes share one search and part ways only at malformed values and at indices above the
limit. What the strict mode accepts under some limit is therefore found unchanged in either mode
under every limit that is at least as large.

Each function of the search gets one lemma: if its finder keeps the successes of the strict finder,
then so does the function (`Sequence.assemble_kept`, `Mapping.gather_kept`,
`FieldTable.bindParts_kept`). They come together in `WireType.findWith_kept` by induction on the
type and in `Record.findAt_kept` by induction on the room for nested records.
-/

namespace RequestBinding

/-! ## Single texts -/

theorem orZero_kept (mode : Mode) (target raw : String) (zero : Value)
    (read : Except NumberError Value) :
    Kept (orZero .strict target raw zero read) (orZero mode target raw zero read) := by
  cases read with
  | ok v => exact .refl _
  | error reason => exact .error _ _

/-- What the strict mode reads from a text, either mode reads from it. -/
theorem WireType.ofRaw_kept (mode : Mode) (type : WireType) (raw : String) :
    Kept (type.ofRaw .strict raw) (type.ofRaw mode raw) := by
  induction type with
  | scalar s => exact orZero_kept mode _ _ _ _
  | bytes => exact .refl _
  | option inner ih => exact ih.map Value.present
  | box inner ih => exact ih
  | file => exact .refl _
  | cookie => exact .refl _
  | seq item => exact .refl _
  | map sorted keyType value => exact .refl _
  | body target => exact .refl _
  | record ident => exact .refl _

theorem WireType.firstText_kept (mode : Mode) (type : WireType) (first : Option String) :
    Kept
      (match first with
        | none => .ok none
        | some raw => (type.ofRaw .strict raw).map some)
      (match first with
        | none => .ok none
        | some raw => (type.ofRaw mode raw).map some) := by
  cases first with
  | none => exact .refl _
  | some raw => exact (type.ofRaw_kept mode raw).map some

/-! ## Lists -/

namespace Sequence

variable {f g : Finder} (mode : Mode)

theorem collect_kept {parts : List (Nat × Key)} (kept : ∀ p ∈ parts, Kept (f p.2) (g p.2)) :
    Kept (collect .strict f parts) (collect mode g parts) := by
  induction parts with
  | nil => exact .refl _
  | cons p rest ih =>
    have head := kept p List.mem_cons_self
    have tail := ih fun q member => kept q (List.mem_cons_of_mem p member)
    unfold collect
    cases found : f p.2 with
    | error e => exact .error _ _
    | ok v? =>
      rw [head v? found]
      cases v? with
      | none => exact tail
      | some v => exact tail.map ((p.1, v) :: ·)

theorem append_kept (type : WireType) (zero : Value) (texts : List String) :
    Kept (append .strict type zero texts) (append mode type zero texts) := by
  induction texts with
  | nil => exact .refl _
  | cons raw rest ih =>
    unfold append
    cases read : type.ofRaw .strict raw with
    | error e => exact .error _ _
    | ok v =>
      rw [type.ofRaw_kept mode raw v read]
      exact ih.map (v :: ·)

theorem ofTexts_kept (type : WireType) (texts : List String) :
    Kept (ofTexts .strict type texts) (ofTexts mode type texts) := by
  induction texts with
  | nil => exact .refl _
  | cons raw rest ih =>
    exact (type.ofRaw_kept mode raw).bind fun v => ih.bind fun others => .refl _

/-- When no index exceeds a limit, none exceeds a larger one, and all parts count in both. -/
theorem partsWithin_of_le {limit limit' : Nat} (le : limit ≤ limit') {brackets : List Bracket}
    (within : tooLarge? limit brackets = none) :
    tooLarge? limit' brackets = none ∧
      partsWithin limit' brackets = partsWithin limit brackets := by
  unfold tooLarge? at within
  rw [List.find?_eq_none] at within
  have bound : ∀ p ∈ brackets.filterMap Bracket.index?, p.1 ≤ limit := by
    intro p member
    have := within p member
    simpa using this
  constructor
  · unfold tooLarge?
    rw [List.find?_eq_none]
    intro p member
    have := bound p member
    simp only [decide_eq_true_eq]
    omega
  · unfold partsWithin
    congr 1
    apply List.filter_congr
    intro p member
    have := bound p member
    simp only [decide_eq_decide]
    omega

theorem assemble_kept {type : WireType} {zero : Value} {limit limit' : Nat} (le : limit ≤ limit')
    {brackets : List Bracket}
    (kept : ∀ b ∈ brackets, ∀ n part, b.index? = some (n, part) → Kept (f part) (g part)) :
    Kept (assemble .strict type zero f limit brackets)
      (assemble mode type zero g limit' brackets) := by
  cases large : tooLarge? limit brackets with
  | some p =>
    unfold assemble
    rw [large]
    exact .error _ _
  | none =>
    obtain ⟨large', parts⟩ := partsWithin_of_le le large
    rw [assemble_of_tooLarge?_eq_none fun _ => large, assemble_of_tooLarge?_eq_none fun _ => large',
      parts]
    split
    · exact .refl _
    · apply Kept.map
      have found : ∀ p ∈ partsWithin limit brackets, Kept (f p.2) (g p.2) := by
        intro p member
        obtain ⟨b, present, index, _⟩ := mem_of_mem_partsWithin member
        exact kept b present p.1 p.2 index
      exact (collect_kept mode found).bind fun values =>
        (append_kept mode type zero _).bind fun rest => .refl _

end Sequence

/-! ## Maps -/

namespace Mapping

variable {f g : Finder} (mode : Mode)

theorem gather_kept {keyType : WireType} {zero : Value} {keys : List (Key × Key)}
    (kept : ∀ p ∈ keys, Kept (f p.2) (g p.2)) :
    Kept (gather .strict keyType zero f keys) (gather mode keyType zero g keys) := by
  induction keys with
  | nil => exact .refl _
  | cons p rest ih =>
    have head := kept p List.mem_cons_self
    have tail := ih fun q member => kept q (List.mem_cons_of_mem p member)
    unfold gather
    cases read : keyType.ofRaw .strict (String.ofList p.1) with
    | error e => exact .error _ _
    | ok k =>
      rw [keyType.ofRaw_kept mode _ k read]
      cases found : f p.2 with
      | error e => exact .error _ _
      | ok v? =>
        rw [head v? found]
        cases v? with
        | none => exact tail
        | some v => exact tail.map ((k, v) :: ·)

theorem assemble_kept {keyType : WireType} {zero : Value} {brackets : List Bracket}
    (kept : ∀ b ∈ brackets, ∀ label part, b.mapKey? = some (label, part) →
      Kept (f part) (g part)) :
    Kept (assemble .strict keyType zero f brackets) (assemble mode keyType zero g brackets) := by
  have found : ∀ p ∈ Bracket.firsts [] (brackets.filterMap Bracket.mapKey?),
      Kept (f p.2) (g p.2) := by
    intro p member
    obtain ⟨b, present, named⟩ := List.mem_filterMap.mp (Bracket.mem_of_mem_firsts member)
    exact kept b present p.1 p.2 named
  exact (gather_kept mode found).bind fun entries => .refl _

end Mapping

/-! ## Records -/

theorem FieldTable.bindParts_kept {recs : Records} {src : KeySource} {key : Key}
    {f g : WireType → Finder} (kept : ∀ type sub, Kept (f type sub) (g type sub))
    (table : FieldTable) (current : List Value) :
    Kept (table.bindParts recs src f key current) (table.bindParts recs src g key current) := by
  have bound : ∀ (own : Field) held,
      Kept (own.bindWithin src f key held) (own.bindWithin src g key held) := by
    intro own held
    unfold Field.bindWithin
    cases own.role with
    | unbound type? => exact .refl _
    | bound type =>
      unfold bindPart
      cases src.partKey? key own.partName with
      | none => exact .refl _
      | some sub => exact ((kept type sub).map _).map _
  induction table generalizing current with
  | nil => exact .refl _
  | field own rest ih =>
    cases current with
    | nil => exact .refl _
    | cons v values =>
      exact (bound own v).bind fun v => (ih values).bind fun others => .refl _
  | flattened name ident inner rest ihInner ihRest =>
    cases current with
    | nil => exact .refl _
    | cons v values =>
      exact (ihInner _).bind fun fields => (ihRest values).bind fun others => .refl _

/-! ## All types

The limit on indices is the only thing in which the two searches look at different sources. -/

namespace KeySource

variable (src : KeySource) (limit : Nat) (key : Key)

@[simp] theorem filesAt_withLimit : { src with maxIndex := limit }.filesAt key = src.filesAt key :=
  rfl

@[simp] theorem values_withLimit : { src with maxIndex := limit }.values key = src.values key :=
  rfl

@[simp] theorem brackets_withLimit :
    { src with maxIndex := limit }.brackets key = src.brackets key :=
  rfl

@[simp] theorem hasParts_withLimit :
    { src with maxIndex := limit }.hasParts key = src.hasParts key :=
  rfl

end KeySource

@[simp] theorem FieldTable.bindParts_withLimit {recs : Records} {src : KeySource} {limit : Nat}
    {key : Key} {find : WireType → Finder} (table : FieldTable) (current : List Value) :
    table.bindParts recs { src with maxIndex := limit } find key current =
      table.bindParts recs src find key current := by
  have parts : ∀ part, { src with maxIndex := limit }.partKey? key part = src.partKey? key part :=
    fun _ => rfl
  exact bindParts_congr recs parts (fun _ _ _ => rfl) table current

section

variable {recs : Records} {src : KeySource} {limit limit' : Nat} (le : limit ≤ limit')
  (mode : Mode)

include le

theorem WireType.findWith_kept {record record' : String → Finder}
    (kept : ∀ ident key, Kept (record ident key) (record' ident key)) (type : WireType)
    (key : Key) :
    Kept (type.findWith recs { src with maxIndex := limit } .strict record key)
      (type.findWith recs { src with maxIndex := limit' } mode record' key) := by
  induction type generalizing key with
  | scalar s => exact firstText_kept mode (.scalar s) _
  | bytes => exact firstText_kept mode .bytes _
  | body target => exact firstText_kept mode (.body target) _
  | file => exact .refl _
  | cookie => exact .refl _
  | option inner ih => exact (ih key).map _
  | box inner ih => exact ih key
  | record ident => exact kept ident key
  | seq item ih =>
    simp only [findWith, KeySource.filesAt_withLimit, KeySource.values_withLimit,
      KeySource.brackets_withLimit]
    apply Kept.ite _ (.refl _)
    apply Kept.ite _ ((Sequence.ofTexts_kept mode item _).map _)
    exact Sequence.assemble_kept mode le fun b member n part index => ih part
  | map sorted keyType value _ ih =>
    unfold findWith
    exact Mapping.assemble_kept mode fun b member label part named => ih part

theorem Record.findAt_kept (room : Nat) (ident : String) (key : Key) :
    Kept (findAt recs { src with maxIndex := limit } .strict room ident key)
      (findAt recs { src with maxIndex := limit' } mode room ident key) := by
  induction room generalizing ident key with
  | zero => exact .refl _
  | succ room ih =>
    simp only [findAt, KeySource.hasParts_withLimit, FieldTable.bindParts_withLimit]
    refine Kept.ite _ ?_ (.refl _)
    cases recs.find? ident with
    | none => exact .refl _
    | some r =>
      exact (FieldTable.bindParts_kept (WireType.findWith_kept le mode ih) r.fields r.zero).map _

end

/-- What the strict mode finds under a limit, or finds to be absent, is what either mode finds
under any larger limit, and so it is with single texts. -/
theorem WireType.strict_restricts (recs : Records) (src : KeySource) (type : WireType)
    {limit limit' : Nat} (le : limit ≤ limit') :
    (∀ key found, type.find recs { src with maxIndex := limit } .strict key = .ok found →
      ∀ mode, type.find recs { src with maxIndex := limit' } mode key = .ok found) ∧
    (∀ raw v, type.ofRaw .strict raw = .ok v → ∀ mode, type.ofRaw mode raw = .ok v) := by
  constructor
  · intro key found success mode
    exact findWith_kept le mode (Record.findAt_kept le mode _) type key found success
  · intro raw v success mode
    exact type.ofRaw_kept mode raw v success

/-- A list of records that the strict mode finds within a limit of one, the lenient mode finds
within a limit of nine. -/
theorem WireType.strict_restricts_points :
    let src : KeySource := { entries := [("p[1].y".toList, ["2"]), ("p[0][x]".toList, ["-1"])] }
    let value : Value := .seq [.record [.int (-1), .int 0], .record [.int 0, .int 2]]
    1 ≤ 9 ∧
      (seq (.record "Point")).find .points { src with maxIndex := 1 } .strict "p".toList =
        .ok (some value) ∧
      (seq (.record "Point")).find .points { src with maxIndex := 9 } .lenient "p".toList =
        .ok (some value) :=
  have within : 1 ≤ 9 := by decide
  ⟨within, rfl, (strict_restricts .points _ (seq (.record "Point")) within).1 _ _ rfl .lenient⟩

end RequestBinding
