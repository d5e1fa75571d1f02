import RequestBinding.Convert.Keyed
import RequestBinding.Proofs.Source.Likeness

/-!
# Values from sources that differ in their values only

The strict search asks the same questions of alike sources and gets the same answers, up to texts
that it fails to convert. So it finds a value in both or in neither, or fails with the same error in
both, unless one of the errors tells the text that could not be converted
(`WireType.find_indistinct`).

Each function of the search has one lemma: where its finders cannot tell the sources apart, neither
can the function. They come together by induction on the type (`WireType.findWith_indistinct`) and
on the room for nested records (`Record.findAt_indistinct`).
-/

namespace RequestBinding

/-- The error tells something about a value, not only about types and keys. -/
def ConvertError.TellsValue : ConvertError → Prop
  | .invalid _ _ _ => True
  | .body _ => True
  | .unsupported _ _ => False
  | .indexTooLarge _ _ _ => False

/-- There is a value in both cases or in neither. -/
def SamePresence (found other : Option Value) : Prop :=
  found.isSome = other.isSome

/-- Outcomes of a search that come to the same. -/
abbrev FoundAlike (found other : Found) : Prop :=
  Indistinct ConvertError.TellsValue SamePresence found other

/-- Conversions that come to the same, whatever the values are. -/
abbrev ConvertedAlike {α : Type} (x y : Except ConvertError α) : Prop :=
  Indistinct ConvertError.TellsValue (fun _ _ => True) x y

theorem ConvertedAlike.found {α : Type} {x y : Except ConvertError α}
    (outcomes : ConvertedAlike x y) (f g : α → Value) :
    FoundAlike (x.map (some ∘ f)) (y.map (some ∘ g)) :=
  outcomes.map fun _ _ _ => rfl

theorem FoundAlike.converted {α : Type} {x y : Found} (outcomes : FoundAlike x y)
    (f g : Option Value → α) : ConvertedAlike (x.map f) (y.map g) :=
  outcomes.map fun _ _ _ => trivial

/-! ## Single texts -/

theorem WireType.ofRaw_indistinct (type : WireType) (raw other : String) :
    ConvertedAlike (type.ofRaw .strict raw) (type.ofRaw .strict other) := by
  induction type with
  | scalar s =>
    simp only [ofRaw, Scalar.ofRaw]
    cases s.read raw with
    | error reason => exact .left trivial _
    | ok v =>
      cases s.read other with
      | error reason => exact .right _ trivial
      | ok w => exact .ok trivial
  | bytes => exact .ok trivial
  | option inner ih => exact ih.map fun _ _ _ => trivial
  | box inner ih => exact ih
  | file | cookie | seq | map | body | record => exact .error _

theorem WireType.firstText_indistinct (type : WireType) {texts others : List String}
    (counted : texts.length = others.length) :
    FoundAlike
      (match texts.head? with
        | none => .ok none
        | some raw => (type.ofRaw .strict raw).map some)
      (match others.head? with
        | none => .ok none
        | some raw => (type.ofRaw .strict raw).map some) := by
  cases forall₂_of_length_eq counted with
  | nil => exact .ok rfl
  | @cons raw other _ _ _ _ => exact (type.ofRaw_indistinct raw other).map fun _ _ _ => rfl

/-! ## Lists -/

namespace Sequence

variable {f g : Finder}

theorem collect_indistinct {parts : List (Nat × Key)}
    (same : ∀ p ∈ parts, FoundAlike (f p.2) (g p.2)) :
    ConvertedAlike (collect .strict f parts) (collect .strict g parts) := by
  induction parts with
  | nil => exact .ok trivial
  | cons p rest ih =>
    have tail := ih fun q member => same q (List.mem_cons_of_mem p member)
    have head := same p List.mem_cons_self
    unfold collect
    generalize f p.2 = found at head
    generalize g p.2 = other at head
    cases head with
    | error e => exact .error e
    | left told y => exact .left told _
    | right x told => exact .right _ told
    | ok presence =>
      cases rel_of_isSome_eq presence with
      | none => exact tail
      | some _ => exact tail.map fun _ _ _ => trivial

/-- Texts that are converted one after the other, as many in both cases. -/
theorem append_indistinct (type : WireType) (zero : Value) {texts others : List String}
    (counted : texts.length = others.length) :
    ConvertedAlike (append .strict type zero texts) (append .strict type zero others) := by
  replace counted := forall₂_of_length_eq counted
  induction counted with
  | nil => exact .ok trivial
  | @cons raw other _ _ _ _ tail =>
    have head := type.ofRaw_indistinct raw other
    unfold append
    generalize type.ofRaw .strict raw = read at head
    generalize type.ofRaw .strict other = read' at head
    cases head with
    | error e => exact .error e
    | left told y => exact .left told _
    | right x told => exact .right _ told
    | ok _ => exact tail.map fun _ _ _ => trivial

theorem ofTexts_indistinct (type : WireType) {texts others : List String}
    (counted : texts.length = others.length) :
    ConvertedAlike (ofTexts .strict type texts) (ofTexts .strict type others) := by
  replace counted := forall₂_of_length_eq counted
  induction counted with
  | nil => exact .ok trivial
  | @cons raw other _ _ _ _ tail =>
    exact (type.ofRaw_indistinct raw other).bind fun _ _ _ => tail.bind fun _ _ _ => .ok trivial

theorem assemble_indistinct {type : WireType} {zero : Value} {limit : Nat}
    {brackets others : List Bracket} (alike : brackets.map Bracket.blank = others.map Bracket.blank)
    (same : ∀ part, FoundAlike (f part) (g part)) :
    FoundAlike (assemble .strict type zero f limit brackets)
      (assemble .strict type zero g limit others) := by
  have indices : brackets.filterMap Bracket.index? = others.filterMap Bracket.index? := by
    have blanks := congrArg (List.filterMap Bracket.index?) alike
    simpa [List.filterMap_map, Function.comp_def] using blanks
  have large : tooLarge? limit brackets = tooLarge? limit others := by
    rw [tooLarge?, tooLarge?, indices]
  have parts : partsWithin limit brackets = partsWithin limit others := by
    rw [partsWithin, partsWithin, indices]
  have counted : (appended brackets).length = (appended others).length := by
    have blanks := congrArg (fun bs => (List.flatMap Bracket.appended bs).length) alike
    simpa [appended, List.flatMap_map, blankTexts] using blanks
  unfold assemble
  rw [large, parts]
  cases tooLarge? limit others with
  | some p => exact .error _
  | none =>
    refine Indistinct.ite ?_ (.ok rfl) (ConvertedAlike.found ?_ _ _)
    · rw [Bool.and_eq_true, Bool.and_eq_true, List.isEmpty_iff_length_eq_zero,
        List.isEmpty_iff_length_eq_zero, List.isEmpty_iff_length_eq_zero, counted]
    · exact (collect_indistinct fun p _ => same p.2).bind fun _ _ _ =>
        (append_indistinct type zero counted).bind fun _ _ _ => .ok trivial

end Sequence

/-! ## Maps -/

namespace Mapping

variable {f g : Finder}

/-- The keys of a map are read from keys of the source, which alike sources share; so as many
entries have a value. -/
theorem gather_indistinct {keyType : WireType} {zero : Value}
    (same : ∀ part, FoundAlike (f part) (g part)) (keys : List (Key × Key)) :
    Indistinct ConvertError.TellsValue (fun entries others => entries.length = others.length)
      (gather .strict keyType zero f keys) (gather .strict keyType zero g keys) := by
  induction keys with
  | nil => exact .ok rfl
  | cons p rest ih =>
    have head := same p.2
    unfold gather
    cases keyType.ofRaw .strict (String.ofList p.1) with
    | error e => exact .error e
    | ok k =>
      simp only
      generalize f p.2 = found at head
      generalize g p.2 = other at head
      cases head with
      | error e => exact .error e
      | left told y => exact .left told _
      | right x told => exact .right _ told
      | ok presence =>
        cases rel_of_isSome_eq presence with
        | none => exact ih
        | some _ => exact ih.map fun _ _ lengths => congrArg Nat.succ lengths

theorem assemble_indistinct {keyType : WireType} {zero : Value} {brackets others : List Bracket}
    (alike : brackets.map Bracket.blank = others.map Bracket.blank)
    (same : ∀ part, FoundAlike (f part) (g part)) :
    FoundAlike (assemble .strict keyType zero f brackets)
      (assemble .strict keyType zero g others) := by
  have names : brackets.filterMap Bracket.mapKey? = others.filterMap Bracket.mapKey? := by
    have blanks := congrArg (List.filterMap Bracket.mapKey?) alike
    simpa [List.filterMap_map, Function.comp_def] using blanks
  unfold assemble
  rw [names]
  refine (gather_indistinct same _).bind fun entries others lengths => .ok ?_
  cases forall₂_of_length_eq lengths <;> rfl

end Mapping

/-! ## Records -/

section

variable {recs : Records} {src other : KeySource} (alike : src.Alike other)

include alike

theorem FieldTable.bindParts_indistinct {key : Key} {f g : WireType → Finder}
    (same : ∀ type sub, FoundAlike (f type sub) (g type sub)) (table : FieldTable)
    (current : List Value) :
    ConvertedAlike (table.bindParts recs src f key current)
      (table.bindParts recs other g key current) := by
  have bound : ∀ (own : Field) held,
      ConvertedAlike (own.bindWithin src f key held) (own.bindWithin other g key held) := by
    intro own held
    unfold Field.bindWithin
    cases own.role with
    | unbound type? => exact .ok trivial
    | bound type =>
      simp only [bindPart, KeySource.partKey?, alike.firstPresent?_eq]
      cases other.firstPresent? [key.dotted own.partName.toList,
        key.bracketed own.partName.toList] with
      | none => exact .ok trivial
      | some sub => exact ((same type sub).converted _ _).map fun _ _ _ => trivial
  induction table generalizing current with
  | nil => exact .ok trivial
  | field own rest ih =>
    cases current with
    | nil => exact .ok trivial
    | cons v values =>
      exact (bound own v).bind fun _ _ _ => (ih values).bind fun _ _ _ => .ok trivial
  | flattened name ident inner rest ihInner ihRest =>
    cases current with
    | nil => exact .ok trivial
    | cons v values =>
      exact (ihInner _).bind fun _ _ _ => (ihRest values).bind fun _ _ _ => .ok trivial

/-! ## All types -/

theorem WireType.findWith_indistinct {record record' : String → Finder}
    (same : ∀ ident key, FoundAlike (record ident key) (record' ident key)) (type : WireType)
    (key : Key) :
    FoundAlike (type.findWith recs src .strict record key)
      (type.findWith recs other .strict record' key) := by
  induction type generalizing key with
  | scalar s => exact firstText_indistinct (.scalar s) (alike.length_values_eq key)
  | bytes => exact firstText_indistinct .bytes (alike.length_values_eq key)
  | body target => exact firstText_indistinct (.body target) (alike.length_values_eq key)
  | file =>
    have first : ∀ files : List UploadedFile, files.head?.isSome = !files.isEmpty := by
      intro files
      cases files <;> rfl
    refine .ok ?_
    rw [SamePresence, Option.isSome_map, Option.isSome_map, first, first,
      alike.isEmpty_filesAt_eq key]
  | cookie =>
    refine .ok ?_
    rw [SamePresence, Option.isSome_map, Option.isSome_map]
    exact alike.isSome_cookie?_eq key
  | option inner ih =>
    refine (ih key).map fun found other presence => ?_
    rw [SamePresence, Option.isSome_map, Option.isSome_map]
    exact presence
  | box inner ih => exact ih key
  | record ident => exact same ident key
  | seq item ih =>
    simp only [findWith, alike.isEmpty_values_eq key, alike.isEmpty_filesAt_eq key,
      alike.maxIndex_eq]
    refine Indistinct.ite Iff.rfl (.ok ?_) (Indistinct.ite Iff.rfl ?_ ?_)
    · cases (other.filesAt key).isEmpty <;> rfl
    · exact (Sequence.ofTexts_indistinct item (alike.length_values_eq key)).found _ _
    · exact Sequence.assemble_indistinct (alike.brackets_eq key) ih
  | map sorted keyType value _ ih =>
    exact Mapping.assemble_indistinct (alike.brackets_eq key) ih

theorem Record.findAt_indistinct (room : Nat) (ident : String) (key : Key) :
    FoundAlike (findAt recs src .strict room ident key)
      (findAt recs other .strict room ident key) := by
  induction room generalizing ident key with
  | zero => exact .ok rfl
  | succ room ih =>
    simp only [findAt, alike.hasParts_eq key]
    refine Indistinct.ite Iff.rfl ?_ (.ok rfl)
    cases recs.find? ident with
    | none => exact .ok rfl
    | some r =>
      exact (FieldTable.bindParts_indistinct alike
        (WireType.findWith_indistinct alike ih) r.fields r.zero).found _ _

/-- In sources that differ in their values only, the strict search finds a value in both or in
neither or fails with the same error, unless an error tells a value. -/
theorem WireType.find_indistinct (type : WireType) (key : Key) :
    FoundAlike (type.find recs src .strict key) (type.find recs other .strict key) := by
  unfold find
  rw [alike.longest_eq]
  exact findWith_indistinct alike (Record.findAt_indistinct alike _) type key

end

end RequestBinding
