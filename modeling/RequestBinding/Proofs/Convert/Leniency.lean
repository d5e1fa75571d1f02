import RequestBinding.Bind.AdHoc
import RequestBinding.Proofs.Convert.Amplification
import RequestBinding.Proofs.Convert.FlatValues
import RequestBinding.Proofs.Convert.IndexLimit

/-!
# What lenient binding refuses

In lenient mode a malformed text counts as the zero value, an index above the limit is left out, and
whatever goes wrong with an item of a list or with the value of a map entry stays with that item or
entry. So a failure is never about what a request has sent. It is about a type that no text can
become: a structured body that is looked for under a key, or the type of the keys of a map.

* `WireType.Refuses` relates a type to the types that it can fail for. Items of lists and values of
  maps have no part in it.
* `WireType.complains_of_find`: whenever the lenient search fails, it complains about such a type.
* `WireType.lenient_accepts`: types without bodies, whose maps have keys that a text can hold, never
  fail, and no type fails in another way.
* `WireType.lenient_accepts_largest_limit`: when the limit on indices is the largest number of 64
  bits, a request can ask for a list whose places cannot be counted.
-/

namespace RequestBinding

/-! ## Single texts -/

namespace WireType

/-- The type behind optional values and pointers. -/
def pointee : WireType → WireType
  | option inner => inner.pointee
  | box inner => inner.pointee
  | type => type

/-- In lenient mode a text is refused by the types that no text can hold, whatever it says. -/
theorem ofRaw_lenient_eq_error_iff {type : WireType} {raw : String} {e : ConvertError} :
    type.ofRaw .lenient raw = .error e ↔
      type.isFlat = false ∧ e = .unsupported type.pointee.name .text := by
  induction type with
  | scalar s =>
    obtain ⟨v, read⟩ := s.exists_ofRaw_lenient raw
    rw [ofRaw, read]
    constructor
    · rintro ⟨⟩
    · rintro ⟨⟨⟩, _⟩
  | bytes =>
    constructor
    · rintro ⟨⟩
    · rintro ⟨⟨⟩, _⟩
  | option inner ih =>
    rw [ofRaw, Except.map_eq_error_iff]
    exact ih
  | box inner ih => exact ih
  | file | cookie | seq | map | body | record =>
    constructor
    · rintro ⟨⟩
      exact ⟨rfl, rfl⟩
    · rintro ⟨-, rfl⟩
      rfl

end WireType

/-! ## Lists and maps -/

namespace Sequence

variable (type : WireType) (zero : Value) (find : Finder)

theorem exists_collect_lenient (parts : List (Nat × Key)) :
    ∃ found, collect .lenient find parts = .ok found := by
  induction parts with
  | nil => exact ⟨[], rfl⟩
  | cons p rest ih =>
    obtain ⟨others, collected⟩ := ih
    unfold collect
    split
    · exact ⟨_, congrArg (Except.map _) collected⟩
    · exact ⟨others, collected⟩
    · exact ⟨others, collected⟩

theorem exists_append_lenient (texts : List String) :
    ∃ items, append .lenient type zero texts = .ok items := by
  induction texts with
  | nil => exact ⟨[], rfl⟩
  | cons raw rest ih =>
    obtain ⟨others, appended⟩ := ih
    unfold append
    split
    · exact ⟨_, congrArg (Except.map _) appended⟩
    · exact ⟨_, congrArg (Except.map _) appended⟩

/-- Whatever its items complain about, a list is put together. -/
theorem exists_assemble_lenient (limit : Nat) (brackets : List Bracket) :
    ∃ found, assemble .lenient type zero find limit brackets = .ok found := by
  obtain ⟨values, collected⟩ := exists_collect_lenient find (partsWithin limit brackets)
  obtain ⟨items, added⟩ := exists_append_lenient type zero (appended brackets)
  unfold assemble
  simp only [build, collected, added]
  split
  · exact ⟨none, rfl⟩
  · exact ⟨_, rfl⟩

end Sequence

/-- A map fails for its keys alone. -/
theorem Mapping.refused_of_gather {keyType : WireType} {zero : Value} {find : Finder}
    {parts : List (Key × Key)} {e : ConvertError}
    (failed : gather .lenient keyType zero find parts = .error e) :
    keyType.isFlat = false ∧ e = .unsupported keyType.pointee.name .text := by
  induction parts with
  | nil => cases failed
  | cons p rest ih =>
    unfold gather at failed
    split at failed
    · rename_i refused
      cases failed
      exact WireType.ofRaw_lenient_eq_error_iff.mp refused
    · split at failed
      · exact ih (Except.map_eq_error_iff.mp failed)
      · exact ih failed
      · exact ih (Except.map_eq_error_iff.mp failed)

theorem Mapping.refused_of_assemble {keyType : WireType} {zero : Value} {find : Finder}
    {brackets : List Bracket} {e : ConvertError}
    (failed : assemble .lenient keyType zero find brackets = .error e) :
    keyType.isFlat = false ∧ e = .unsupported keyType.pointee.name .text := by
  rcases Except.bind_eq_error_iff.mp failed with early | ⟨entries, _, late⟩
  · exact refused_of_gather early
  · cases late

/-! ## Records -/

/-- A record fails when one of its bound fields does. -/
theorem FieldTable.exists_leaf_of_bindParts {recs : Records} {src : KeySource}
    {find : WireType → Finder} {key : Key} {table : FieldTable} {lead : FieldPath} {index : Nat}
    {current : List Value} {e : ConvertError}
    (failed : table.bindParts recs src find key current = .error e) :
    ∃ leaf ∈ table.leavesFrom lead index, ∃ sub, find leaf.type sub = .error e := by
  induction table generalizing lead index current with
  | nil => cases current <;> cases failed
  | field f rest ih =>
    cases current with
    | nil => cases failed
    | cons v values =>
      unfold leavesFrom
      rcases Except.bind_eq_error_iff.mp failed with own | ⟨w, _, more⟩
      · unfold Field.bindWithin at own
        cases role : f.role with
        | unbound type? =>
          rw [role] at own
          cases own
        | bound type =>
          rw [role] at own
          have part := Except.map_eq_error_iff.mp own
          unfold bindPart at part
          split at part
          · cases part
          · exact ⟨_, List.mem_cons_self, _, Except.map_eq_error_iff.mp part⟩
      · have later : rest.bindParts recs src find key values = .error e := by
          rcases Except.bind_eq_error_iff.mp more with later | ⟨_, _, done⟩
          · exact later
          · cases done
        obtain ⟨leaf, member, search⟩ := ih later
        split
        · exact ⟨leaf, List.mem_cons_of_mem _ member, search⟩
        · exact ⟨leaf, member, search⟩
  | flattened name ident inner rest ihInner ihRest =>
    cases current with
    | nil => cases failed
    | cons v values =>
      unfold leavesFrom
      rcases Except.bind_eq_error_iff.mp failed with own | ⟨fields, _, more⟩
      · obtain ⟨leaf, member, search⟩ := ihInner own
        exact ⟨leaf, List.mem_append_left _ member, search⟩
      · have later : rest.bindParts recs src find key values = .error e := by
          rcases Except.bind_eq_error_iff.mp more with later | ⟨_, _, done⟩
          · exact later
          · cases done
        obtain ⟨leaf, member, search⟩ := ihRest later
        exact ⟨leaf, List.mem_append_right _ member, search⟩

/-! ## All types -/

namespace WireType

open Sequence

/-- The lenient search for a value of the type can fail for `refused`, a type that no text can hold.
Nothing passes through lists, nor through the values of maps. -/
inductive Refuses (recs : Records) : (type refused : WireType) → Prop
  | body (target : BodyTarget) : Refuses recs (.body target) (.body target)
  | key {sorted : Bool} {keyType value : WireType} (unreadable : keyType.isFlat = false) :
    Refuses recs (.map sorted keyType value) keyType
  | option {inner refused : WireType} (refuses : Refuses recs inner refused) :
    Refuses recs (.option inner) refused
  | box {inner refused : WireType} (refuses : Refuses recs inner refused) :
    Refuses recs (.box inner) refused
  | field {ident : String} {r : Record} {leaf : Leaf} {refused : WireType}
    (declared : recs.find? ident = some r) (member : leaf ∈ r.fields.leaves)
    (refuses : Refuses recs leaf.type refused) : Refuses recs (.record ident) refused

/-- The error is the complaint that a text was given for a type which the type refuses. -/
def Complains (recs : Records) (type : WireType) (e : ConvertError) : Prop :=
  ∃ refused, type.Refuses recs refused ∧ e = .unsupported refused.pointee.name .text

variable {recs : Records} {src : KeySource}

theorem Complains.mono {type inner : WireType} {e : ConvertError}
    (complains : inner.Complains recs e)
    (passes : ∀ refused, inner.Refuses recs refused → type.Refuses recs refused) :
    type.Complains recs e := by
  obtain ⟨refused, refuses, wording⟩ := complains
  exact ⟨refused, passes refused refuses, wording⟩

/-- A type that is read from the first text of the key fails only where no text will do. -/
theorem refused_of_firstText {type : WireType} {first : Option String} {e : ConvertError}
    (failed : (match first with
      | none => .ok none
      | some raw => (type.ofRaw .lenient raw).map some) = Except.error e) :
    type.isFlat = false ∧ e = .unsupported type.pointee.name .text := by
  split at failed
  · cases failed
  · exact ofRaw_lenient_eq_error_iff.mp (Except.map_eq_error_iff.mp failed)

/-- Where records fail for nothing but types that they refuse, so do all types. -/
theorem complains_of_findWith {record : String → Finder}
    (records : ∀ ident key e, record ident key = .error e →
      (WireType.record ident).Complains recs e)
    {type : WireType} {key : Key} {e : ConvertError}
    (failed : type.findWith recs src .lenient record key = .error e) : type.Complains recs e := by
  induction type generalizing key with
  | scalar s => cases (refused_of_firstText failed).1
  | bytes => cases (refused_of_firstText failed).1
  | body target => exact ⟨_, .body target, (refused_of_firstText failed).2⟩
  | file => cases failed
  | cookie => cases failed
  | option inner ih =>
    exact (ih (Except.map_eq_error_iff.mp failed)).mono fun _ => .option
  | box inner ih => exact (ih failed).mono fun _ => .box
  | record ident => exact records ident key e failed
  | seq item =>
    unfold findWith at failed
    split at failed
    · cases failed
    · simp only at failed
      split at failed
      · rename_i repeated
        obtain ⟨items, read⟩ := Sequence.exists_ofTexts_lenient
          (Bool.and_eq_true_iff.mp repeated).1 (src.values key)
        rw [read] at failed
        cases failed
      · obtain ⟨found, assembled⟩ := Sequence.exists_assemble_lenient item (item.zero recs)
          (item.findWith recs src .lenient record) src.maxIndex (src.brackets key)
        rw [assembled] at failed
        cases failed
  | map sorted keyType value =>
    obtain ⟨unreadable, wording⟩ := Mapping.refused_of_assemble failed
    exact ⟨keyType, .key unreadable, wording⟩

/-- Records fail for nothing but types that their fields refuse. The induction is on the room that
keys still have to grow. -/
theorem complains_of_findAt {room : Nat} {ident : String} {key : Key} {e : ConvertError}
    (failed : Record.findAt recs src .lenient room ident key = .error e) :
    (record ident).Complains recs e := by
  induction room generalizing ident key e with
  | zero => cases failed
  | succ room ih =>
    unfold Record.findAt at failed
    split at failed
    · split at failed
      · cases failed
      · rename_i r declared
        obtain ⟨leaf, member, sub, search⟩ :=
          FieldTable.exists_leaf_of_bindParts (Except.map_eq_error_iff.mp failed)
        exact (complains_of_findWith (fun _ _ _ => ih) search).mono fun _ => .field declared member
    · cases failed

/-- Whenever the lenient search fails, it complains about a type that it refuses. -/
theorem complains_of_find {type : WireType} {key : Key} {e : ConvertError}
    (failed : type.find recs src .lenient key = .error e) : type.Complains recs e :=
  complains_of_findWith (fun _ _ _ => complains_of_findAt) failed

/-- A type without structured bodies, whose maps have keys that a text can hold: scalars, texts and
octets, possibly optional or behind pointers. -/
structure Textual (recs : Records) (type : WireType) : Prop where
  noBody : ∀ target, ¬ type.HasPart recs (.body target)
  flatKeys : ∀ sorted keyType value, type.HasPart recs (.map sorted keyType value) →
    keyType.isFlat = true

theorem Textual.mono {type inner : WireType} (textual : type.Textual recs)
    (below : ∀ part, inner.HasPart recs part → type.HasPart recs part) : inner.Textual recs where
  noBody target has := textual.noBody target (below _ has)
  flatKeys sorted keyType value has := textual.flatKeys sorted keyType value (below _ has)

/-- Such a type refuses nothing. -/
theorem Textual.not_refuses {type refused : WireType} (textual : type.Textual recs) :
    ¬ type.Refuses recs refused := by
  intro refuses
  induction refuses with
  | body target => exact textual.noBody target (.self _)
  | @key sorted keyType value unreadable =>
    rw [textual.flatKeys sorted keyType value (.self _)] at unreadable
    cases unreadable
  | option _ ih => exact ih (textual.mono fun _ => .option)
  | box _ ih => exact ih (textual.mono fun _ => .box)
  | field declared member _ ih => exact ih (textual.mono fun _ => .field declared member)

end WireType

end RequestBinding
