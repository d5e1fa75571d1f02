import RequestBinding.Proofs.Convert.FlatValues
import RequestBinding.Proofs.Number.Numeral
import RequestBinding.Proofs.Value.Entries

/-!
# Values of a type

A value does not know its type. `WireType.Admits` says which values have the form of a type: scalars
within their bounds, lists and maps whose items and entries have the form of their own types, and
records and structured bodies as such, for nothing looks into these. The zero value of a type has
its form (`WireType.admits_zero`), and so has whatever is read from a text
(`WireType.admits_of_ofRaw`), found under a key (`WireType.admits_of_find`) or made from a body
(`WireType.admits_of_ofBody`).
-/

namespace RequestBinding

/-- The value has the form of the scalar. -/
def Scalar.Admits : Scalar → Value → Prop
  | bool, v => ∃ b, v = .bool b
  | int k, v => ∃ n, k.holds n ∧ v = .int n
  | float32, v => ∃ x, v = .float32 x
  | float64, v => ∃ x, v = .float64 x
  | text, v => ∃ s, v = .text s

/-- The value has the form of the type. -/
def WireType.Admits : WireType → Value → Prop
  | scalar s, v => s.Admits v
  | bytes, v => ∃ octets, v = .bytes octets
  | file, v => ∃ f, v = .file f
  | cookie, v => ∃ c, v = .cookie c
  | seq item, v => ∃ items, (∀ w ∈ items, item.Admits w) ∧ v = .seq items
  | map _ key value, v =>
    ∃ entries, (∀ p ∈ entries, key.Admits p.1 ∧ value.Admits p.2) ∧ v = .dict entries
  | option inner, v => v = .absent ∨ ∃ w, inner.Admits w ∧ v = .present w
  | box inner, v => inner.Admits v
  | body _, v => ∃ content, v = .body content
  | record _, v => ∃ fields, v = .record fields

/-! ## Zero values and texts -/

theorem IntKind.holds_zero (k : IntKind) : k.holds 0 := by
  cases k <;> decide

theorem Scalar.admits_zero (s : Scalar) : s.Admits s.zero := by
  cases s with
  | int k => exact ⟨0, k.holds_zero, rfl⟩
  | bool | float32 | float64 | text => exact ⟨_, rfl⟩

theorem WireType.zero_scalar (recs : Records) (s : Scalar) : (scalar s).zero recs = s.zero := by
  cases s <;> rfl

theorem WireType.admits_zero (recs : Records) (type : WireType) :
    type.Admits (type.zero recs) := by
  induction type with
  | scalar s =>
    rw [zero_scalar]
    exact s.admits_zero
  | seq item => exact ⟨[], nofun, rfl⟩
  | map sorted key value => exact ⟨[], nofun, rfl⟩
  | option inner => exact Or.inl rfl
  | box inner ih => exact ih
  | bytes | file | cookie | body | record => exact ⟨_, rfl⟩

theorem Scalar.admits_of_read {s : Scalar} {raw : String} {v : Value}
    (read : s.read raw = .ok v) : s.Admits v := by
  cases s with
  | bool | text =>
    cases read
    exact ⟨_, rfl⟩
  | int k =>
    simp only [Scalar.read] at read
    split at read
    · rename_i n numeral
      cases read
      exact ⟨n, Numeral.holds_of_readInt numeral, rfl⟩
    · cases read
  | float32 | float64 =>
    simp only [Scalar.read] at read
    split at read
    · cases read
      exact ⟨_, rfl⟩
    · cases read

theorem Scalar.admits_of_ofRaw {mode : Mode} {s : Scalar} {raw : String} {v : Value}
    (read : s.ofRaw mode raw = .ok v) : s.Admits v := by
  unfold ofRaw orZero at read
  split at read
  · cases read
    exact admits_of_read ‹_›
  · split at read
    · cases read
      exact s.admits_zero
    · cases read

/-- What a text is read as has the form of the type. -/
theorem WireType.admits_of_ofRaw {mode : Mode} {type : WireType} {raw : String} {v : Value}
    (read : type.ofRaw mode raw = .ok v) : type.Admits v := by
  induction type generalizing v with
  | scalar s => exact Scalar.admits_of_ofRaw read
  | bytes =>
    cases read
    exact ⟨_, rfl⟩
  | option inner ih =>
    obtain ⟨w, found, rfl⟩ := Except.map_eq_ok_iff.mp read
    exact Or.inr ⟨w, ih found, rfl⟩
  | box inner ih => exact ih read
  | file | cookie | seq | map | body | record => cases read

/-! ## Lists -/

namespace Sequence

variable {mode : Mode} {type : WireType} {zero : Value} {find : Finder}

theorem admits_of_ofTexts {texts : List String} {items : List Value}
    (made : ofTexts mode type texts = .ok items) : ∀ v ∈ items, type.Admits v := by
  have each := ofTexts_eq_ok_iff.mp made
  clear made
  induction each with
  | nil => nofun
  | cons read _ ih => exact List.forall_mem_cons.mpr ⟨WireType.admits_of_ofRaw read, ih⟩

theorem admits_of_append (zeroFits : type.Admits zero) {texts : List String} {items : List Value}
    (made : append mode type zero texts = .ok items) : ∀ v ∈ items, type.Admits v := by
  induction texts generalizing items with
  | nil =>
    cases made
    nofun
  | cons raw rest ih =>
    have onward : ∀ v : Value, type.Admits v →
        (append mode type zero rest).map (v :: ·) = .ok items → ∀ w ∈ items, type.Admits w := by
      intro v fits added
      obtain ⟨others, later, rfl⟩ := Except.map_eq_ok_iff.mp added
      exact List.forall_mem_cons.mpr ⟨fits, ih later⟩
    unfold append at made
    split at made
    · exact onward _ (WireType.admits_of_ofRaw ‹_›) made
    · split at made
      · cases made
      · exact onward zero zeroFits made

theorem admits_of_collect (each : ∀ part v, find part = .ok (some v) → type.Admits v)
    {parts : List (Nat × Key)} {found : List (Nat × Value)}
    (made : collect mode find parts = .ok found) : ∀ q ∈ found, type.Admits q.2 := by
  induction parts generalizing found with
  | nil =>
    cases made
    nofun
  | cons p rest ih =>
    unfold collect at made
    split at made
    · rename_i v present
      obtain ⟨others, later, rfl⟩ := Except.map_eq_ok_iff.mp made
      exact List.forall_mem_cons.mpr ⟨each p.2 v present, ih later⟩
    · exact ih made
    · split at made
      · cases made
      · exact ih made

/-- The items are those that were there and those that have been put into their places. -/
theorem mem_place {items : List Value} {found : List (Nat × Value)} {v : Value}
    (member : v ∈ place items found) : v ∈ items ∨ ∃ q ∈ found, q.2 = v := by
  induction found generalizing items with
  | nil => exact Or.inl member
  | cons q rest ih =>
    rcases ih member with old | ⟨r, later, rfl⟩
    · rcases List.mem_or_eq_of_mem_set old with first | rfl
      · exact Or.inl first
      · exact Or.inr ⟨q, List.mem_cons_self, rfl⟩
    · exact Or.inr ⟨r, List.mem_cons_of_mem q later, rfl⟩

/-- A list that is put together from parts and texts of a type is one of the list type. -/
theorem admits_of_assemble (zeroFits : type.Admits zero)
    (each : ∀ part v, find part = .ok (some v) → type.Admits v) {limit : Nat}
    {brackets : List Bracket} {v : Value}
    (made : assemble mode type zero find limit brackets = .ok (some v)) :
    (WireType.seq type).Admits v := by
  unfold assemble at made
  split at made
  · cases made
  · simp only at made
    split at made
    · cases made
    · obtain ⟨items, built, same⟩ := Except.map_eq_ok_iff.mp made
      cases same
      obtain ⟨found, collected, more⟩ := Except.bind_eq_ok_iff.mp built
      obtain ⟨rest, added, done⟩ := Except.bind_eq_ok_iff.mp more
      cases done
      refine ⟨_, List.forall_mem_append.mpr ⟨fun v member => ?_, admits_of_append zeroFits added⟩,
        rfl⟩
      rcases mem_place member with gap | ⟨q, present, rfl⟩
      · exact List.eq_of_mem_replicate gap ▸ zeroFits
      · exact admits_of_collect each collected q present

end Sequence

/-! ## Maps -/

namespace Mapping

variable {mode : Mode} {keyType value : WireType} {zero : Value} {find : Finder}

theorem admits_of_gather (zeroFits : value.Admits zero)
    (each : ∀ part v, find part = .ok (some v) → value.Admits v) {parts : List (Key × Key)}
    {entries : List (Value × Value)} (made : gather mode keyType zero find parts = .ok entries) :
    ∀ p ∈ entries, keyType.Admits p.1 ∧ value.Admits p.2 := by
  induction parts generalizing entries with
  | nil =>
    cases made
    nofun
  | cons q rest ih =>
    unfold gather at made
    split at made
    · cases made
    · rename_i k read
      have onward : ∀ v : Value, value.Admits v →
          (gather mode keyType zero find rest).map ((k, v) :: ·) = .ok entries →
            ∀ p ∈ entries, keyType.Admits p.1 ∧ value.Admits p.2 := by
        intro v fits added
        obtain ⟨others, later, rfl⟩ := Except.map_eq_ok_iff.mp added
        exact List.forall_mem_cons.mpr ⟨⟨WireType.admits_of_ofRaw read, fits⟩, ih later⟩
      split at made
      · rename_i v found
        exact onward v (each _ v found) made
      · exact ih made
      · split at made
        · cases made
        · exact onward zero zeroFits made

theorem mem_insertEntry {key v : Value} {entries : List (Value × Value)} {p : Value × Value}
    (member : p ∈ Value.insertEntry key v entries) : p = (key, v) ∨ p ∈ entries := by
  induction entries with
  | nil => exact Or.inl (List.mem_singleton.mp member)
  | cons entry rest ih =>
    obtain ⟨k, w⟩ := entry
    unfold Value.insertEntry at member
    split at member
    · exact List.mem_cons.mp member
    · split at member
      · rcases List.mem_cons.mp member with rfl | later
        · exact Or.inr List.mem_cons_self
        · exact (ih later).imp_right (List.mem_cons_of_mem _)
      · exact (List.mem_cons.mp member).imp_right (List.mem_cons_of_mem _)

/-- What holds of all entries that a map is made of holds of all that it has. -/
theorem forall_mem_foldl_insertEntry {P : Value × Value → Prop}
    {entries start : List (Value × Value)} (fits : ∀ p ∈ entries, P p)
    (startFits : ∀ p ∈ start, P p) :
    ∀ p ∈ entries.foldl (fun sorted p => Value.insertEntry p.1 p.2 sorted) start, P p := by
  induction entries generalizing start with
  | nil => exact startFits
  | cons entry rest ih =>
    obtain ⟨first, others⟩ := List.forall_mem_cons.mp fits
    refine ih others fun p member => ?_
    rcases mem_insertEntry member with rfl | old
    · exact first
    · exact startFits p old

/-- A map that is put together from parts of its types is one of the map type. -/
theorem admits_of_assemble (zeroFits : value.Admits zero)
    (each : ∀ part v, find part = .ok (some v) → value.Admits v) {brackets : List Bracket}
    {v : Value} (made : assemble mode keyType zero find brackets = .ok (some v)) (sorted : Bool) :
    (WireType.map sorted keyType value).Admits v := by
  obtain ⟨entries, gathered, done⟩ := Except.bind_eq_ok_iff.mp made
  have fits := admits_of_gather zeroFits each gathered
  split at done
  · cases done
  · cases done
    exact ⟨_, forall_mem_foldl_insertEntry fits (List.forall_mem_nil _), rfl⟩

end Mapping

/-! ## All types -/

namespace WireType

variable {recs : Records} {src : KeySource} {mode : Mode}

theorem admits_of_text {type : WireType} {first : Option String} {v : Value}
    (read : (match first with
      | none => .ok none
      | some raw => (type.ofRaw mode raw).map some) = Except.ok (some v)) : type.Admits v := by
  split at read
  · cases read
  · obtain ⟨w, found, same⟩ := Except.map_eq_ok_iff.mp read
    cases same
    exact admits_of_ofRaw found

/-- What is found under a key has the form of the type. -/
theorem admits_of_find {type : WireType} {key : Key} {v : Value}
    (found : type.find recs src mode key = .ok (some v)) : type.Admits v := by
  induction type generalizing key v with
  | scalar s => exact admits_of_text found
  | bytes => exact admits_of_text found
  | body target => exact admits_of_text found
  | file =>
    obtain ⟨f, -, rfl⟩ := Option.map_eq_some_iff.mp (Except.ok.inj found)
    exact ⟨f, rfl⟩
  | cookie =>
    obtain ⟨c, -, rfl⟩ := Option.map_eq_some_iff.mp (Except.ok.inj found)
    exact ⟨c, rfl⟩
  | option inner ih =>
    rw [find_option] at found
    obtain ⟨w, search, same⟩ := Except.map_eq_ok_iff.mp found
    obtain ⟨u, rfl, rfl⟩ := Option.map_eq_some_iff.mp same
    exact Or.inr ⟨u, ih search, rfl⟩
  | box inner ih => exact ih found
  | record ident =>
    rw [find_record] at found
    split at found
    · split at found
      · cases found
      · obtain ⟨fields, -, same⟩ := Except.map_eq_ok_iff.mp found
        cases same
        exact ⟨fields, rfl⟩
    · cases found
  | seq item ih =>
    rw [find_seq] at found
    split at found
    · rename_i isFile
      split at found
      · cases found
      · cases found
        refine ⟨_, fun w member => ?_, rfl⟩
        obtain ⟨f, -, rfl⟩ := List.mem_map.mp member
        cases item with
        | file => exact ⟨f, rfl⟩
        | _ => cases isFile
    · split at found
      · obtain ⟨items, read, same⟩ := Except.map_eq_ok_iff.mp found
        cases same
        exact ⟨items, Sequence.admits_of_ofTexts read, rfl⟩
      · exact Sequence.admits_of_assemble (item.admits_zero recs) (fun _ _ => ih) found
  | map sorted keyType value _ ih =>
    rw [find_map] at found
    exact Mapping.admits_of_assemble (value.admits_zero recs) (fun _ _ => ih) found sorted

/-- What a structured body is read as has the form of the type. -/
theorem admits_of_ofBody {type : WireType} {content : Json} {v : Value}
    (read : type.ofBody content = .ok v) : type.Admits v := by
  cases type with
  | body target =>
    simp only [ofBody] at read
    split at read
    · cases read
      exact ⟨_, rfl⟩
    · cases read
  | _ => cases read

end WireType

end RequestBinding
