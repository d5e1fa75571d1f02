import Mathlib.Data.List.Forall2
import RequestBinding.Proofs.Convert.FinderLocality
import RequestBinding.Proofs.Outcome

/-!
# Flat values

A value of a flat type is read from one text, so what is found under a key depends on the texts of
that key alone: the first of them for the value itself (`WireType.find_flat`), all of them for a
list of such values (`WireType.find_seq_flat`). In lenient mode every text can be read, and then
finding succeeds whenever the key has a text.
-/

namespace RequestBinding

variable {recs : Records} {src : KeySource} {mode : Mode}

/-- A flat value is read from the first text of its key. -/
theorem WireType.find_flat {type : WireType} (flat : type.isFlat = true) (key : Key) :
    type.find recs src mode key =
      match src.firstValue? key with
      | none => .ok none
      | some raw => (type.ofRaw mode raw).map some := by
  induction type with
  | scalar s => rfl
  | bytes => rfl
  | option inner ih =>
    rw [find_option, ih flat]
    cases src.firstValue? key with
    | none => rfl
    | some raw =>
      simp only [ofRaw]
      cases inner.ofRaw mode raw <;> rfl
  | box inner ih => exact ih flat
  | file | cookie | seq | map | body | record => cases flat

/-- A list of flat values under a key with texts has an item for each of them. -/
theorem WireType.find_seq_flat {item : WireType} (flat : item.isFlat = true) {key : Key}
    (given : src.values key ≠ []) :
    (seq item).find recs src mode key =
      (Sequence.ofTexts mode item (src.values key)).map (some ∘ .seq) := by
  have noFile : item.isFile = false := by
    cases item with
    | file => cases flat
    | _ => rfl
  have texts : (src.values key).isEmpty = false := by
    cases values : src.values key with
    | nil => exact absurd values given
    | cons raw rest => rfl
  rw [find_seq, noFile, flat, texts]
  rfl

/-- In lenient mode every text can be read. -/
theorem Scalar.exists_ofRaw_lenient (s : Scalar) (raw : String) :
    ∃ v, s.ofRaw .lenient raw = .ok v := by
  unfold ofRaw
  cases s.read raw with
  | ok v => exact ⟨v, rfl⟩
  | error e => exact ⟨s.zero, rfl⟩

theorem WireType.exists_ofRaw_lenient {type : WireType} (flat : type.isFlat = true)
    (raw : String) : ∃ v, type.ofRaw .lenient raw = .ok v := by
  induction type with
  | scalar s => exact s.exists_ofRaw_lenient raw
  | bytes => exact ⟨_, rfl⟩
  | option inner ih =>
    obtain ⟨v, read⟩ := ih flat
    exact ⟨.present v, by rw [ofRaw, read]; rfl⟩
  | box inner ih => exact ih flat
  | file | cookie | seq | map | body | record => cases flat

/-- Texts make a list when each of them can be read; then each item is read from the text in its
place. -/
theorem Sequence.ofTexts_eq_ok_iff {item : WireType} {texts : List String} {items : List Value} :
    ofTexts mode item texts = .ok items ↔
      List.Forall₂ (fun raw v => item.ofRaw mode raw = .ok v) texts items := by
  induction texts generalizing items with
  | nil =>
    rw [List.forall₂_nil_left_iff, ofTexts]
    exact ⟨fun made => (Except.ok.inj made).symm, fun none => congrArg Except.ok none.symm⟩
  | cons raw rest ih =>
    rw [List.forall₂_cons_left_iff, ofTexts]
    constructor
    · intro made
      obtain ⟨v, read, more⟩ := Except.bind_eq_ok_iff.mp made
      obtain ⟨others, later, done⟩ := Except.bind_eq_ok_iff.mp more
      cases done
      exact ⟨v, others, read, ih.mp later, rfl⟩
    · rintro ⟨v, others, read, later, rfl⟩
      rw [read, ih.mpr later]
      rfl

theorem Sequence.exists_ofTexts_lenient {item : WireType} (flat : item.isFlat = true)
    (texts : List String) : ∃ items, ofTexts .lenient item texts = .ok items := by
  induction texts with
  | nil => exact ⟨[], rfl⟩
  | cons raw rest ih =>
    obtain ⟨v, read⟩ := item.exists_ofRaw_lenient flat raw
    obtain ⟨items, made⟩ := ih
    exact ⟨v :: items, by rw [ofTexts, read, made]; rfl⟩

end RequestBinding
