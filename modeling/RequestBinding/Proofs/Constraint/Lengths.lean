import RequestBinding.Pattern.Dialect
import RequestBinding.Proofs.Constraint.Declarations
import RequestBinding.Proofs.Constraint.FirstViolation
import RequestBinding.Proofs.Number.Numeral

/-!
# Declared lengths

A tag declares a least length, a greatest length, both, or one length. Numbers below `2 ^ 64` in
decimal digits are read as what they are, so the validator of such a tag has the declared bounds and
no other rule. It decides by the number of characters of a text, by the number of octets of bytes,
and by the first item of a sequence that is rejected (`Validator.compile_length`).
-/

namespace RequestBinding

/-- A number in decimal digits can be a side of bounds on lengths. -/
theorem Bounds.side_word {n : Nat} (fits : n < 2 ^ 64) :
    Side Numeral.readWord? (toString n) n := by
  have digits : (toString n).toList = Nat.toDigits 10 n := Nat.toList_repr
  refine .of_digits ?_ ?_ ?_
  · rw [digits]
    exact Nat.toDigits_ne_nil
  · rw [digits]
    exact fun c member => .inl (Numeral.isDigit_of_mem_toDigits member)
  · rw [digits]
    exact Numeral.readWord?_toDigits (Nat.le_pred_of_lt fits)

namespace Validator

variable {bounds : Bounds Nat} {field tuple : String} {view : View} {n : Nat}

/-- Of a value of the length `n` the validator decides by the length alone: one below the bounds is
too short, and else one above them is too long. -/
structure Measures (v : Validator) (bounds : Bounds Nat) (field : String) (view : View) (n : Nat) :
    Prop where
  passes : v.validate field view = .ok () ↔ bounds.Contains n
  short : ∀ least ∈ bounds.least, n < least →
    v.validate field view =
      .error ⟨field, .tooShort, "shorter than " ++ toString least ++ ": " ++ view.display⟩
  long : (∀ least ∈ bounds.least, least ≤ n) → ∀ most ∈ bounds.most, most < n →
    v.validate field view =
      .error ⟨field, .tooLong, "longer than " ++ toString most ++ ": " ++ view.display⟩

/-- The validator of a tag that declares bounds on the length, and nothing else. -/
theorem compile_of_declared [Pattern.Engine]
    (declared : Bounds.Declared Numeral.readWord? tuple bounds) :
    compile (Tag.parse ("<len:" ++ tuple ++ ">")) none = .ok { length := some bounds } := by
  have tags : Tag.parse ("<len:" ++ tuple ++ ">") = ({} : TagMap).insert Tag.lengthKey tuple :=
    Tag.parse_plain "len" (by decide) (by decide) declared.plain
  have read : Bounds.ofLengths? tuple = some bounds := Bounds.parse?_of_declared declared
  have length : readBounds Bounds.ofLengths? (({} : TagMap).insert Tag.lengthKey tuple)
      Tag.lengthKey = .ok (some bounds) := by
    rw [readBounds, TagMap.get?_insert, if_pos BEq.rfl]
    simp only [read]
  rw [tags, compile, length]
  rfl

/-- A validator that has bounds on the length only decides by the length of what has one. -/
theorem measures (measured : lengthOf? view = some n) :
    ({ length := some bounds } : Validator).Measures bounds field view n := by
  have single : ∀ v : Validator, v.check view = v.checkSingle view := by
    cases view with
    | text s => exact fun _ => rfl
    | bytes octets => exact fun _ => rfl
    | _ => cases measured
  -- No rule before that on the length can be broken.
  have first : ∀ {kind detail}, ({ length := some bounds } : Validator).Breaks .length view kind
      detail → ({ length := some bounds } : Validator).validate field view =
        .error ⟨field, kind, detail⟩ := by
    intro kind detail broken
    rw [validate_eq_error_iff_check]
    refine ⟨kind, detail, ?_, rfl⟩
    rw [single, checkSingle_eq_some_iff]
    refine ⟨[.range, .nonzero], .length, [.pattern], rfl, broken, ?_⟩
    simp only [List.forall_mem_cons, ← report_eq_none_iff]
    exact ⟨rfl, rfl, List.forall_mem_nil _⟩
  refine ⟨?_, ?_, ?_⟩
  · rw [validate_eq_ok_iff_check, single, checkSingle_eq_none_iff]
    constructor
    · exact fun obeys => obeys.length bounds rfl n measured
    · intro inside
      refine ⟨nofun, nofun, ?_, nofun⟩
      rintro _ ⟨⟩ m other
      cases measured.symm.trans other
      exact inside
  · exact fun least bounded less => first (.short rfl measured bounded less)
  · exact fun notShort most bounded greater => first (.long rfl measured notShort bounded greater)

/-- For numbers below `2 ^ 64` a tag can declare bounds on the length in each of four ways. The
validator of such a tag accepts the texts whose number of characters lies within the bounds, and
bytes by the number of octets. Of a sequence it reports the first item that is rejected. -/
theorem compile_length [Pattern.Engine] (m n : Nat) (smallLeast : m < 2 ^ 64)
    (smallMost : n < 2 ^ 64)
    (declared : (tuple, bounds) ∈
      [(toString m ++ ":" ++ toString n, ⟨some m, some n⟩), (toString m ++ ":", ⟨some m, none⟩),
        (":" ++ toString n, ⟨none, some n⟩), (toString n, ⟨some n, some n⟩)]) :
    ∃ v, compile (Tag.parse ("<len:" ++ tuple ++ ">")) none = .ok v ∧ ∀ field,
      (∀ s, v.Measures bounds field (.text s) s.length) ∧
        (∀ octets, v.Measures bounds field (.bytes octets) octets.length) ∧
        ∀ items,
          (v.validate field (.seq items) = .ok () ↔
            ∀ item ∈ items, v.validate field item = .ok ()) ∧
          ∀ broken, v.validate field (.seq items) = .error broken ↔
            FirstError (v.validate field) items broken := by
  have least := Bounds.side_word smallLeast
  have most := Bounds.side_word smallMost
  have written : Bounds.Declared Numeral.readWord? tuple bounds := by
    simp only [List.mem_cons, List.not_mem_nil, or_false, Prod.mk.injEq] at declared
    rcases declared with ⟨rfl, rfl⟩ | ⟨rfl, rfl⟩ | ⟨rfl, rfl⟩ | ⟨rfl, rfl⟩
    · exact .both least most
    · exact .least least
    · exact .most most
    · exact .single most
  refine ⟨{ length := some bounds }, compile_of_declared written, fun field => ?_⟩
  exact ⟨fun s => measures rfl, fun octets => measures rfl, fun items =>
    ⟨validate_seq_eq_ok_iff rfl, fun broken => validate_seq_eq_error_iff rfl⟩⟩

theorem compile_length_pair :
    ∃ v, compile (Tag.parse "<len:2:3>") none = .ok v ∧
      v.validate "name" (.seq [.text "añb", .bytes [1], .text ""]) =
        .error ⟨"name", .tooShort, "shorter than 2: \x01"⟩ ∧
      v.validate "name" (.text "abcd") = .error ⟨"name", .tooLong, "longer than 3: abcd"⟩ := by
  obtain ⟨v, compiled, decides⟩ := compile_length 2 3 (by decide) (by decide) List.mem_cons_self
  obtain ⟨texts, bytes, sequences⟩ := decides "name"
  refine ⟨v, compiled, ?_, ?_⟩
  · rw [(sequences _).2]
    refine ⟨[.text "añb"], .bytes [1], [.text ""], rfl, ?_, ?_⟩
    · refine List.forall_mem_singleton.mpr ⟨(), (texts "añb").passes.mpr ⟨?_, ?_⟩⟩
      · rintro _ ⟨⟩
        decide
      · rintro _ ⟨⟩
        decide
    · exact (bytes [1]).short 2 rfl (by decide)
  · refine (texts "abcd").long ?_ 3 rfl (by decide)
    rintro _ ⟨⟩
    decide

end Validator

end RequestBinding
