import RequestBinding.Proofs.Constraint.FirstViolation
import RequestBinding.Proofs.Pattern.Splicing
import RequestBinding.Proofs.Schema.Constraints

/-!
# What a declared pattern demands

A validator that is made from a pattern that can be read by itself accepts the texts that the
pattern matches as a whole, as far as its other rules accept them. Whether the pattern can be read
by itself is not asked: what the engine reads is the pattern between added brackets. So it can be
read unless a bracket of its own closes the group that was added (`Validator.compile_pattern`), and
such a pattern may match a text in part only (`Validator.compile_unbalanced`).

All this is so for every engine that does what is documented of engines.
-/

namespace RequestBinding.Validator

open Pattern

variable {tags : TagMap} {pattern : Option String} {source : String} {v : Validator}

/-- For a text the pattern is one more demand beside those of the other rules. -/
theorem obeys_text_iff {p : FullMatch} (declared : v.pattern = some p) {s : String} :
    v.Obeys (.text s) ↔ { v with pattern := none }.Obeys (.text s) ∧ p.accepts s = true := by
  constructor
  · intro obeys
    exact ⟨⟨obeys.range, obeys.nonzero, obeys.length, nofun⟩, obeys.pattern p declared s rfl⟩
  · intro both
    rcases both with ⟨others, accepted⟩
    refine ⟨others.range, others.nonzero, others.length, fun p' declared' s' same => ?_⟩
    rcases Option.some.inj (declared.symm.trans declared') with rfl
    rcases View.text.inj same with rfl
    exact accepted

/-- Let the engine be lawful, and a pattern be accepted. It can be read by itself, unless one of its
own closing brackets ends the group that is added around it, behind what can be read by itself. When
it can, it is matched against whole texts: the validator accepts the texts that its other rules
accept and that the pattern matches from end to end. -/
theorem compile_pattern [Engine] {meaning : String → Meaning} (lawful : Engine.Lawful meaning)
    (declared : pattern.or (tags.get? Tag.patternKey) = some source)
    (compiled : compile tags pattern = .ok v) :
    ((Engine.read? source).isSome ∨
        ∃ q rest, source = q ++ ")" ++ rest ∧ (Engine.read? q).isSome) ∧
      ((Engine.read? source).isSome → ∀ field s,
        (v.validate field (.text s) = .ok () ↔
          { v with pattern := none }.validate field (.text s) = .ok () ∧
            (meaning source).Whole s.toList)) := by
  rcases compile_eq_ok compiled with ⟨-, -, made⟩
  rcases readPattern_of_declared declared made with ⟨p, accepted, kept⟩
  refine ⟨lawful.read_or_cut accepted, fun readable field s => ?_⟩
  have single : ∀ w : Validator, w.validate field (.text s) = .ok () ↔ w.Obeys (.text s) := by
    intro w
    rw [validate_eq_ok_iff_check, ← checkSingle_eq_none_iff]
    rfl
  rw [single, single, obeys_text_iff kept, lawful.accepts_iff readable accepted]

theorem compile_pattern_choice :
    ∃ v, compile {} (some "a|\\)b") = .ok v ∧ (Engine.read? "a|\\)b").isSome ∧
      ∀ field s, v.validate field (.text s) = .ok () ↔
        (dialectMeaning "a|\\)b").Whole s.toList := by
  have readable : (Engine.read? "a|\\)b").isSome := by decide +kernel
  have accepted : (FullMatch.compile? "a|\\)b").isSome := by decide +kernel
  rcases Option.isSome_iff_exists.mp accepted with ⟨p, read⟩
  have compiled : compile {} (some "a|\\)b") = .ok { pattern := some p } := by
    have made : readPattern {} (some "a|\\)b") = .ok (some p) := by
      rw [readPattern, Option.some_or]
      simp only [read]
    rw [compile, made]
    rfl
  refine ⟨_, compiled, readable, fun field s => ?_⟩
  rw [(compile_pattern lawful_dialect rfl compiled).2 readable field s]
  exact and_iff_right rfl

theorem compile_unbalanced :
    ∃ v, compile {} (some "a)|(?:b") = .ok v ∧ ¬ (Engine.read? "a)|(?:b").isSome ∧
      v.validate "name" (.text "ax") = .ok () := by
  refine ⟨_, rfl, ?_, ?_⟩
  · decide +kernel
  · decide +kernel

end RequestBinding.Validator
