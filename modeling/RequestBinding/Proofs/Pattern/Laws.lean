import RequestBinding.Pattern.FullMatch

/-!
# What is asked of an engine for patterns

A pattern means which pieces of a text it matches, each between what comes before and what comes
after it. An engine is lawful for a meaning of its patterns when it does what engines are documented
to do: searching tells whether there is such a piece, a group that is opened is closed behind a
pattern, and groups and the anchors of a text mean what they always do (`Pattern.Engine.Lawful`).
Nothing else is asked, so the patterns themselves may be of any kind.

A group between the anchors matches the texts that the pattern in it matches as a whole
(`Pattern.Engine.Lawful.accepts_iff`). But the anchors and the group are put around a pattern as
text, and an engine that reads the whole need not read the pattern: the first of its own closing
brackets without an opening one ends the group (`Pattern.Engine.Lawful.read_or_cut`).
-/

namespace RequestBinding

namespace Pattern

/-- What a pattern matches: a piece of a text, with what stands before and after it. -/
abbrev Meaning : Type := (before piece after : List Char) → Prop

namespace Meaning

/-- The place where a text begins. -/
def start : Meaning := fun before piece _ => before = [] ∧ piece = []

/-- The place where a text ends. -/
def finish : Meaning := fun _ piece after => piece = [] ∧ after = []

/-- One thing behind the other. -/
def seq (m₁ m₂ : Meaning) : Meaning := fun before piece after =>
  ∃ piece₁ piece₂, piece = piece₁ ++ piece₂ ∧ m₁ before piece₁ (piece₂ ++ after) ∧
    m₂ (before ++ piece₁) piece₂ after

/-- The whole of a text is matched. -/
def Whole (m : Meaning) (text : List Char) : Prop :=
  m [] text []

/-- Some piece of a text is matched. -/
def Within (m : Meaning) (text : List Char) : Prop :=
  ∃ before piece after, text = before ++ piece ++ after ∧ m before piece after

/-- Only the whole of a text stands between its beginning and its end. -/
theorem within_start_finish_iff {m : Meaning} {text : List Char} :
    (start.seq (m.seq finish)).Within text ↔ m.Whole text := by
  constructor
  · intro found
    obtain ⟨before, _, _, rfl, _, _, rfl, begins, found⟩ := found
    obtain ⟨piece, _, rfl, found, ends⟩ := found
    obtain ⟨rfl, rfl⟩ := begins
    obtain ⟨rfl, rfl⟩ := ends
    simpa [Whole] using found
  · intro whole
    have ends : (m.seq finish) [] text [] := ⟨text, [], by simp, whole, rfl, rfl⟩
    exact ⟨[], text, [], by simp, [], text, rfl, ⟨rfl, rfl⟩, ends⟩

end Meaning

/-- A pattern in a group that is not captured. -/
def grouped (pattern : String) : String :=
  "(?:" ++ pattern ++ ")"

/-- The engine does what is documented of engines, where its patterns have the meaning. -/
structure Engine.Lawful [Engine] (meaning : String → Meaning) : Prop where
  /-- A search tells whether the pattern matches some piece of a text. -/
  search : ∀ {p : String} {finds : String → Bool}, Engine.read? p = some finds →
    ∀ s, finds s = true ↔ (meaning p).Within s.toList
  /-- A group that is opened behind the first anchor is closed, and in it is a pattern. -/
  closes : ∀ {rest : String}, (Engine.read? ("^(?:" ++ rest)).isSome →
    ∃ q behind, rest = q ++ ")" ++ behind ∧ (Engine.read? q).isSome
  /-- A group matches what the pattern in it matches. -/
  group : ∀ {p : String}, (Engine.read? p).isSome → (Engine.read? (grouped p)).isSome →
    meaning (grouped p) = meaning p
  /-- A group of a pattern is still one between anchors, and the anchors are the two ends of a
  text. -/
  anchors : ∀ {p : String}, (Engine.read? p).isSome →
    (Engine.read? ("^" ++ grouped p ++ "$")).isSome → (Engine.read? (grouped p)).isSome ∧
      meaning ("^" ++ grouped p ++ "$") = Meaning.start.seq ((meaning (grouped p)).seq .finish)

theorem anchored_eq_grouped (p : String) : FullMatch.anchored p = "^" ++ grouped p ++ "$" := by
  apply String.toList_injective
  simp [FullMatch.anchored, grouped]

theorem anchored_eq_append (p : String) : FullMatch.anchored p = "^(?:" ++ (p ++ ")$") :=
  String.append_assoc

/-- A closing bracket in front of the last anchor is the added one, or one of the pattern. -/
theorem eq_or_cut_of_append {p q behind : String} (same : p ++ ")$" = q ++ ")" ++ behind) :
    p = q ∨ ∃ rest, p = q ++ ")" ++ rest := by
  have texts : p.toList ++ [')', '$'] = q.toList ++ ')' :: behind.toList := by
    simpa using congrArg String.toList same
  rcases List.append_eq_append_iff.mp texts with ⟨more, front, back⟩ | ⟨more, front, back⟩
  · -- Behind the pattern there is one closing bracket only, and it comes first.
    match more with
    | [] => exact Or.inl (String.toList_injective (by simpa using front.symm))
    | [_] => simp at back
    | _ :: _ :: _ => simp at back
  · cases more with
    | nil => exact Or.inl (String.toList_injective (by simpa using front))
    | cons c more =>
      rcases List.cons.inj back with ⟨rfl, -⟩
      exact Or.inr ⟨.ofList more, String.toList_injective (by simpa using front)⟩

namespace Engine.Lawful

variable [Engine] {meaning : String → Meaning} (lawful : Engine.Lawful meaning) {source : String}
  {p : FullMatch}

include lawful

/-- When the anchored form is read, the pattern can be read by itself, or one of its own closing
brackets ends the group that is added, behind what can be read by itself. -/
theorem read_or_cut (compiled : FullMatch.compile? source = some p) :
    (Engine.read? source).isSome ∨
      ∃ q rest, source = q ++ ")" ++ rest ∧ (Engine.read? q).isSome := by
  rcases Option.map_eq_some_iff.mp compiled with ⟨finds, read, -⟩
  rw [anchored_eq_append] at read
  rcases lawful.closes (Option.isSome_of_eq_some read) with ⟨q, behind, same, front⟩
  rcases eq_or_cut_of_append same with rfl | ⟨rest, rfl⟩
  · exact Or.inl front
  · exact Or.inr ⟨q, rest, rfl, front⟩

/-- A pattern that can be read by itself accepts the texts that it matches as a whole. -/
theorem accepts_iff (readable : (Engine.read? source).isSome)
    (compiled : FullMatch.compile? source = some p) (text : String) :
    p.accepts text = true ↔ (meaning source).Whole text.toList := by
  rcases Option.map_eq_some_iff.mp compiled with ⟨finds, read, rfl⟩
  rw [anchored_eq_grouped] at read
  rcases lawful.anchors readable (Option.isSome_of_eq_some read) with ⟨group, same⟩
  rw [FullMatch.accepts, lawful.search read, same, lawful.group readable group,
    Meaning.within_start_finish_iff]

end Engine.Lawful

end Pattern

end RequestBinding
