import RequestBinding.Source.Key
import RequestBinding.Proofs.Text.Cutting

/-!
# Beginnings of keys

A key addresses a value, and the keys that go on from it with a dot or a bracket address its
parts. `Key.isWithin` takes both together: the key itself and everything below it.

* `Key.isWithin_trans` and `Key.isPartOf_of_isWithin`: what is within a part is a part.
* `Key.eq_of_within_bracketed`: two different names in brackets never have a key in common, also
  when one begins with the other, as long as neither has a closing bracket.
* `Key.eq_of_within_spelled`: the same for the two spellings of the part of a record.
-/

namespace RequestBinding

namespace Key

/-- The candidate addresses what `whole` addresses, or a part of it at any depth. -/
def isWithin (candidate whole : Key) : Bool :=
  candidate == whole || isPartOf candidate whole

theorem opensPart_iff {rest : Key} :
    opensPart rest = true ↔ ∃ tail, rest = '.' :: tail ∨ rest = '[' :: tail := by
  constructor
  · intro opens
    unfold opensPart at opens
    split at opens
    · exact ⟨_, Or.inl rfl⟩
    · exact ⟨_, Or.inr rfl⟩
    · cases opens
  · rintro ⟨tail, rfl | rfl⟩ <;> rfl

theorem opensPart_append {rest : Key} (opens : opensPart rest = true) (more : Key) :
    opensPart (rest ++ more) = true := by
  obtain ⟨tail, rfl | rfl⟩ := opensPart_iff.mp opens <;> rfl

theorem isPartOf_iff {c whole : Key} :
    isPartOf c whole = true ↔ ∃ rest, c = whole ++ rest ∧ opensPart rest = true := by
  simp only [isPartOf, Option.any_eq_true, Text.dropLead?_eq_some_iff]

theorem isWithin_iff {c whole : Key} :
    isWithin c whole = true ↔ ∃ rest, c = whole ++ rest ∧ (rest = [] ∨ opensPart rest = true) := by
  simp only [isWithin, Bool.or_eq_true, beq_iff_eq, isPartOf_iff]
  constructor
  · rintro (rfl | ⟨rest, rfl, opens⟩)
    · exact ⟨[], (List.append_nil _).symm, Or.inl rfl⟩
    · exact ⟨rest, rfl, Or.inr opens⟩
  · rintro ⟨rest, rfl, rfl | opens⟩
    · exact Or.inl (List.append_nil _)
    · exact Or.inr ⟨rest, rfl, opens⟩

@[simp] theorem isWithin_self (key : Key) : isWithin key key = true := by
  simp [isWithin]

theorem isWithin_of_isPartOf {c whole : Key} (part : isPartOf c whole = true) :
    isWithin c whole = true := by
  simp only [isWithin, part, Bool.or_true]

/-- What is within a part of something is a part of it. -/
theorem isPartOf_of_isWithin {c sub whole : Key} (within : isWithin c sub = true)
    (part : isPartOf sub whole = true) : isPartOf c whole = true := by
  obtain ⟨deeper, rfl, _⟩ := isWithin_iff.mp within
  obtain ⟨rest, rfl, opens⟩ := isPartOf_iff.mp part
  exact isPartOf_iff.mpr ⟨rest ++ deeper, List.append_assoc _ _ _, opensPart_append opens deeper⟩

theorem isWithin_trans {c sub whole : Key} (lower : isWithin c sub = true)
    (upper : isWithin sub whole = true) : isWithin c whole = true := by
  have cases := upper
  simp only [isWithin, Bool.or_eq_true, beq_iff_eq] at cases
  rcases cases with rfl | part
  · exact lower
  · exact isWithin_of_isPartOf (isPartOf_of_isWithin lower part)

theorem length_lt_of_isPartOf {c whole : Key} (part : isPartOf c whole = true) :
    whole.length < c.length := by
  obtain ⟨rest, rfl, opens⟩ := isPartOf_iff.mp part
  obtain ⟨tail, rfl | rfl⟩ := opensPart_iff.mp opens <;>
    simp only [List.length_append, List.length_cons] <;> omega

theorem length_le_of_isWithin {c whole : Key} (within : isWithin c whole = true) :
    whole.length ≤ c.length := by
  obtain ⟨rest, rfl, _⟩ := isWithin_iff.mp within
  rw [List.length_append]
  omega

/-- A key is not a part of itself. -/
theorem not_isPartOf_self (key : Key) : isPartOf key key = false := by
  rw [Bool.eq_false_iff]
  intro part
  exact Nat.lt_irrefl _ (length_lt_of_isPartOf part)

theorem isPartOf_dotted (key part : Key) : isPartOf (key.dotted part) key = true :=
  isPartOf_iff.mpr ⟨'.' :: part, rfl, rfl⟩

theorem isPartOf_bracketed (key part : Key) : isPartOf (key.bracketed part) key = true :=
  isPartOf_iff.mpr ⟨'[' :: part ++ [']'], by simp [bracketed], rfl⟩

/-! ## Parts that have nothing in common -/

theorem bracketed_append (key part rest : Key) :
    key.bracketed part ++ rest = key ++ '[' :: (part ++ ']' :: rest) := by
  simp [bracketed]

theorem bracketed_injective {key a b : Key} (same : key.bracketed a = key.bracketed b) : a = b := by
  simpa [bracketed] using same

/-- A part with a name in brackets determines the name, up to the first closing bracket. -/
theorem eq_of_within_bracketed {c key a b : Key} (plainA : ']' ∉ a) (plainB : ']' ∉ b)
    (withinA : isWithin c (key.bracketed a) = true)
    (withinB : isWithin c (key.bracketed b) = true) : a = b := by
  obtain ⟨restA, rfl, _⟩ := isWithin_iff.mp withinA
  obtain ⟨restB, same, _⟩ := isWithin_iff.mp withinB
  rw [bracketed_append, bracketed_append, List.append_cancel_left_eq, List.cons.injEq] at same
  rw [← Text.takeWhile_ne_append plainA, same.2, Text.takeWhile_ne_append plainB]

/-- The two ways to write the key of a part of a record. -/
inductive Spelling where
  | dotted
  | bracketed
  deriving DecidableEq, Repr

/-- The key of a part in one of the two spellings. -/
def spelled (key : Key) (s : Spelling) (part : Key) : Key :=
  match s with
  | .dotted => key.dotted part
  | .bracketed => key.bracketed part

theorem isPartOf_spelled (key : Key) (s : Spelling) (part : Key) :
    isPartOf (key.spelled s part) key = true := by
  cases s with
  | dotted => exact isPartOf_dotted key part
  | bracketed => exact isPartOf_bracketed key part

/-- A name without the characters that structure keys. -/
def Plain (name : Key) : Prop :=
  ∀ c ∈ name, c ≠ '.' ∧ c ≠ '[' ∧ c ≠ ']'

instance (name : Key) : Decidable (Plain name) :=
  List.decidableBAll (fun c => c ≠ '.' ∧ c ≠ '[' ∧ c ≠ ']') name

theorem eq_of_within_dotted {c key a b : Key} (plainA : Plain a) (plainB : Plain b)
    (withinA : isWithin c (key.dotted a) = true)
    (withinB : isWithin c (key.dotted b) = true) : a = b := by
  obtain ⟨restA, rfl, endA⟩ := isWithin_iff.mp withinA
  obtain ⟨restB, same, endB⟩ := isWithin_iff.mp withinB
  simp only [dotted, List.append_assoc, List.cons_append, List.append_cancel_left_eq,
    List.cons.injEq, true_and] at same
  have cut : ∀ {name rest : Key}, Plain name → (rest = [] ∨ opensPart rest = true) →
      (name ++ rest).takeWhile (fun d => d != '.' && d != '[') = name := by
    intro name rest plain ends
    rw [List.takeWhile_append_of_pos fun d member => by simp [plain d member]]
    rcases ends with rfl | opens
    · simp
    · obtain ⟨tail, rfl | rfl⟩ := opensPart_iff.mp opens <;> simp
  rw [← cut plainA endA, same, cut plainB endB]

/-- A part of a record determines its name and how it is spelled. -/
theorem eq_of_within_spelled {c key a b : Key} {s t : Spelling} (plainA : Plain a)
    (plainB : Plain b) (withinA : isWithin c (key.spelled s a) = true)
    (withinB : isWithin c (key.spelled t b) = true) : s = t ∧ a = b := by
  have closing : ∀ {name : Key}, Plain name → ']' ∉ name :=
    fun plain member => (plain _ member).2.2 rfl
  -- A dotted and a bracketed key already differ in the character after `key`.
  have mixed : ∀ {p q : Key}, isWithin c (key.dotted p) = true →
      isWithin c (key.bracketed q) = true → False := by
    intro p q withinP withinQ
    obtain ⟨restP, rfl, _⟩ := isWithin_iff.mp withinP
    obtain ⟨restQ, same, _⟩ := isWithin_iff.mp withinQ
    rw [bracketed_append, dotted, List.append_assoc, List.append_cancel_left_eq] at same
    simp at same
  cases s with
  | dotted =>
    cases t with
    | dotted => exact ⟨rfl, eq_of_within_dotted plainA plainB withinA withinB⟩
    | bracketed => exact (mixed withinA withinB).elim
  | bracketed =>
    cases t with
    | dotted => exact (mixed withinB withinA).elim
    | bracketed =>
      exact ⟨rfl, eq_of_within_bracketed (closing plainA) (closing plainB) withinA withinB⟩

end Key

end RequestBinding
