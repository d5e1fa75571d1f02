import RequestBinding.Text.Blank
import RequestBinding.Text.Split

/-!
# What cutting a text says about it

Both ways to cut a text are described by the text they put together again: `dropLead?` finds what
follows a beginning, and `cutAt` finds the two sides of the first separator. What is trimmed off a
text is taken from before its first and from after its last character of another class, wherever
one such character stands (`trimBoth_append_cons`).
-/

namespace RequestBinding.Text

variable {α : Type} [BEq α] [LawfulBEq α]

theorem dropLead?_eq_some_iff {lead text rest : List α} :
    dropLead? lead text = some rest ↔ text = lead ++ rest := by
  induction lead generalizing text with
  | nil => simp only [dropLead?, Option.some.injEq, List.nil_append]
  | cons a lead ih =>
    cases text with
    | nil => simp [dropLead?]
    | cons b text =>
      by_cases same : a = b
      · subst same
        simp only [dropLead?, BEq.rfl, if_true, ih, List.cons_append, List.cons.injEq, true_and]
      · simp [dropLead?, same, Ne.symm same]

/-- The part of a text before its first separator. -/
theorem takeWhile_ne_append {sep : α} {before : List α} (free : sep ∉ before) (after : List α) :
    (before ++ sep :: after).takeWhile (· != sep) = before := by
  have allowed : ∀ a ∈ before, (a != sep) = true := by
    intro a member
    simp only [bne_iff_ne, ne_eq]
    exact fun same => free (same ▸ member)
  rw [List.takeWhile_append_of_pos allowed]
  simp

theorem cutAt_append {sep : α} {before : List α} (free : sep ∉ before) (after : List α) :
    cutAt sep (before ++ sep :: after) = some (before, after) := by
  have allowed : ∀ a ∈ before, (a != sep) = true := by
    intro a member
    simp only [bne_iff_ne, ne_eq]
    exact fun same => free (same ▸ member)
  rw [cutAt, takeWhile_ne_append free, List.dropWhile_append_of_pos allowed]
  simp

/-- The two sides of the first separator. -/
theorem cutAt_eq_some_iff {sep : α} {text before after : List α} :
    cutAt sep text = some (before, after) ↔ text = before ++ sep :: after ∧ sep ∉ before := by
  constructor
  · intro cut
    unfold cutAt at cut
    split at cut
    · cases cut
    · rename_i c tail rest
      have head : c = sep := by
        have stop := List.head?_dropWhile_not (· != sep) text
        rw [rest] at stop
        simpa using stop
      simp only [Option.some.injEq, Prod.mk.injEq] at cut
      obtain ⟨rfl, rfl⟩ := cut
      subst head
      refine ⟨?_, ?_⟩
      · rw [← rest, List.takeWhile_append_dropWhile]
      · intro member
        have allowed := List.all_eq_true.mp List.all_takeWhile c member
        simp at allowed
  · rintro ⟨rfl, free⟩
    exact cutAt_append free after

/-! ## Trimmed texts -/

section

variable {p : Char → Bool}

theorem dropTrailing_append_cons {c : Char} (kept : p c = false) (before after : List Char) :
    dropTrailing p (before ++ c :: after) = before ++ c :: dropTrailing p after := by
  have split : (before ++ c :: after).reverse = after.reverse ++ c :: before.reverse := by
    simp
  rw [dropTrailing, split, List.dropWhile_append]
  cases rest : after.reverse.dropWhile p with
  | nil => simp [dropTrailing, rest, kept]
  | cons d ds => simp [dropTrailing, rest]

theorem dropWhile_append_cons {c : Char} (kept : p c = false) (before after : List Char) :
    (before ++ c :: after).dropWhile p = before.dropWhile p ++ c :: after := by
  rw [List.dropWhile_append]
  cases rest : before.dropWhile p with
  | nil => simp [kept]
  | cons d ds => rfl

theorem takeWhile_append_cons {c : Char} (kept : p c = false) (before after : List Char) :
    (before ++ c :: after).takeWhile p = before.takeWhile p := by
  rw [List.takeWhile_append]
  split
  · rename_i whole
    have all := List.takeWhile_append_dropWhile (p := p) (l := before)
    have nothing : before.dropWhile p = [] := by
      have lengths := congrArg List.length all
      rw [List.length_append, whole] at lengths
      exact List.length_eq_zero_iff.mp (by omega)
    rw [nothing, List.append_nil] at all
    simp [kept, all]
  · rfl

/-- Each side of a character that stays is trimmed by itself. -/
theorem trimBoth_append_cons {c : Char} (kept : p c = false) (before after : List Char) :
    trimBoth p (before ++ c :: after) = before.dropWhile p ++ c :: dropTrailing p after := by
  rw [trimBoth, dropWhile_append_cons kept, dropTrailing_append_cons kept]

theorem trimBoth_append_left {blank : List Char} (each : ∀ c ∈ blank, p c = true)
    (text : List Char) : trimBoth p (blank ++ text) = trimBoth p text := by
  rw [trimBoth, List.dropWhile_append_of_pos each, trimBoth]

theorem dropTrailing_append_right {blank : List Char} (each : ∀ c ∈ blank, p c = true)
    (text : List Char) : dropTrailing p (text ++ blank) = dropTrailing p text := by
  have reversed : ∀ c ∈ blank.reverse, p c = true := fun c member =>
    each c (List.mem_reverse.mp member)
  rw [dropTrailing, List.reverse_append, List.dropWhile_append_of_pos reversed, dropTrailing]

theorem trimBoth_append_right {blank : List Char} (each : ∀ c ∈ blank, p c = true)
    (text : List Char) : trimBoth p (text ++ blank) = trimBoth p text := by
  rw [trimBoth, trimBoth, List.dropWhile_append]
  have gone : (blank ++ []).dropWhile p = [].dropWhile p := List.dropWhile_append_of_pos each
  rw [List.append_nil] at gone
  cases rest : text.dropWhile p with
  | nil => exact congrArg (dropTrailing p) gone
  | cons d ds => exact dropTrailing_append_right each (d :: ds)

/-- What has been trimmed at one end can still be trimmed at both. -/
theorem trimBoth_dropWhile (text : List Char) :
    trimBoth p (text.dropWhile p) = trimBoth p text := by
  have whole := List.takeWhile_append_dropWhile (p := p) (l := text)
  have blank : ∀ c ∈ text.takeWhile p, p c = true := List.all_eq_true.mp List.all_takeWhile
  exact (trimBoth_append_left blank _).symm.trans (congrArg (trimBoth p) whole)

theorem trimBoth_dropTrailing (text : List Char) :
    trimBoth p (dropTrailing p text) = trimBoth p text := by
  have whole : text = dropTrailing p text ++ (text.reverse.takeWhile p).reverse := by
    rw [dropTrailing, ← List.reverse_append, List.takeWhile_append_dropWhile, List.reverse_reverse]
  have blank : ∀ c ∈ (text.reverse.takeWhile p).reverse, p c = true := by
    intro c member
    exact List.all_eq_true.mp List.all_takeWhile c (List.mem_reverse.mp member)
  exact (trimBoth_append_right blank _).symm.trans (congrArg (trimBoth p) whole.symm)

end

end RequestBinding.Text
