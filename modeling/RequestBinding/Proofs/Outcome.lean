/-!
# Outcomes

When a step that builds on another outcome succeeds, which of several outcomes is the first error
(`FirstError`), what it means that one computation is at least as successful as another (`Kept`),
and what it means that two computations come to the same but for errors that tell them apart
(`Indistinct`).
-/

namespace RequestBinding

variable {ε α β : Type}

theorem Except.map_eq_ok_iff {f : α → β} {x : Except ε α} {b : β} :
    x.map f = .ok b ↔ ∃ a, x = .ok a ∧ f a = b := by
  cases x with
  | error e => simp [Except.map]
  | ok a => simp [Except.map]

theorem Except.map_eq_error_iff {f : α → β} {x : Except ε α} {e : ε} :
    x.map f = .error e ↔ x = .error e := by
  cases x with
  | error e' => simp [Except.map]
  | ok a => simp [Except.map]

theorem Except.bind_eq_error_iff {f : α → Except ε β} {x : Except ε α} {e : ε} :
    (x >>= f) = .error e ↔ x = .error e ∨ ∃ a, x = .ok a ∧ f a = .error e := by
  cases x with
  | error e' => simp [bind, Except.bind]
  | ok a => simp [bind, Except.bind]

theorem Except.map_bind {γ : Type} (x : Except ε α) (f : α → Except ε β) (g : β → γ) :
    (x >>= f).map g = x >>= fun a => (f a).map g := by
  cases x <;> rfl

theorem Except.mapError_eq_ok_iff {δ : Type} {f : ε → δ} {x : Except ε α} {a : α} :
    x.mapError f = .ok a ↔ x = .ok a := by
  cases x with
  | error e => exact iff_of_false (fun success => nomatch success) (fun success => nomatch success)
  | ok b =>
    constructor
    · rintro ⟨⟩
      rfl
    · rintro ⟨⟩
      rfl

theorem Except.bind_eq_ok_iff {f : α → Except ε β} {x : Except ε α} {b : β} :
    (x >>= f) = .ok b ↔ ∃ a, x = .ok a ∧ f a = .ok b := by
  cases x with
  | error e => simp [bind, Except.bind]
  | ok a => simp [bind, Except.bind]

/-- Going through the elements in order, the first outcome that is no success is the error `e`. -/
def FirstError (f : α → Except ε β) (elements : List α) (e : ε) : Prop :=
  ∃ before a after, elements = before ++ a :: after ∧ (∀ b ∈ before, ∃ v, f b = .ok v) ∧
    f a = .error e

namespace FirstError

variable {f : α → Except ε β} {a : α} {rest : List α} {e : ε}

theorem not_nil : ¬ FirstError f [] e := by
  rintro ⟨before, a, after, split, _⟩
  exact List.append_ne_nil_of_right_ne_nil before (List.cons_ne_nil a after) split.symm

theorem cons_iff :
    FirstError f (a :: rest) e ↔
      f a = .error e ∨ (∃ v, f a = .ok v) ∧ FirstError f rest e := by
  constructor
  · rintro ⟨before, b, after, split, good, bad⟩
    cases before with
    | nil =>
      cases split
      exact Or.inl bad
    | cons c others =>
      cases split
      exact Or.inr ⟨good _ List.mem_cons_self, others, b, after, rfl,
        fun d member => good d (List.mem_cons_of_mem _ member), bad⟩
  · rintro (bad | ⟨first, before, b, after, rfl, good, bad⟩)
    · exact ⟨[], a, rest, rfl, fun _ none => absurd none List.not_mem_nil, bad⟩
    · exact ⟨a :: before, b, after, rfl, List.forall_mem_cons.mpr ⟨first, good⟩, bad⟩

theorem cons_ok_iff {v : β} (first : f a = .ok v) :
    FirstError f (a :: rest) e ↔ FirstError f rest e := by
  rw [cons_iff, first]
  exact ⟨fun later => later.elim (nomatch ·) (·.2), fun later => Or.inr ⟨⟨v, rfl⟩, later⟩⟩

theorem cons_error_iff {e' : ε} (first : f a = .error e') :
    FirstError f (a :: rest) e ↔ e' = e := by
  rw [cons_iff, first]
  constructor
  · rintro (same | ⟨⟨_, none⟩, _⟩)
    · exact Except.error.inj same
    · cases none
  · rintro rfl
    exact Or.inl rfl

end FirstError

/-- Where the first outcome is a success, the second is the same success. -/
def Kept (x y : Except ε α) : Prop :=
  ∀ a, x = .ok a → y = .ok a

namespace Kept

variable {x y : Except ε α}

theorem refl (x : Except ε α) : Kept x x :=
  fun _ success => success

/-- An error keeps nothing. -/
theorem error (e : ε) (y : Except ε α) : Kept (.error e) y :=
  fun _ success => nomatch success

/-- A choice that both outcomes make alike. -/
theorem ite {x' y' : Except ε α} (c : Prop) [Decidable c] (yes : Kept x x') (no : Kept y y') :
    Kept (if c then x else y) (if c then x' else y') := by
  split
  · exact yes
  · exact no

theorem map (kept : Kept x y) (f : α → β) : Kept (x.map f) (y.map f) := by
  intro b success
  obtain ⟨a, first, rfl⟩ := Except.map_eq_ok_iff.mp success
  exact Except.map_eq_ok_iff.mpr ⟨a, kept a first, rfl⟩

theorem bind {f g : α → Except ε β} (kept : Kept x y) (rest : ∀ a, Kept (f a) (g a)) :
    Kept (x >>= f) (y >>= g) := by
  intro b success
  obtain ⟨a, first, second⟩ := Except.bind_eq_ok_iff.mp success
  exact Except.bind_eq_ok_iff.mpr ⟨a, kept a first, rest a b second⟩

end Kept

/-- Two outcomes that come to the same: both are successes, with results that are alike, or both are
the same error. If one of them is an error that tells what it is about, nothing is said of the
other. -/
inductive Indistinct (tells : ε → Prop) (alike : α → α → Prop) : Except ε α → Except ε α → Prop
  | ok {a b : α} (results : alike a b) : Indistinct tells alike (.ok a) (.ok b)
  | error (e : ε) : Indistinct tells alike (.error e) (.error e)
  | left {e : ε} (told : tells e) (y : Except ε α) : Indistinct tells alike (.error e) y
  | right {e : ε} (x : Except ε α) (told : tells e) : Indistinct tells alike x (.error e)

namespace Indistinct

variable {tells : ε → Prop} {alike : α → α → Prop} {x y : Except ε α}

theorem map {alike' : β → β → Prop} {f g : α → β} (outcomes : Indistinct tells alike x y)
    (results : ∀ a b, alike a b → alike' (f a) (g b)) :
    Indistinct tells alike' (x.map f) (y.map g) := by
  cases outcomes with
  | ok same => exact .ok (results _ _ same)
  | error e => exact .error e
  | left told y => exact .left told _
  | right x told => exact .right _ told

theorem bind {alike' : β → β → Prop} {f g : α → Except ε β} (outcomes : Indistinct tells alike x y)
    (rest : ∀ a b, alike a b → Indistinct tells alike' (f a) (g b)) :
    Indistinct tells alike' (x >>= f) (y >>= g) := by
  cases outcomes with
  | ok same => exact rest _ _ same
  | error e => exact .error e
  | left told y => exact .left told _
  | right x told => exact .right _ told

theorem mapError {δ : Type} {tells' : δ → Prop} {f : ε → δ} (outcomes : Indistinct tells alike x y)
    (errors : ∀ e, tells e → tells' (f e)) :
    Indistinct tells' alike (x.mapError f) (y.mapError f) := by
  cases outcomes with
  | ok same => exact .ok same
  | error e => exact .error (f e)
  | left told y => exact .left (errors _ told) _
  | right x told => exact .right _ (errors _ told)

theorem ite {x' y' : Except ε α} {c c' : Prop} [Decidable c] [Decidable c'] (same : c ↔ c')
    (yes : Indistinct tells alike x x') (no : Indistinct tells alike y y') :
    Indistinct tells alike (if c then x else y) (if c' then x' else y') := by
  by_cases holds : c
  · rw [if_pos holds, if_pos (same.mp holds)]
    exact yes
  · rw [if_neg holds, if_neg fun other => holds (same.mpr other)]
    exact no

end Indistinct

end RequestBinding
