import RequestBinding.Proofs.Request.Trace

/-!
# The payload of a form

The form of a request is read once, and what came of it stays. So the limit that counts is that of
whoever asks for the form first: the form can be read exactly when its payload is within that limit
(`Request.firstForm_cases`), and everybody who asks later gets what the first got, whatever the own
limit (`Linked.seenForm_eq`).
-/

namespace RequestBinding

/-- The octets that the failure complains about. -/
def FormFailure.size : FormFailure → Nat
  | partsTooLarge size _ => size
  | bodyTooLarge size _ => size

/-- The limit that the failure complains about. -/
def FormFailure.limit : FormFailure → Nat
  | partsTooLarge _ limit => limit
  | bodyTooLarge _ limit => limit

/-- The octets of the form of a request: those of all its parts, or those of a url-encoded body as
long as nobody has taken it. -/
def Request.payload (r : Request) : Nat :=
  match r.multipart with
  | some form => form.byteSize
  | none => if r.isUrlEncoded then (r.body.getD []).length else 0

/-- Who asks for the form first gets it when its payload is within the limit, and else is told of
the payload and the limit. -/
theorem Request.firstForm_cases (r : Request) (cap : Nat) :
    (r.payload ≤ cap ∧ ∃ values, r.firstForm cap = .ok values) ∨
      (cap < r.payload ∧ ∃ f, r.firstForm cap = .error f ∧ f.size = r.payload ∧ f.limit = cap) := by
  unfold payload firstForm
  cases r.multipart with
  | some form =>
    by_cases large : form.byteSize > cap
    · exact Or.inr ⟨large, .partsTooLarge form.byteSize cap, if_pos large, rfl, rfl⟩
    · exact Or.inl ⟨Nat.le_of_not_gt large, form.values, if_neg large⟩
  | none =>
    by_cases encoded : r.isUrlEncoded = true
    · simp only [if_pos encoded]
      by_cases large : (r.body.getD []).length > cap
      · exact Or.inr ⟨large, .bodyTooLarge (r.body.getD []).length cap, if_pos large, rfl, rfl⟩
      · exact Or.inl ⟨Nat.le_of_not_gt large, _, if_neg large⟩
    · simp only [if_neg encoded]
      exact Or.inl ⟨Nat.zero_le cap, .empty, rfl⟩

/-- The first of elementary readings that asks for the form. -/
def firstAsker? (log : List Touch) : Option Touch :=
  log.find? (·.position == .formData)

/-- The reading that decides what comes of the form when `last` asks for it after others. -/
def decider (log : List Touch) (last : Touch) : Touch :=
  (firstAsker? log).getD last

namespace Linked

variable {r s : Request} {log : List Touch}

/-- What came of the form is what its first asker was told. -/
theorem readForm_eq (linked : Linked r log s) (unread : r.readForm = none) :
    s.readForm = (firstAsker? log).map fun t => t.before.request.firstForm t.cap := by
  induction log generalizing r with
  | nil =>
    cases linked
    exact unread
  | cons t rest ih =>
    obtain ⟨rfl, linkedRest⟩ := linked
    rw [firstAsker?, List.find?_cons]
    cases asked : t.position == .formData with
    | true =>
      have told : t.after.readForm = some (t.before.request.firstForm t.cap) := by
        rw [Touch.after, beq_iff_eq.mp asked, Request.after, Request.seenForm, unread]
        rfl
      exact linkedRest.follows.form _ told
    | false =>
      have untold : t.after.readForm = none := by
        rw [Touch.after, ← unread]
        cases position : t.position with
        | formData =>
          rw [position] at asked
          cases asked
        | _ => rfl
      exact ih linkedRest untold

/-- Whoever asks for the form is told what the first asker was told. -/
theorem seenForm_eq (linked : Linked r log s) (unread : r.readForm = none) (events : List Event)
    (cap : Nat) :
    let t := decider log ⟨⟨s, events⟩, .formData, cap⟩
    s.seenForm cap = t.before.request.firstForm t.cap := by
  intro t
  rw [Request.seenForm, linked.readForm_eq unread]
  show _ = ((firstAsker? log).getD _).before.request.firstForm ((firstAsker? log).getD _).cap
  cases firstAsker? log <;> rfl

end Linked

/-- When nobody in a run has asked for the form under a larger cap than the last, the reading that
decides has not either. -/
theorem cap_decider_le {log : List Touch} {last : Touch}
    (capped : ∀ t ∈ log, t.position = .formData → t.cap ≤ last.cap) :
    (decider log last).cap ≤ last.cap := by
  unfold decider
  cases first : firstAsker? log with
  | none => exact Nat.le_refl _
  | some t =>
    have asked := List.find?_some first
    exact capped t (List.mem_of_find?_eq_some first) (beq_iff_eq.mp asked)

end RequestBinding
