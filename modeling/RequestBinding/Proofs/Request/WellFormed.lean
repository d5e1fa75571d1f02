import RequestBinding.Proofs.Form.Pairs
import RequestBinding.Proofs.Request.Operations

/-!
# The forms that a request holds

The forms of a request that comes in are made from pairs, and so are the forms that are read from
it. So the index of each fits its entries and no key is without values (`Request.WellFormed`),
whatever is done with the request (`Operation.run_wellFormed`).
-/

namespace RequestBinding

/-- Every form that the request holds has a fitting index and a value for every key. -/
structure Request.WellFormed (r : Request) : Prop where
  multipart : ∀ parts, r.multipart = some parts → parts.values.WellFormed
  query : ∀ values, r.readQuery = some values → values.WellFormed
  form : ∀ values, r.readForm = some (.ok values) → values.WellFormed

namespace Request.WellFormed

variable {r : Request} (wellFormed : r.WellFormed)

include wellFormed

theorem seenQuery : r.seenQuery.WellFormed := by
  unfold Request.seenQuery
  cases read : r.readQuery with
  | none => exact FormValues.wellFormed_parse _
  | some values => exact wellFormed.query values read

theorem seenForm {cap : Nat} {values : FormValues} (seen : r.seenForm cap = .ok values) :
    values.WellFormed := by
  unfold Request.seenForm at seen
  cases read : r.readForm with
  | some outcome =>
    rw [read] at seen
    cases seen
    exact wellFormed.form values read
  | none =>
    rw [read] at seen
    have first : r.firstForm cap = .ok values := seen
    unfold firstForm at first
    split at first
    · rename_i parts held
      split at first
      · cases first
      · cases first
        exact wellFormed.multipart parts held
    · split at first
      · split at first
        · cases first
        · cases first
          exact FormValues.wellFormed_parseBytes _
      · cases first
        exact FormValues.wellFormed_empty

/-- Reading a field of any position leaves the forms of a request well-formed. -/
theorem after (cap : Nat) (p : Position) : (r.after cap p).WellFormed := by
  cases p with
  | path => exact wellFormed
  | header => exact wellFormed
  | body => exact { wellFormed with }
  | cookie => exact { wellFormed with }
  | query =>
    refine { wellFormed with query := fun values read => ?_ }
    cases read
    exact wellFormed.seenQuery
  | formData =>
    refine { wellFormed with form := fun values read => ?_ }
    exact wellFormed.seenForm (Option.some.inj read)

end Request.WellFormed

theorem Linked.wellFormed {r s : Request} {log : List Touch} (linked : Linked r log s)
    (wellFormed : r.WellFormed) : s.WellFormed := by
  induction log generalizing r with
  | nil =>
    cases linked
    exact wellFormed
  | cons t rest ih =>
    obtain ⟨rfl, linkedRest⟩ := linked
    exact ih linkedRest (wellFormed.after t.cap t.position)

/-- The forms of a request stay well-formed whatever is done with it. -/
theorem Operation.run_wellFormed (ops : List Operation) {x : Exchange}
    (wellFormed : x.request.WellFormed) : (run ops x).2.request.WellFormed := by
  obtain ⟨log, trace⟩ := (run_reads ops).exists_trace x
  exact trace.linked.wellFormed wellFormed

end RequestBinding
