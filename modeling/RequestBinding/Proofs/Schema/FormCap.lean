import RequestBinding.Proofs.Request.Payload
import RequestBinding.Proofs.Request.Repetition
import RequestBinding.Proofs.Schema.Nonzero

/-!
# The cap on forms

A registered record has a cap on form payloads. It is enforced by whoever asks a request for its
form first, so a record with a field for the form is bound only from a payload within the cap of
the first asker, and a larger payload ends the binding at that field
(`Registry.bindNew_form_within`). When all who asked before had caps no larger than that of the
record, the payload is within the cap of the record as well. But a larger cap of an earlier asker
lets a larger payload through, as `Registry.bindNew_form_beyond_cap` shows.
-/

namespace RequestBinding

namespace ParamsApi

variable {recs : Records} {api : ParamsApi} {param : ParamDescriptor} {pathParams : PathParams}

/-- A form that cannot be read is the failure of every field for the form. -/
theorem failure_of_unreadable_form (fromForm : param.position = .formData) {request : Request}
    {f : FormFailure} (unreadable : request.seenForm api.maxMemory = .error f) (type : WireType) :
    (api.settled recs pathParams request param type).failure = some (.request (.form f)) := by
  have read : (Exchange.formWithFiles api.maxMemory { request }).1 = .error f := by
    rw [(Exchange.formWithFiles_eq _ _).1, unreadable]
    rfl
  have source : (api.source param pathParams { request }).1 = .error (.request (.form f)) := by
    unfold ParamsApi.source
    rw [fromForm]
    simp only [bind, StateT.bind]
    rcases told : Exchange.formWithFiles api.maxMemory { request } with ⟨outcome, rest⟩
    rw [told] at read
    obtain rfl : outcome = .error f := read
    rfl
  have notBody : param.position ≠ .body := by
    rw [fromForm]
    nofun
  rw [settled, extract_of_position_ne notBody, source]
  rfl

end ParamsApi

namespace Registry

variable {registry origin : Registry} {recs : Records} {options : RegisterOptions}
  {template : Option Value} {r : Record} {api : ParamsApi}

/-- Changing the cap of a record changes nothing else of it. -/
theorem find?_setMaxMemory (registry : Registry) (ident : String) (cap : Nat) :
    (registry.setMaxMemory ident cap).find? ident =
      (registry.find? ident).map fun api => { api with maxMemory := cap } := by
  unfold find? setMaxMemory
  simp only
  induction registry.apis with
  | nil => rfl
  | cons api rest ih =>
    rw [List.map_cons, List.find?_cons, List.find?_cons]
    by_cases own : (api.ident == ident) = true
    · rw [if_pos own]
      simp [own]
    · rw [if_neg own]
      simp only [Bool.not_eq_true] at own
      rw [own]
      exact ih

/-- Whatever has been done with a request before, a record with a field for the form is bound only
from a form whose payload was within the cap of the first who asked for it; and so within the cap of
the record, when no one else has asked under a larger one. A larger payload ends the binding when it
comes to the field. -/
theorem bindNew_form_within [Pattern.Engine] (derived : r.Derived)
    (registered : (origin.register recs options template r).1 = .ok api) (cap : Nat)
    (current : registry.find? r.ident = some { api with maxMemory := cap })
    {param : ParamDescriptor} (own : param ∈ api.params) (fromForm : param.position = .formData)
    (pathParams : PathParams) (before : List Operation) {x : Exchange}
    (unread : x.request.readForm = none) :
    let served : ParamsApi := { api with maxMemory := cap }
    let y := (Operation.run before x).2
    let bound := (registry.bindNew recs r pathParams y).1
    (∃ log, (Operation.run before).Trace x log) ∧
      ∀ log, (Operation.run before).Trace x log →
        let first := decider log ⟨y, .formData, cap⟩
        let payload := first.before.request.payload
        (∀ v, bound = .ok v → payload ≤ first.cap ∧
          ((∀ t ∈ log, t.position = .formData → t.cap ≤ cap) → payload ≤ cap)) ∧
        (first.cap < payload → ∀ front back, served.params = front ++ param :: back →
          (∀ p ∈ front, ∃ found,
            served.alone recs r.fields pathParams y.request p = .ok found) →
          ∃ f, bound = .error (served.failure param (.request (.form f))) ∧
            f.size = payload ∧ f.limit = first.cap) := by
  intro served y bound
  refine ⟨(Operation.run_reads before).exists_trace x, fun log trace => ?_⟩
  intro first payload
  have told : y.request.seenForm cap = first.before.request.firstForm first.cap :=
    trace.linked.seenForm_eq unread y.events cap
  have alone := bindNew_eq_alone derived registered cap current pathParams y
  obtain ⟨typed, -, -, failing, -⟩ := alone
  constructor
  · intro v ok
    have within : payload ≤ first.cap := by
      rcases first.before.request.firstForm_cases first.cap with ⟨small, -⟩ | ⟨-, f, failed, -⟩
      · exact small
      · obtain ⟨type, -, passes, -⟩ := bindNew_eq_ok derived registered current ok param own
        rw [ParamsApi.failure_of_unreadable_form fromForm (told.trans failed)] at passes
        cases passes
    exact ⟨within, fun capped => Nat.le_trans within (cap_decider_le capped)⟩
  · intro large front back split passes
    rcases first.before.request.firstForm_cases first.cap with
      ⟨small, -⟩ | ⟨-, f, failed, size, limit⟩
    · exact absurd large (Nat.not_lt_of_le small)
    · refine ⟨f, ?_, size, limit⟩
      obtain ⟨type, typeOf⟩ := typed param own
      have alone : served.alone recs r.fields pathParams y.request param =
          .error (served.failure param (.request (.form f))) := by
        rw [ParamsApi.alone, typeOf]
        exact ParamsApi.outcome_eq_error_iff.mpr
          ⟨_, ParamsApi.failure_of_unreadable_form fromForm (told.trans failed) type, rfl⟩
      exact (failing front param back _ split passes alone).1

theorem derived_visit : visit.Derived where
  handles := by decide +kernel
  shape := FieldTable.fits_zero {} visit.fields

/-- The visits, with a cap on their forms. -/
def visits (cap : Nat) : Registry :=
  let registration := ({} : Registry).register {} { mapper := id, decoder := fun _ => none } none
    visit
  registration.2.1.setMaxMemory visit.ident cap

/-- A request with a form of seven octets. -/
def noteRequest : Exchange :=
  { request :=
      { headers := [("content-type", Text.utf8Bytes Request.urlEncodedType)]
        body := some (Text.utf8Bytes "note=ok") } }

/-- A visit is bound from a form within its cap, which others have asked for under smaller caps
only. -/
theorem bindNew_form_within_visit :
    let before : List Operation := [.query, .form 8]
    let y := (Operation.run before noteRequest).2
    ∃ v log, ((visits 9).bindNew {} visit [] y).1 = .ok v ∧
      (Operation.run before).Trace noteRequest log ∧
      (decider log ⟨y, .formData, 9⟩).before.request.payload ≤ 9 := by
  intro before y
  obtain ⟨api, registered⟩ : ∃ api, (({} : Registry).register {}
    { mapper := id, decoder := fun _ => none } none visit).1 = .ok api := ⟨_, rfl⟩
  have current : (visits 9).find? visit.ident = some { api with maxMemory := 9 } := by
    rw [visits, find?_setMaxMemory, find?_register registered]
    rfl
  have fields : (visits 9).find? visit.ident |>.any
      (·.params.any (·.position == .formData)) := by decide +kernel
  rw [current] at fields
  obtain ⟨param, own, fromForm⟩ := List.any_eq_true.mp fields
  obtain ⟨v, bound⟩ : ∃ v, ((visits 9).bindNew {} visit [] y).1 = .ok v := ⟨_, rfl⟩
  have trace : (Operation.run before).Trace noteRequest _ :=
    .bind (.bind (.query noteRequest) (.done _ _)) <|
      .bind (.bind (.form 8 _) (.done _ _)) (.done _ _)
  have unread : noteRequest.request.readForm = none := rfl
  obtain ⟨-, capped⟩ := bindNew_form_within derived_visit registered 9 current own
    (beq_iff_eq.mp fromForm) [] before unread
  obtain ⟨within, -⟩ := capped _ trace
  refine ⟨v, _, bound, trace, (within v bound).2 fun t member _ => ?_⟩
  rcases List.mem_cons.mp member with rfl | later
  · exact Nat.zero_le 9
  · obtain rfl := List.mem_singleton.mp later
    exact Nat.le_succ 8

/-- Somebody who asks for the form under a larger cap before makes the smaller cap of a record
without effect. -/
theorem bindNew_form_beyond_cap :
    let y := (Operation.run [.form 8] noteRequest).2
    ((visits 3).find? visit.ident).any (·.maxMemory == 3) = true ∧
      noteRequest.request.payload = 7 ∧
      (∃ v, ((visits 3).bindNew {} visit [] y).1 = .ok v ∧ v.part? [1] = some (.text "ok")) ∧
      ∃ e, ((visits 3).bindNew {} visit [] noteRequest).1 = .error e ∧
        e.cause = .request (.form (.bodyTooLarge 7 3)) :=
  ⟨by decide +kernel, by decide +kernel, ⟨_, rfl, rfl⟩, _, rfl, by decide +kernel⟩

end Registry

end RequestBinding
