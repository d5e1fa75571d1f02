import RequestBinding.Proofs.Request.Readings
import RequestBinding.Schema.Api

/-!
# Extraction of single values

The value of a descriptor depends on a request only through what the request offers to the
descriptor's position (`ParamsApi.extract_congr`), and taking it changes the request in the way that
reading this position does (`ParamsApi.extract_request`). So a descriptor takes the same value
before and after another one with a compatible position. When it takes none, reading has failed
(`ParamsApi.extract_fails`): no constraint is looked at before there is a value.
-/

namespace RequestBinding

/-- The request does not have the value, or it cannot be read, or the value not be converted. -/
inductive BindCause.OfReading : BindCause → Prop
  | missing (p : Position) : OfReading (.missing p)
  | conversion (e : ConvertError) : OfReading (.conversion e)
  | form (f : FormFailure) : OfReading (.request (.form f))
  | undecodable : OfReading (.request .undecodable)

namespace ParamsApi

variable {recs : Records} {api : ParamsApi} {param : ParamDescriptor} {type : WireType}
  {pathParams : PathParams} {x y : Exchange} {cause : BindCause}

/-! ## Sources -/

theorem source_request (notBody : param.position ≠ .body) :
    (api.source param pathParams x).2.request = x.request.after api.maxMemory param.position := by
  unfold source
  cases position : param.position with
  | body => exact absurd position notBody
  | path =>
    simp only
    cases pathParams.get? param.name <;> rfl
  | query => exact (Exchange.query_eq x).2 api.maxMemory
  | header => rfl
  | cookie => exact (Exchange.cookies_eq x).2 api.maxMemory
  | formData =>
    simp only [bind, StateT.bind]
    rw [← (Exchange.formWithFiles_eq x api.maxMemory).2]
    rcases Exchange.formWithFiles api.maxMemory x with ⟨outcome, rest⟩
    cases outcome <;> rfl

theorem source_congr (same : x.request.offers api.maxMemory param.position =
      y.request.offers api.maxMemory param.position) :
    (api.source param pathParams x).1 = (api.source param pathParams y).1 := by
  unfold source
  cases position : param.position with
  | body => rfl
  | path =>
    simp only
    cases pathParams.get? param.name <;> rfl
  | query =>
    rw [position] at same
    have read : (Exchange.query x).1 = (Exchange.query y).1 := by
      rw [(Exchange.query_eq x).1, (Exchange.query_eq y).1]
      exact Request.Offer.values.inj same
    exact Reading.bind_fst_congr read fun _ _ _ => rfl
  | header =>
    rw [position] at same
    have headers := Request.Offer.headers.inj same
    have read : x.request.header param.name = y.request.header param.name := by
      simp only [Request.header, Request.rawHeader, headers]
    exact congrArg (fun raw => Except.ok (if List.isEmpty raw then none
      else some (KeySource.ofPairs (raw.map fun value => (param.name, value)) api.maxIndex))) read
  | cookie =>
    rw [position] at same
    have read : (Exchange.cookies x).1 = (Exchange.cookies y).1 := by
      rw [(Exchange.cookies_eq x).1, (Exchange.cookies_eq y).1]
      exact Request.Offer.cookies.inj same
    exact Reading.bind_fst_congr read fun _ _ _ => rfl
  | formData =>
    rw [position] at same
    obtain ⟨outcome, files⟩ := Request.Offer.form.inj same
    have read : (Exchange.formWithFiles api.maxMemory x).1 =
        (Exchange.formWithFiles api.maxMemory y).1 := by
      rw [(Exchange.formWithFiles_eq x _).1, (Exchange.formWithFiles_eq y _).1, outcome, files]
    apply Reading.bind_fst_congr read
    intro form s t
    cases form <;> rfl

/-! ## Values -/

/-- What a source says about the value of a descriptor. -/
def convert (recs : Records) (param : ParamDescriptor) (type : WireType) :
    Except BindCause (Option KeySource) → Except BindCause (Option Value)
  | .error cause => .error cause
  | .ok none => .ok none
  | .ok (some src) => (type.find recs src .strict param.name.toList).mapError .conversion

theorem extract_of_position_ne (notBody : param.position ≠ .body) :
    api.extract recs param type pathParams x =
      (convert recs param type (api.source param pathParams x).1,
        (api.source param pathParams x).2) := by
  unfold extract
  cases position : param.position with
  | body => exact absurd position notBody
  | _ =>
    simp only [bind, StateT.bind]
    rcases api.source param pathParams x with ⟨outcome, rest⟩
    cases outcome with
    | error cause => rfl
    | ok src? => cases src? <;> rfl

theorem extract_of_body (isBody : param.position = .body) :
    api.extract recs param type pathParams x = api.takeBodyValue type x := by
  unfold extract
  rw [isBody]

theorem takeBodyValue_request :
    (api.takeBodyValue type x).2.request = { x.request with body := none } := by
  simp only [takeBodyValue, Exchange.takeBody, bind, StateT.bind]
  cases x.request.body with
  | none => rfl
  | some body =>
    cases body with
    | nil => rfl
    | cons octet octets =>
      simp only
      cases api.decoder (octet :: octets) <;> rfl

theorem takeBodyValue_congr (same : x.request.body = y.request.body) :
    (api.takeBodyValue type x).1 = (api.takeBodyValue type y).1 := by
  apply Reading.bind_fst_congr (m := Exchange.takeBody) same
  intro body s t
  cases body with
  | none => rfl
  | some body =>
    cases body with
    | nil => rfl
    | cons octet octets =>
      simp only
      cases api.decoder (octet :: octets) <;> rfl

/-- Taking the value of a descriptor leaves the request as reading its position does. -/
theorem extract_request :
    (api.extract recs param type pathParams x).2.request =
      x.request.after api.maxMemory param.position := by
  by_cases isBody : param.position = .body
  · rw [extract_of_body isBody, takeBodyValue_request, isBody]
    rfl
  · rw [extract_of_position_ne isBody]
    exact source_request isBody

/-- Requests that offer the same to the position of a descriptor give it the same value. -/
theorem extract_congr (same : x.request.offers api.maxMemory param.position =
      y.request.offers api.maxMemory param.position) :
    (api.extract recs param type pathParams x).1 =
      (api.extract recs param type pathParams y).1 := by
  by_cases isBody : param.position = .body
  · rw [isBody] at same
    rw [extract_of_body isBody, extract_of_body isBody]
    exact takeBodyValue_congr (Request.Offer.body.inj same)
  · rw [extract_of_position_ne isBody, extract_of_position_ne isBody, source_congr same]

/-! ## Failures -/

theorem source_fails (failed : (api.source param pathParams x).1 = .error cause) :
    cause.OfReading := by
  unfold source at failed
  cases position : param.position with
  | path =>
    rw [position] at failed
    simp only at failed
    cases found : pathParams.get? param.name with
    | none =>
      rw [found] at failed
      cases failed
      exact .missing .path
    | some raw =>
      rw [found] at failed
      cases failed
  | formData =>
    rw [position] at failed
    simp only [bind, StateT.bind] at failed
    rcases read : Exchange.formWithFiles api.maxMemory x with ⟨f | form, rest⟩
    · rw [read] at failed
      cases failed
      exact .form f
    · rw [read] at failed
      cases failed
  | query | header | cookie | body =>
    rw [position] at failed
    cases failed

theorem takeBodyValue_fails (failed : (api.takeBodyValue type x).1 = .error cause) :
    cause.OfReading := by
  simp only [takeBodyValue, bind, StateT.bind] at failed
  rcases taken : Exchange.takeBody x with ⟨_ | _ | ⟨octet, octets⟩, rest⟩
  · rw [taken] at failed
    cases failed
  · rw [taken] at failed
    cases failed
  · rw [taken] at failed
    simp only at failed
    cases decoded : api.decoder (octet :: octets) with
    | none =>
      rw [decoded] at failed
      cases failed
      exact .undecodable
    | some content =>
      simp only [decoded] at failed
      cases converted : type.ofBody content with
      | error e =>
        rw [converted] at failed
        cases failed
        exact .conversion e
      | ok v =>
        rw [converted] at failed
        cases failed

theorem extract_fails (failed : (api.extract recs param type pathParams x).1 = .error cause) :
    cause.OfReading := by
  by_cases isBody : param.position = .body
  · rw [extract_of_body isBody] at failed
    exact takeBodyValue_fails failed
  · rw [extract_of_position_ne isBody] at failed
    simp only at failed
    rcases read : (api.source param pathParams x).1 with other | _ | src
    · rw [read] at failed
      cases failed
      exact source_fails read
    · rw [read] at failed
      cases failed
    · rw [read, convert] at failed
      cases found : type.find recs src .strict param.name.toList with
      | error e =>
        rw [found] at failed
        cases failed
        exact .conversion e
      | ok v? =>
        rw [found] at failed
        cases failed

end ParamsApi

end RequestBinding
