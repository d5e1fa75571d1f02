import RequestBinding.Pattern.Dialect
import RequestBinding.Proofs.Constraint.ZeroValues
import RequestBinding.Proofs.Convert.Likeness
import RequestBinding.Proofs.Request.Likeness
import RequestBinding.Proofs.Schema.Settling
import RequestBinding.Schema.Registry

/-!
# What the log tells of values

Two requests that differ in their values only are bound side by side. While both binds get on they
report the same: reading a request reports counts, a field that has been bound is reported by its
name, and whether there is a value for it is decided by keys. A failure is reported with its text.
So the log can tell the two requests apart in one way only, by the generated text of a failure that
mentions the value (`Registry.bindNew_events`), and it does (`Registry.bindNew_events_paging_ne`).

* `ParamsApi.extract_alike`, `ParamsApi.settle_alike`, `ParamsApi.bindParam_alike`: one descriptor.
* `ParamsApi.bindAll_alike`: all descriptors, by induction. That the exchanges are alike is the
  invariant.
* `ParamsApi.progress`: how far a bind gets, which tells at which descriptor it fails
  (`ParamsApi.bindAll_progress`).
-/

namespace RequestBinding

/-- The wording of the cause tells something about a value, or may do so: what a decoder says is its
own affair. -/
def BindCause.TellsValue : BindCause → Prop
  | .conversion e => e.TellsValue
  | .validation v => v.kind ≠ .notSet
  | .request .undecodable => True
  | .request (.form _) => False
  | .request (.handleCount _ _) => False
  | .missing _ => False
  | .notRegistered => False

theorem PathParams.isSome_get?_eq {params others : PathParams} (name : String)
    (names : params.map (·.1) = others.map (·.1)) :
    (params.get? name).isSome = (others.get? name).isSome := by
  have found : ∀ params : PathParams,
      (params.get? name).isSome = (params.map (·.1)).contains name := by
    intro params
    induction params with
    | nil => rfl
    | cons p rest ih =>
      rw [get?] at ih ⊢
      rw [List.lookup_cons, List.map_cons, List.contains_cons, ← ih]
      cases name == p.1 <;> rfl
  rw [found, found, names]

namespace ParamsApi

variable {recs : Records} {api : ParamsApi} {param : ParamDescriptor} {type : WireType}
  {pathParams pathParams' : PathParams} {x y : Exchange}

/-- Alike requests give alike sources, or fail to in the same way. -/
theorem source_alike (alike : x.Alike y) (names : pathParams.map (·.1) = pathParams'.map (·.1))
    (notBody : param.position ≠ .body) :
    Indistinct (fun _ => False) (Option.Rel KeySource.Alike)
        (api.source param pathParams x).1 (api.source param pathParams' y).1 ∧
      (api.source param pathParams x).2.Alike (api.source param pathParams' y).2 := by
  unfold source
  cases position : param.position with
  | body => exact absurd position notBody
  | path =>
    have found := rel_of_isSome_eq (PathParams.isSome_get?_eq param.name names)
    simp only
    generalize pathParams.get? param.name = raw at found
    generalize pathParams'.get? param.name = raw' at found
    cases found with
    | none => exact ⟨.error _, alike⟩
    | some _ => exact ⟨.ok (.some (KeySource.alike_ofPairs rfl _)), alike⟩
  | query =>
    obtain ⟨values, rest⟩ := Exchange.query_alike alike
    exact ⟨.ok (.some (KeySource.alike_ofForm values _)), rest⟩
  | header =>
    have counted := alike.request.length_header_eq param.name
    refine ⟨.ok ?_, alike⟩
    generalize x.request.header param.name = raw at counted
    generalize y.request.header param.name = raw' at counted
    cases forall₂_of_length_eq counted with
    | nil => exact .none
    | cons _ _ =>
      refine .some (KeySource.alike_ofPairs ?_ _)
      simp only [List.map_map, Function.comp_def, List.map_const', counted]
  | cookie =>
    obtain ⟨names, rest⟩ := Exchange.cookies_alike alike
    refine ⟨.ok (.some (KeySource.Alike.with_cookies (KeySource.alike_ofPairs ?_ _) names)), rest⟩
    rw [List.map_map, List.map_map]
    exact names
  | formData =>
    obtain ⟨forms, rest⟩ := Exchange.formWithFiles_alike alike api.maxMemory
    simp only [bind, StateT.bind]
    generalize Exchange.formWithFiles api.maxMemory x = read at forms rest
    generalize Exchange.formWithFiles api.maxMemory y = read' at forms rest
    obtain ⟨outcome, x⟩ := read
    obtain ⟨outcome', y⟩ := read'
    cases forms with
    | error f => exact ⟨.error _, rest⟩
    | left told _ => cases told
    | right _ told => cases told
    | @ok form form' same =>
      obtain ⟨values, files⟩ := form
      obtain ⟨values', files'⟩ := form'
      exact ⟨.ok (.some (.with_files (KeySource.alike_ofForm same.1 _) same.2)), rest⟩

theorem ofBody_indistinct (type : WireType) (content other : Json) :
    ConvertedAlike (type.ofBody content) (type.ofBody other) := by
  cases type with
  | body target =>
    simp only [WireType.ofBody]
    cases target.shape.read content with
    | none => exact .left trivial _
    | some held =>
      cases target.shape.read other with
      | none => exact .right _ trivial
      | some held' => exact .ok trivial
  | _ => exact .error _

/-- A body is there for both requests or for neither. -/
theorem takeBodyValue_alike (alike : x.Alike y) :
    Indistinct BindCause.TellsValue SamePresence (api.takeBodyValue type x).1
        (api.takeBodyValue type y).1 ∧
      (api.takeBodyValue type x).2.Alike (api.takeBodyValue type y).2 := by
  have lengths := alike.request.body
  have rest := Exchange.takeBody_alike alike
  have taken : ∀ x : Exchange, Exchange.takeBody x = (x.request.body, (Exchange.takeBody x).2) :=
    fun _ => rfl
  unfold takeBodyValue
  simp only [bind, StateT.bind]
  rw [taken x, taken y]
  generalize x.request.body = body at lengths
  generalize y.request.body = body' at lengths
  rcases body with _ | _ | ⟨octet, octets⟩
  · cases body' with
    | none => exact ⟨.ok rfl, rest⟩
    | some _ => cases lengths
  · rcases body' with _ | _ | _
    · cases lengths
    · exact ⟨.ok rfl, rest⟩
    · cases lengths
  · rcases body' with _ | _ | ⟨octet', octets'⟩
    · cases lengths
    · cases lengths
    · simp only
      cases api.decoder (octet :: octets) with
      | none => cases api.decoder (octet' :: octets') <;> exact ⟨.left trivial _, rest⟩
      | some content =>
        cases api.decoder (octet' :: octets') with
        | none => exact ⟨.right _ trivial, rest⟩
        | some content' =>
          have converted := (ofBody_indistinct type content content').found id id
          exact ⟨converted.mapError fun _ told => told, rest⟩

/-- A descriptor finds a value in both of two alike requests or in neither, or fails in the same
way, unless a failure tells something about a value. -/
theorem extract_alike (alike : x.Alike y) (names : pathParams.map (·.1) = pathParams'.map (·.1)) :
    Indistinct BindCause.TellsValue SamePresence (api.extract recs param type pathParams x).1
        (api.extract recs param type pathParams' y).1 ∧
      (api.extract recs param type pathParams x).2.Alike
        (api.extract recs param type pathParams' y).2 := by
  by_cases isBody : param.position = .body
  · rw [extract_of_body isBody, extract_of_body isBody]
    exact takeBodyValue_alike alike
  · rw [extract_of_position_ne isBody, extract_of_position_ne isBody]
    obtain ⟨sources, rest⟩ := source_alike alike names isBody
    refine ⟨?_, rest⟩
    generalize (api.source param pathParams x).1 = source at sources
    generalize (api.source param pathParams' y).1 = source' at sources
    cases sources with
    | error cause => exact .error cause
    | left told _ => cases told
    | right _ told => cases told
    | @ok src? src?' same =>
      cases same with
      | none => exact .ok rfl
      | some same =>
        exact (WireType.find_indistinct same type param.name.toList).mapError fun _ told => told

/-! ## One descriptor -/

/-- Of alike outcomes that both fail or both pass, either something is stored in both cases or in
neither, or both fail for one cause or for causes of which one tells something about a value. -/
theorem settle_alike {outcome outcome' : Except BindCause (Option Value)}
    (alike : Indistinct BindCause.TellsValue SamePresence outcome outcome')
    (fates : (settle param outcome).failure.isSome = (settle param outcome').failure.isSome) :
    ((settle param outcome).failure = none ∧ (settle param outcome').failure = none ∧
        (settle param outcome).store.isSome = (settle param outcome').store.isSome) ∨
      ∃ cause cause', (settle param outcome).failure = some cause ∧
        (settle param outcome').failure = some cause' ∧
        (cause = cause' ∨ cause.TellsValue ∨ cause'.TellsValue) := by
  cases alike with
  | error cause => exact .inr ⟨cause, cause, rfl, rfl, .inl rfl⟩
  | left told y =>
    obtain ⟨cause', fails⟩ := Option.isSome_iff_exists.mp fates.symm
    exact .inr ⟨_, cause', rfl, fails, .inr (.inl told)⟩
  | right x told =>
    obtain ⟨cause, fails⟩ := Option.isSome_iff_exists.mp fates
    exact .inr ⟨cause, _, fails, rfl, .inr (.inr told)⟩
  | ok presence =>
    cases rel_of_isSome_eq presence with
    | none =>
      unfold settle
      cases param.required with
      | true => exact .inr ⟨_, _, rfl, rfl, .inl rfl⟩
      | false => exact .inl ⟨rfl, rfl, rfl⟩
    | @some v v' _ =>
      simp only [settle] at fates ⊢
      cases checked : param.validator.validate param.name v.view with
      | ok _ =>
        cases checked' : param.validator.validate param.name v'.view with
        | ok _ => exact .inl ⟨rfl, rfl, rfl⟩
        | error broken' =>
          rw [checked, checked'] at fates
          cases fates
      | error broken =>
        cases checked' : param.validator.validate param.name v'.view with
        | ok _ =>
          rw [checked, checked'] at fates
          cases fates
        | error broken' =>
          refine .inr ⟨_, _, rfl, rfl, ?_⟩
          by_cases notSet : broken.kind = .notSet
          · by_cases notSet' : broken'.kind = .notSet
            · rw [Validator.eq_of_validate_notSet checked notSet,
                Validator.eq_of_validate_notSet checked' notSet']
              exact .inl rfl
            · exact .inr (.inr notSet')
          · exact .inr (.inl notSet)

/-- A failure to bind a descriptor is one of this descriptor. -/
theorem bindParam_error {handle : Leaf} {whole : Value} (e : BindError)
    (failed : (api.bindParam recs param handle pathParams whole x).1.1 = .error e) :
    ∃ cause, e = api.failure param cause := by
  rw [bindParam_run] at failed
  simp only at failed
  cases own : (settle param (api.extract recs param handle.type pathParams x).1).failure with
  | some cause =>
    rw [own] at failed
    cases failed
    exact ⟨cause, rfl⟩
  | none =>
    rw [own] at failed
    cases failed

/-- Two binds fail at the descriptor, and what they report differs in the text of the failure at
most, which is the generated one and tells something about a value in at least one of them. -/
def TellsApart {α : Type} (api : ParamsApi) (param : ParamDescriptor)
    (outcome outcome' : Except BindError α) (events events' : List Event) : Prop :=
  ∃ cause cause' common, outcome = .error (api.failure param cause) ∧
    outcome' = .error (api.failure param cause') ∧
    events = common ++ [api.failureEvent param (api.failure param cause)] ∧
    events' = common ++ [api.failureEvent param (api.failure param cause')] ∧
    param.customError = none ∧ (cause.TellsValue ∨ cause'.TellsValue)

/-- A text of the field's own hides the cause of a failure. -/
theorem failureEvent_eq_of_custom {text : String} (custom : param.customError = some text)
    (cause cause' : BindCause) :
    api.failureEvent param (api.failure param cause) =
      api.failureEvent param (api.failure param cause') := by
  simp only [failureEvent, failure, BindError.message, custom, Option.getD_some]

theorem bindParam_alike {handle : Leaf} {whole whole' : Value} (alike : x.Alike y)
    (names : pathParams.map (·.1) = pathParams'.map (·.1))
    (fates : (api.bindParam recs param handle pathParams whole x).1.1.isOk =
      (api.bindParam recs param handle pathParams' whole' y).1.1.isOk) :
    let bound := api.bindParam recs param handle pathParams whole x
    let bound' := api.bindParam recs param handle pathParams' whole' y
    (bound.1.1.isOk = true → bound.2.Alike bound'.2) ∧
      (bound.1.1.isOk = false → bound.2.events = bound'.2.events ∨
        api.TellsApart param bound.1.1 bound'.1.1 bound.2.events bound'.2.events) := by
  obtain ⟨outcomes, rest⟩ :=
    @extract_alike recs api param handle.type pathParams pathParams' x y alike names
  simp only [bindParam_run] at fates ⊢
  generalize api.extract recs param handle.type pathParams x = read at fates outcomes rest ⊢
  generalize api.extract recs param handle.type pathParams' y = read' at fates outcomes rest ⊢
  have failed : ∀ failure : Option BindCause,
      (failure.elim (.ok ()) fun cause => (.error (api.failure param cause) :
        Except BindError Unit)).isOk = !failure.isSome := by
    intro failure
    cases failure <;> rfl
  simp only [failed, Bool.not_inj_iff] at fates ⊢
  rcases settle_alike outcomes fates with
    ⟨passes, passes', stores⟩ | ⟨cause, cause', fails, fails', causes⟩
  · refine ⟨fun _ => ?_, fun fails => ?_⟩
    · simp only [settledEvent?, passes, passes']
      generalize (settle param read.1).store = store at stores
      generalize (settle param read'.1).store = store' at stores
      cases rel_of_isSome_eq stores with
      | none => exact rest
      | some _ => exact ⟨rest.request, congrArg (· ++ [api.boundEvent param]) rest.events⟩
    · rw [passes] at fails
      cases fails
  · refine ⟨fun passes => ?_, fun _ => ?_⟩
    · rw [fails] at passes
      cases passes
    · simp only [settledEvent?, fails, fails', Option.elim_some, Exchange.report, rest.events]
      cases custom : param.customError with
      | some text => exact .inl (by rw [failureEvent_eq_of_custom custom cause cause'])
      | none =>
        rcases causes with rfl | told
        · exact .inl rfl
        · exact .inr ⟨cause, cause', read'.2.events, rfl, rfl, rfl, rfl, custom, told⟩

/-! ## Descriptor after descriptor -/

/-- How many descriptors are bound before the first failure. -/
def progress (recs : Records) (api : ParamsApi) (pathParams : PathParams) :
    List (ParamDescriptor × Leaf) → Value → Exchange → Nat
  | [], _, _ => 0
  | (param, handle) :: rest, whole, x =>
    match api.bindParam recs param handle pathParams whole x with
    | ((.error _, _), _) => 0
    | ((.ok (), whole), x) => api.progress recs pathParams rest whole x + 1

variable {todo rest : List (ParamDescriptor × Leaf)} {whole whole' : Value}

/-- Binding gets through all descriptors, or it fails at the one that its progress tells. -/
theorem bindAll_progress :
    ((api.bindAll recs pathParams todo whole x).1.1 = .ok () ↔
        api.progress recs pathParams todo whole x = todo.length) ∧
      ∀ e, (api.bindAll recs pathParams todo whole x).1.1 = .error e →
        ∃ p cause, todo[api.progress recs pathParams todo whole x]? = some p ∧
          e = api.failure p.1 cause := by
  induction todo generalizing whole x with
  | nil => exact ⟨iff_of_true rfl rfl, fun e failed => nomatch failed⟩
  | cons p rest ih =>
    have fails := @bindParam_error recs api p.1 pathParams x p.2 whole
    rw [bindAll_cons, progress]
    generalize api.bindParam recs p.1 p.2 pathParams whole x = step at fails ⊢
    rcases step with ⟨⟨e | _, stored⟩, later⟩
    · obtain ⟨cause, rfl⟩ := fails e rfl
      refine ⟨iff_of_false (fun bound => nomatch bound) (fun none => nomatch none), ?_⟩
      rintro _ ⟨⟩
      exact ⟨p, cause, rfl, rfl⟩
    · obtain ⟨through, stops⟩ := @ih later stored
      exact ⟨through.trans Nat.succ_inj.symm, stops⟩

/-- Binds of alike requests that get equally far report the same, unless they fail with the
generated text of a failure that tells something about a value. The requests stay alike up to the
failure. -/
theorem bindAll_alike (alike : x.Alike y) (names : pathParams.map (·.1) = pathParams'.map (·.1))
    (equallyFar : api.progress recs pathParams todo whole x =
      api.progress recs pathParams' todo whole' y) :
    let bound := api.bindAll recs pathParams todo whole x
    let bound' := api.bindAll recs pathParams' todo whole' y
    bound.2.events = bound'.2.events ∨
      ∃ p ∈ todo, api.TellsApart p.1 bound.1.1 bound'.1.1 bound.2.events bound'.2.events := by
  induction todo generalizing whole whole' x y with
  | nil => exact .inl alike.events
  | cons p rest ih =>
    have first := @bindParam_alike recs api p.1 pathParams pathParams' x y p.2 whole whole' alike
      names
    rw [bindAll_cons, bindAll_cons]
    rw [progress, progress] at equallyFar
    generalize api.bindParam recs p.1 p.2 pathParams whole x = step at first equallyFar ⊢
    generalize api.bindParam recs p.1 p.2 pathParams' whole' y = step' at first equallyFar ⊢
    rcases step with ⟨⟨e | _, stored⟩, later⟩
    · rcases step' with ⟨⟨e' | _, stored'⟩, later'⟩
      · rcases (first rfl).2 rfl with same | apart
        · exact .inl same
        · exact .inr ⟨p, List.mem_cons_self, apart⟩
      · cases equallyFar
    · rcases step' with ⟨⟨e' | _, stored'⟩, later'⟩
      · cases equallyFar
      · rcases ih ((first rfl).1 rfl) (Nat.succ.inj equallyFar) with same | ⟨q, member, apart⟩
        · exact .inl same
        · exact .inr ⟨q, List.mem_cons_of_mem p member, apart⟩

end ParamsApi

/-! ## Registered records -/

namespace Registry

/-- How many descriptors of a registered record are bound before the first failure. -/
def progress (registry : Registry) (recs : Records) (r : Record) (pathParams : PathParams)
    (x : Exchange) : Nat :=
  (registry.find? r.ident).elim 0 fun api =>
    api.progress recs pathParams (api.params.zip r.fields.handles) (.record r.zero) x

/-- Take two requests that differ in values only, and binds that get equally far with them: either
both succeed, or both fail at the same descriptor. Then they report the same, with one exception:
where the descriptor has no error text of its own, the report of a failure shows the generated text,
and the generated text of a value that cannot be converted, cannot be decoded or breaks a constraint
tells something about it. -/
theorem bindNew_events {registry : Registry} {recs : Records} {r : Record}
    {pathParams pathParams' : PathParams} {x y : Exchange} (alike : x.Alike y)
    (names : pathParams.map (·.1) = pathParams'.map (·.1))
    (equallyFar : registry.progress recs r pathParams x =
      registry.progress recs r pathParams' y) :
    let bound := registry.bindNew recs r pathParams x
    let bound' := registry.bindNew recs r pathParams' y
    bound.2.events = bound'.2.events ∨
      ∃ api, registry.find? r.ident = some api ∧
        ∃ param ∈ api.params,
          api.TellsApart param bound.1 bound'.1 bound.2.events bound'.2.events := by
  simp only [bindNew, bindAt, bind, StateT.bind]
  rw [progress, progress] at equallyFar
  cases found : registry.find? r.ident with
  | none => exact .inl alike.events
  | some api =>
    rw [found] at equallyFar
    simp only [ParamsApi.bindFields]
    by_cases counted : (r.fields.handles.length == api.params.length) = true
    · simp only [if_pos counted]
      rcases ParamsApi.bindAll_alike alike names equallyFar with same | ⟨p, member, apart⟩
      · exact .inl same
      · obtain ⟨cause, cause', common, fails, fails', events, events', told⟩ := apart
        refine .inr ⟨api, rfl, p.1, (List.of_mem_zip member).1, cause, cause', common, ?_, ?_,
          events, events', told⟩
        · show Except.map _ _ = _
          rw [fails]
          rfl
        · show Except.map _ _ = _
          rw [fails']
          rfl
    · simp only [if_neg counted]
      exact .inl alike.events

/-- A login: a user's number, and a code that has an error text of its own. -/
def login : Record :=
  let fields : FieldTable :=
    .field (.annotated "user" (.scalar (.int .uint32)) "<in:query>")
      (.field { Field.annotated "code" (.scalar (.int .uint32)) "<in:query>" with
        errorText := some "code refused" } .nil)
  { ident := "Login", name := "Login", fields, zero := fields.zero {} }

/-- Logins with codes of two characters that cannot be read report the same. -/
theorem bindNew_events_login :
    let registration := ({} : Registry).register {} { mapper := id, decoder := fun _ => none }
      none login
    let x : Exchange := { request := { target := { query := some "user=3&code=ab" } } }
    let y : Exchange := { request := { target := { query := some "user=7&code=xy" } } }
    registration.1.isOk = true ∧
      (registration.2.1.bindNew {} login [] x).1.isOk = false ∧
      (registration.2.1.bindNew {} login [] y).1.isOk = false ∧
      (registration.2.1.bindNew {} login [] x).2.events =
        (registration.2.1.bindNew {} login [] y).2.events := by
  intro registration x y
  have alike : x.Alike y :=
    ⟨⟨rfl, rfl, by decide +kernel, rfl, rfl, rfl, rfl, .none, .none, fun needs => nomatch needs⟩,
      rfl⟩
  refine ⟨rfl, rfl, rfl, ?_⟩
  rcases @bindNew_events registration.2.1 {} login [] [] x y alike rfl rfl with
    same | ⟨api, found, param, member, apart⟩
  · exact same
  · obtain ⟨cause, _, _, fails, _, _, _, generated, _⟩ := apart
    obtain ⟨e, failed, custom⟩ : ∃ e, (registration.2.1.bindNew {} login [] x).1 = .error e ∧
        e.custom = some "code refused" := ⟨_, rfl, rfl⟩
    obtain rfl := Except.error.inj (failed.symm.trans fails)
    cases generated.symm.trans custom

/-- A page of a listing. -/
def paging : Record :=
  let fields : FieldTable := .field (.annotated "page" (.scalar (.int .uint32)) "<in:query>") .nil
  { ident := "Paging", name := "Paging", fields, zero := fields.zero {} }

/-- Without an error text of the field's own the log tells the values apart that cannot be read: the
requests differ in one character, and both fail for the same reason. -/
theorem bindNew_events_paging_ne :
    let registration := ({} : Registry).register {} { mapper := id, decoder := fun _ => none }
      none paging
    let x : Exchange := { request := { target := { query := some "page=x" } } }
    let y : Exchange := { request := { target := { query := some "page=y" } } }
    registration.1.isOk = true ∧ x.Alike y ∧
      registration.2.1.progress {} paging [] x = registration.2.1.progress {} paging [] y ∧
      (∃ e e' reason, (registration.2.1.bindNew {} paging [] x).1 = .error e ∧
        (registration.2.1.bindNew {} paging [] y).1 = .error e' ∧ e.param = e'.param ∧
        e.cause = .conversion (.invalid "u32" "x" reason) ∧
        e'.cause = .conversion (.invalid "u32" "y" reason)) ∧
      (registration.2.1.bindNew {} paging [] x).2.events ≠
        (registration.2.1.bindNew {} paging [] y).2.events := by
  intro registration x y
  have alike : x.Alike y :=
    ⟨⟨rfl, rfl, by decide +kernel, rfl, rfl, rfl, rfl, .none, .none, fun needs => nomatch needs⟩,
      rfl⟩
  refine ⟨rfl, alike, rfl, ⟨_, _, _, rfl, rfl, rfl, rfl, rfl⟩, ?_⟩
  decide +kernel

end Registry

end RequestBinding
