import RequestBinding.Pattern.Dialect
import RequestBinding.Proofs.Schema.Registration
import RequestBinding.Proofs.Schema.Settling

/-!
# The fields of a record are bound independently

`Registry.bindNew_eq_alone` says what binding makes of a new value of a registered record, in terms
of what each descriptor does alone on the request as it was before: when the value is bound, what
its fields hold then, and which error ends the binding otherwise.
-/

namespace RequestBinding

namespace Registry

variable {registry : Registry} {recs : Records} {options : RegisterOptions}
  {template : Option Value} {r : Record} {api : ParamsApi}

theorem bindAt_eq (recs : Records) (found : registry.find? r.ident = some api)
    (handles : r.fields.handles.length = api.params.length) (pathParams : PathParams)
    (whole : Value) :
    registry.bindAt recs r pathParams whole =
      api.bindAll recs pathParams (api.params.zip r.fields.handles) whole := by
  rw [bindAt, found]
  exact if_pos (beq_iff_eq.mpr handles)

theorem bindNew_eq (recs : Records) (found : registry.find? r.ident = some api)
    (handles : r.fields.handles.length = api.params.length) (pathParams : PathParams)
    (x : Exchange) :
    (registry.bindNew recs r pathParams x).1 =
      let bound := (api.bindAll recs pathParams (api.params.zip r.fields.handles)
        (.record r.zero) x).1
      bound.1.map fun _ => bound.2 := by
  rw [bindNew, bindAt_eq recs found handles]
  rfl

namespace Paired

variable {todo : List (ParamDescriptor × Leaf)} {pathParams : PathParams} {request : Request}
  {param : ParamDescriptor}

theorem exists_of_mem (paired : Paired r api.params todo) (member : param ∈ api.params) :
    ∃ p ∈ todo, p.1 = param := by
  rw [← paired.params] at member
  exact List.mem_map.mp member

theorem mem_params (paired : Paired r api.params todo) {p : ParamDescriptor × Leaf}
    (member : p ∈ todo) : p.1 ∈ api.params := by
  rw [← paired.params]
  exact List.mem_map_of_mem member

/-- What a descriptor does alone is what is settled for it and its leaf. -/
theorem alone_eq (paired : Paired r api.params todo) {p : ParamDescriptor × Leaf}
    (member : p ∈ todo) :
    api.alone recs r.fields pathParams request p.1 =
      api.outcome p.1 (api.settled recs pathParams request p.1 p.2.type) := by
  rw [ParamsApi.alone, paired.typed p member]

theorem forall_alone_iff (paired : Paired r api.params todo) :
    (∀ param ∈ api.params, ∃ found,
        api.alone recs r.fields pathParams request param = .ok found) ↔
      ∀ p ∈ todo, (api.settled recs pathParams request p.1 p.2.type).failure = none := by
  constructor
  · intro succeed p member
    obtain ⟨found, ok⟩ := succeed p.1 (paired.mem_params member)
    rw [paired.alone_eq member, ParamsApi.outcome_eq_ok_iff] at ok
    exact ok.1
  · intro passes param own
    obtain ⟨p, member, rfl⟩ := paired.exists_of_mem own
    rw [paired.alone_eq member]
    exact ⟨_, ParamsApi.outcome_eq_ok_iff.mpr ⟨passes p member, rfl⟩⟩

/-- When nothing fails, a new value holds in the end what each descriptor finds alone. -/
theorem part?_storeAll (paired : Paired r api.params todo) (shape : r.fields.Fits r.zero) :
    let final := ParamsApi.storeAll
      (fun p => api.settled recs pathParams request p.1 p.2.type) todo (.record r.zero)
    (∀ param ∈ api.params, ∀ found,
        api.alone recs r.fields pathParams request param = .ok found →
          final.part? param.path = found.or ((Value.record r.zero).part? param.path)) ∧
      ∀ path f, r.fields.HasField path f → (∀ param ∈ api.params, param.path ≠ path) →
        final.part? path = (Value.record r.zero).part? path := by
  obtain ⟨stores, keeps⟩ := ParamsApi.storeAll_spec
    (fun p => api.settled recs pathParams request p.1 p.2.type) shape
    (fun p member => ⟨_, paired.placed p member⟩) paired.distinct
  constructor
  · intro param own found ok
    obtain ⟨p, member, rfl⟩ := paired.exists_of_mem own
    rw [paired.alone_eq member, ParamsApi.outcome_eq_ok_iff] at ok
    obtain ⟨_, rfl⟩ := ok
    rw [paired.path p member]
    exact stores p member
  · intro path f has untouched
    refine keeps path f has fun p member => ?_
    rw [← paired.path p member]
    exact untouched p.1 (paired.mem_params member)

/-- The first descriptor that fails alone ends the binding with its error. -/
theorem settleAll_eq_error (paired : Paired r api.params todo) {before after : List ParamDescriptor}
    {e : BindError} (split : api.params = before ++ param :: after)
    (passes : ∀ p ∈ before, ∃ found,
      api.alone recs r.fields pathParams request p = .ok found)
    (fails : api.alone recs r.fields pathParams request param = .error e) (whole : Value) :
    (api.settleAll (fun p => api.settled recs pathParams request p.1 p.2.type) todo whole).1 =
        .error e ∧
      ∃ cause, e = api.failure param cause := by
  rw [← paired.params] at split
  obtain ⟨front, back, rfl, rfl, rest⟩ := List.map_eq_append_iff.mp split
  obtain ⟨p, later, rfl, rfl, rfl⟩ := List.map_eq_cons_iff.mp rest
  have member : p ∈ front ++ p :: later := List.mem_append_right front List.mem_cons_self
  rw [paired.alone_eq member, ParamsApi.outcome_eq_error_iff] at fails
  obtain ⟨cause, failure, rfl⟩ := fails
  have good : ∀ q ∈ front,
      (api.settled recs pathParams request q.1 q.2.type).failure = none := by
    intro q earlier
    obtain ⟨found, ok⟩ := passes q.1 (List.mem_map_of_mem earlier)
    rw [paired.alone_eq (List.mem_append_left _ earlier), ParamsApi.outcome_eq_ok_iff] at ok
    exact ok.1
  rw [ParamsApi.settleAll_eq_error good failure]
  exact ⟨rfl, cause, rfl⟩

/-- Later descriptors take the same from a request, whether an earlier one has been processed or
not. -/
theorem extract_fst_eq (paired : Paired r api.params todo) :
    api.params.Pairwise fun earlier later => ∀ (type type' : WireType) (x : Exchange),
      (api.extract recs later type' pathParams
          (api.extract recs earlier type pathParams x).2).1 =
        (api.extract recs later type' pathParams x).1 := by
  have compatible := paired.compatible
  rw [← List.pairwise_map (f := Prod.fst) (R := fun d e : ParamDescriptor =>
    ¬ d.position.Clash e.position), paired.params] at compatible
  refine compatible.imp fun apart type type' x => ?_
  apply ParamsApi.extract_congr
  rw [ParamsApi.extract_request, Request.offers_after apart]

end Paired

section

variable [Pattern.Engine] {origin : Registry} (derived : r.Derived)
  (registered : (origin.register recs options template r).1 = .ok api) {cap : Nat}
  (current : registry.find? r.ident = some { api with maxMemory := cap })
  {pathParams : PathParams} {x : Exchange}

include derived registered

/-- The descriptors are served with their leaves whatever the cap on forms is. -/
theorem served_paired :
    let served : ParamsApi := { api with maxMemory := cap }
    Paired r served.params (served.params.zip r.fields.handles) := by
  have atRegistration := registered_paired derived registered
  exact atRegistration

include current

/-- A new value of a registered record is bound by settling its fields one after the other. -/
theorem bindNew_eq_settleAll :
    let served : ParamsApi := { api with maxMemory := cap }
    let run := served.settleAll
      (fun p => served.settled recs pathParams x.request p.1 p.2.type)
      (served.params.zip r.fields.handles) (.record r.zero)
    (registry.bindNew recs r pathParams x).1 = run.1.map fun _ => run.2 := by
  intro served run
  have counted := registered_counted derived registered
  have paired : Paired r served.params _ := served_paired derived registered
  rw [bindNew_eq recs current counted,
    ParamsApi.bindAll_eq_settleAll (fun _ _ => rfl) paired.compatible]

/-- When the other descriptors succeed alone, the descriptor decides whether a new value is bound,
and what its field holds then. -/
theorem bindNew_of_others :
    let served : ParamsApi := { api with maxMemory := cap }
    let alone := served.alone recs r.fields pathParams x.request
    let bound := (registry.bindNew recs r pathParams x).1
    ∀ param ∈ served.params,
      (∀ other ∈ served.params, other ≠ param → ∃ found, alone other = .ok found) →
        (∀ w, alone param = .ok (some w) → ∃ v, bound = .ok v ∧ v.part? param.path = some w) ∧
          ∀ e, alone param = .error e → bound = .error e := by
  intro served alone bound param own others
  have paired : Paired r served.params _ := served_paired derived registered
  have run : bound = _ := bindNew_eq_settleAll derived registered current
  constructor
  · intro w succeeds
    have all : ∀ other ∈ served.params, ∃ found, alone other = .ok found := by
      intro other member
      by_cases same : other = param
      · exact ⟨_, same ▸ succeeds⟩
      · exact others other member same
    have passes := paired.forall_alone_iff.mp all
    rw [ParamsApi.settleAll_eq_ok passes] at run
    exact ⟨_, run, ((paired.part?_storeAll derived.shape).1 param own _ succeeds).trans
      Option.some_or⟩
  · intro e fails
    obtain ⟨before, after, split, fresh⟩ := List.eq_append_cons_of_mem own
    have earlier : ∀ p ∈ before, ∃ found, alone p = .ok found := by
      intro p member
      refine others p ?_ (fun same => fresh (same ▸ member))
      rw [split]
      exact List.mem_append_left _ member
    obtain ⟨ends, -⟩ := paired.settleAll_eq_error split earlier fails (.record r.zero)
    rw [run, ends]
    rfl

end

/-- A new value of a registered record is bound exactly when every descriptor alone succeeds on the
request as it is before the binding. Then the field of each descriptor holds what the descriptor
finds alone, or else what a new value holds there, and so does every field without a descriptor.
Otherwise the binding fails with the error of the first descriptor that fails alone. No descriptor
changes what a later one takes from a request. -/
theorem bindNew_eq_alone [Pattern.Engine] {origin : Registry} (derived : r.Derived)
    (registered : (origin.register recs options template r).1 = .ok api) (cap : Nat)
    (current : registry.find? r.ident = some { api with maxMemory := cap })
    (pathParams : PathParams) (x : Exchange) :
    let served : ParamsApi := { api with maxMemory := cap }
    let alone := served.alone recs r.fields pathParams x.request
    let bound := (registry.bindNew recs r pathParams x).1
    let initial : Value := .record r.zero
    (∀ param ∈ served.params, ∃ type, r.fields.typeAt? param.path = some type) ∧
      ((∃ v, bound = .ok v) ↔ ∀ param ∈ served.params, ∃ found, alone param = .ok found) ∧
      (∀ v, bound = .ok v →
        (∀ param ∈ served.params, ∀ found, alone param = .ok found →
          v.part? param.path = found.or (initial.part? param.path)) ∧
        ∀ path f, r.fields.HasField path f → (∀ param ∈ served.params, param.path ≠ path) →
          v.part? path = initial.part? path) ∧
      (∀ before param after e, served.params = before ++ param :: after →
        (∀ p ∈ before, ∃ found, alone p = .ok found) → alone param = .error e →
          bound = .error e ∧ e.api = r.name ∧ e.param = param.name ∧
            e.custom = param.customError) ∧
      served.params.Pairwise fun earlier later => ∀ (type type' : WireType) (y : Exchange),
        (served.extract recs later type' pathParams
            (served.extract recs earlier type pathParams y).2).1 =
          (served.extract recs later type' pathParams y).1 := by
  intro served alone bound initial
  let todo := served.params.zip r.fields.handles
  let settled := fun p : ParamDescriptor × Leaf =>
    served.settled recs pathParams x.request p.1 p.2.type
  have atRegistration := registered_paired derived registered
  -- The cap of forms is none of the descriptors' concern.
  have paired : Paired r served.params todo := atRegistration
  have run : bound = (served.settleAll settled todo initial).1.map fun _ =>
      (served.settleAll settled todo initial).2 := by
    have counted := registered_counted derived registered
    have eq := bindNew_eq recs (r := r) current counted pathParams x
    rw [ParamsApi.bindAll_eq_settleAll (fun _ _ => rfl) paired.compatible] at eq
    exact eq
  have succeeds : (∃ v, bound = .ok v) ↔ ∀ p ∈ todo, (settled p).failure = none := by
    calc (∃ v, bound = .ok v) ↔ (served.settleAll settled todo initial).1 = .ok () := by
          rw [run]
          cases (served.settleAll settled todo initial).1 with
          | error e => exact iff_of_false (fun ⟨_, ok⟩ => nomatch ok) (fun ok => nomatch ok)
          | ok _ => exact iff_of_true ⟨_, rfl⟩ rfl
      _ ↔ ∀ p ∈ todo, (settled p).failure = none := ParamsApi.settleAll_fst_eq_ok_iff
  refine ⟨?_, ?_, ?_, ?_, paired.extract_fst_eq⟩
  · intro param own
    obtain ⟨p, member, rfl⟩ := paired.exists_of_mem own
    exact ⟨p.2.type, paired.typed p member⟩
  · rw [succeeds]
    exact paired.forall_alone_iff.symm
  · intro v ok
    have passes := succeeds.mp ⟨v, ok⟩
    rw [run, ParamsApi.settleAll_eq_ok passes] at ok
    obtain rfl : ParamsApi.storeAll settled todo initial = v := Except.ok.inj ok
    exact paired.part?_storeAll derived.shape
  · intro before param after e split passes fails
    obtain ⟨ends, cause, rfl⟩ := paired.settleAll_eq_error split passes fails initial
    refine ⟨?_, registered_name registered, rfl, rfl⟩
    rw [run, ends]
    rfl

/-- An order: its page is a flattened record, and nothing is bound to whether it was seen. -/
def order : Record :=
  let page : FieldTable :=
    .field (.annotated "limit" (.scalar (.int .uint8)) "<in:query> <required>")
      (.field (.annotated "tags" (.seq (.scalar .text)) "<in:query>") .nil)
  let fields : FieldTable :=
    .field (.annotated "id" (.scalar (.int .int32)) "<in:path>")
      (.flattened "page" "Page" page
        (.field (.annotated "note" (.scalar .text) "<in:formData> <required>")
          (.field (.plain "seen" (.scalar .bool))
            (.field (.annotated "trace" (.scalar .text) "<in:header>") .nil))))
  { ident := "Order", name := "Order", fields, zero := fields.zero {} }

theorem derived_order : order.Derived where
  handles := by decide +kernel
  shape := FieldTable.fits_zero {} order.fields

theorem bindNew_order_eq_alone :
    let registration := ({} : Registry).register {} { mapper := id, decoder := fun _ => none }
      none order
    let request : Request :=
      { target := { query := some "limit=7" }
        headers := [("content-type", "application/x-www-form-urlencoded".toUTF8.toList)]
        body := some "note=ok".toUTF8.toList }
    ∃ api v, registration.1 = .ok api ∧ registration.2.1.find? order.ident = some api ∧
      (registration.2.1.bindNew {} order [("id", "5")] { request }).1 = .ok v ∧
      (v matches .record [.int 5, .record [.int 7, .seq []], .text "ok", .bool false, .text ""]) ∧
      ∀ param ∈ api.params, ∃ found,
        api.alone {} order.fields [("id", "5")] request param = .ok found := by
  intro registration request
  have accepted : registration.1.isOk = true := by decide +kernel
  have evaluated : (registration.2.1.bindNew {} order [("id", "5")] { request }).1.toOption.any
      (· matches .record [.int 5, .record [.int 7, .seq []], .text "ok", .bool false, .text ""]) =
        true := by decide +kernel
  cases registered : registration.1 with
  | error e =>
    rw [registered] at accepted
    cases accepted
  | ok api =>
    have current := find?_register registered
    cases bound : (registration.2.1.bindNew {} order [("id", "5")] { request }).1 with
    | error e =>
      rw [bound] at evaluated
      cases evaluated
    | ok v =>
      rw [bound] at evaluated
      obtain ⟨_, succeeds, _⟩ := bindNew_eq_alone derived_order registered api.maxMemory current
        [("id", "5")] { request }
      exact ⟨api, v, rfl, current, rfl, evaluated, succeeds.mp ⟨v, bound⟩⟩

end Registry

end RequestBinding
