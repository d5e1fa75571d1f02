import RequestBinding.Pattern.Dialect
import RequestBinding.Proofs.Schema.Independence

/-!
# What binding leaves in its destination

Binding fills a record that somebody else owns, field after field, and stops at the first failure.
What it leaves behind is told by the descriptors (`Registry.bindAt_leaves`): before the failure each
field holds what was found for it, or what it held before when nothing was found; at the failure the
field holds a new value only if this has broken a constraint; after it, and where there is no
descriptor, nothing has changed. A value is put into its field as a whole, so no field is left
with a part of one.
-/

namespace RequestBinding

namespace ParamsApi

/-- What a descriptor that alone is bound takes from the request, before any constraint is looked
at. `table` tells the type of its field. -/
def found (recs : Records) (api : ParamsApi) (table : FieldTable) (pathParams : PathParams)
    (request : Request) (param : ParamDescriptor) : Except BindCause (Option Value) :=
  match table.typeAt? param.path with
  | none => .ok none
  | some type => (api.extract recs param type pathParams { request }).1

theorem found_fails {recs : Records} {api : ParamsApi} {table : FieldTable}
    {pathParams : PathParams} {request : Request} {param : ParamDescriptor} {cause : BindCause}
    (failed : api.found recs table pathParams request param = .error cause) :
    cause.OfReading := by
  unfold found at failed
  split at failed
  · cases failed
  · exact extract_fails failed

/-- Storing keeps the shape of a value. -/
theorem fits_storeAll (settled : ParamDescriptor × Leaf → Settled) {table : FieldTable}
    {todo : List (ParamDescriptor × Leaf)} {fields : List Value} (fits : table.Fits fields)
    (placed : ∀ p ∈ todo, ∃ f, table.HasField p.2.path f) :
    ∃ next, storeAll settled todo (.record fields) = .record next ∧ table.Fits next := by
  induction todo generalizing fields with
  | nil => exact ⟨fields, rfl, fits⟩
  | cons p rest ih =>
    obtain ⟨f, has⟩ := placed p List.mem_cons_self
    obtain ⟨next, stored, fitsNext, _⟩ := store_spec has fits (settled p).store
    obtain ⟨last, others, fitsLast⟩ :=
      ih fitsNext fun q later => placed q (List.mem_cons_of_mem p later)
    refine ⟨last, ?_, fitsLast⟩
    rw [storeAll, List.foldl_cons, stored]
    exact others

end ParamsApi

namespace Registry

variable {registry : Registry} {recs : Records} {options : RegisterOptions}
  {template : Option Value} {r : Record} {api : ParamsApi}

namespace Paired

variable {todo done later : List (ParamDescriptor × Leaf)} {pathParams : PathParams}
  {request : Request}

/-- What is settled for a descriptor and its leaf is what the descriptor finds, judged. -/
theorem settled_eq (paired : Paired r api.params todo) {p : ParamDescriptor × Leaf}
    (member : p ∈ todo) :
    api.settled recs pathParams request p.1 p.2.type =
      ParamsApi.settle p.1 (api.found recs r.fields pathParams request p.1) := by
  rw [ParamsApi.found, paired.typed p member]
  rfl

/-- When the first descriptors have been stored, their fields hold what was stored for them, or else
what they held before; no other field has changed. -/
theorem part?_storeAll_done (paired : Paired r api.params todo) (split : todo = done ++ later)
    (settled : ParamDescriptor × Leaf → ParamsApi.Settled) {fields : List Value}
    (fits : r.fields.Fits fields) :
    let final := ParamsApi.storeAll settled done (.record fields)
    (∀ p ∈ done, final.part? p.1.path =
        (settled p).store.or ((Value.record fields).part? p.1.path)) ∧
      (∀ p ∈ later, final.part? p.1.path = (Value.record fields).part? p.1.path) ∧
      (∀ path f, r.fields.HasField path f → (∀ param ∈ api.params, param.path ≠ path) →
        final.part? path = (Value.record fields).part? path) ∧
      ∃ next, final = .record next ∧ r.fields.Fits next := by
  subst split
  have among : ∀ p ∈ done, p ∈ done ++ later := fun _ => List.mem_append_left later
  have placed : ∀ p ∈ done, ∃ f, r.fields.HasField p.2.path f := fun p member =>
    ⟨_, paired.placed p (among p member)⟩
  have distinct := paired.distinct
  rw [List.map_append, List.nodup_append] at distinct
  obtain ⟨distinctDone, _, apart⟩ := distinct
  obtain ⟨stores, keeps⟩ := ParamsApi.storeAll_spec settled fits placed distinctDone
  refine ⟨?_, ?_, ?_, ParamsApi.fits_storeAll settled fits placed⟩
  · intro p member
    rw [paired.path p (among p member)]
    exact stores p member
  · intro q member
    have behind : q ∈ done ++ later := List.mem_append_right done member
    rw [paired.path q behind]
    refine keeps q.2.path _ (paired.placed q behind) fun p earlier => ?_
    exact apart _ (List.mem_map_of_mem earlier) _ (List.mem_map_of_mem member)
  · intro path f has untouched
    refine keeps path f has fun p member => ?_
    rw [← paired.path p (among p member)]
    exact untouched p.1 (paired.mem_params (among p member))

/-- The field of a descriptor that does not fail holds what the descriptor has found. -/
theorem exists_alone_of_passes (paired : Paired r api.params todo) (split : todo = done ++ later)
    {fields : List Value} (fits : r.fields.Fits fields) {p : ParamDescriptor × Leaf}
    (member : p ∈ done)
    (passes : (api.settled recs pathParams request p.1 p.2.type).failure = none) :
    ∃ new, api.alone recs r.fields pathParams request p.1 = .ok new ∧
      (ParamsApi.storeAll (fun p => api.settled recs pathParams request p.1 p.2.type) done
        (.record fields)).part? p.1.path = new.or ((Value.record fields).part? p.1.path) := by
  have among : p ∈ todo := split ▸ List.mem_append_left later member
  refine ⟨(api.settled recs pathParams request p.1 p.2.type).store, ?_,
    (paired.part?_storeAll_done split _ fits).1 p member⟩
  rw [paired.alone_eq among]
  exact ParamsApi.outcome_eq_ok_iff.mpr ⟨passes, rfl⟩

/-- The field of a descriptor that fails holds a value that has broken a constraint, or what it held
before. -/
theorem part?_of_fails (paired : Paired r api.params todo) (split : todo = done ++ later)
    {fields : List Value} (fits : r.fields.Fits fields) {p : ParamDescriptor × Leaf}
    (member : p ∈ done) {cause : BindCause}
    (fails : (api.settled recs pathParams request p.1 p.2.type).failure = some cause) :
    let found := api.found recs r.fields pathParams request p.1
    let final := ParamsApi.storeAll
      (fun p => api.settled recs pathParams request p.1 p.2.type) done (.record fields)
    (∃ v violation, cause = .validation violation ∧ found = .ok (some v) ∧
        p.1.validator.validate p.1.name v.view = .error violation ∧
        final.part? p.1.path = some v) ∨
      (found = .error cause ∨ found = .ok none ∧ cause = .missing p.1.position) ∧
        (∀ violation, cause ≠ .validation violation) ∧
        final.part? p.1.path = (Value.record fields).part? p.1.path := by
  intro found final
  have among : p ∈ todo := split ▸ List.mem_append_left later member
  have holds : final.part? p.1.path = _ := (paired.part?_storeAll_done split _ fits).1 p member
  rw [paired.settled_eq among] at fails holds
  rcases ParamsApi.settle_failure fails with
    ⟨v, violation, taken, rfl, rejected, store⟩ | ⟨reading, store⟩
  · rw [store, Option.some_or] at holds
    exact Or.inl ⟨v, violation, rfl, taken, rejected, holds⟩
  · rw [store, Option.none_or] at holds
    refine Or.inr ⟨reading, ?_, holds⟩
    rintro violation rfl
    rcases reading with unread | ⟨_, ⟨⟩⟩
    cases ParamsApi.found_fails unread

/-- Then every field holds what it held before or a value that its descriptor has found. -/
theorem exists_part?_storeAll_done (paired : Paired r api.params todo)
    (split : todo = done ++ later) {fields : List Value} (fits : r.fields.Fits fields)
    {path : FieldPath} {f : Field} (has : r.fields.HasField path f) :
    ∃ v, (ParamsApi.storeAll (fun p => api.settled recs pathParams request p.1 p.2.type) done
        (.record fields)).part? path = some v ∧
      ((Value.record fields).part? path = some v ∨ ∃ param ∈ api.params, param.path = path ∧
        api.found recs r.fields pathParams request param = .ok (some v)) := by
  obtain ⟨stores, keeps, frame, _⟩ := paired.part?_storeAll_done split
    (fun p => api.settled recs pathParams request p.1 p.2.type) fits
  obtain ⟨held, previous⟩ := has.exists_part fits
  by_cases described : ∃ param ∈ api.params, param.path = path
  · obtain ⟨param, own, rfl⟩ := described
    obtain ⟨p, member, rfl⟩ := paired.exists_of_mem own
    rcases List.mem_append.mp (split ▸ member) with stored | behind
    · have holds := stores p stored
      cases store : (api.settled recs pathParams request p.1 p.2.type).store with
      | none =>
        rw [store, Option.none_or, previous] at holds
        exact ⟨held, holds, Or.inl previous⟩
      | some v =>
        rw [store, Option.some_or] at holds
        rw [paired.settled_eq member] at store
        exact ⟨v, holds, Or.inr ⟨p.1, own, rfl, ParamsApi.eq_ok_of_store store⟩⟩
    · exact ⟨held, (keeps p behind).trans previous, Or.inl previous⟩
  · have untouched : ∀ param ∈ api.params, param.path ≠ path := fun param own same =>
      described ⟨param, own, same⟩
    exact ⟨held, (frame path f has untouched).trans previous, Or.inl previous⟩

/-- Then a field without a descriptor is as it was, the record has kept its shape, and its fields
hold whole values. -/
theorem frame_storeAll_done (paired : Paired r api.params todo) (split : todo = done ++ later)
    {fields : List Value} (fits : r.fields.Fits fields) :
    let final := ParamsApi.storeAll
      (fun p => api.settled recs pathParams request p.1 p.2.type) done (.record fields)
    (∀ path f, r.fields.HasField path f → (∀ param ∈ api.params, param.path ≠ path) →
        final.part? path = (Value.record fields).part? path) ∧
      (∃ next, final = .record next ∧ r.fields.Fits next) ∧
      ∀ path f, r.fields.HasField path f → ∃ v, final.part? path = some v ∧
        ((Value.record fields).part? path = some v ∨ ∃ param ∈ api.params, param.path = path ∧
          api.found recs r.fields pathParams request param = .ok (some v)) := by
  obtain ⟨_, _, untouched, shape⟩ := paired.part?_storeAll_done split
    (fun p => api.settled recs pathParams request p.1 p.2.type) fits
  exact ⟨untouched, shape, fun path f has => paired.exists_part?_storeAll_done split fits has⟩

end Paired

/-- Whatever a request is bound to, the descriptors settle its fields as each does alone. -/
theorem bindAt_eq_settleAll [Pattern.Engine] {origin : Registry} (derived : r.Derived)
    (registered : (origin.register recs options template r).1 = .ok api) (cap : Nat)
    (current : registry.find? r.ident = some { api with maxMemory := cap })
    (pathParams : PathParams) (whole : Value) (x : Exchange) :
    let served : ParamsApi := { api with maxMemory := cap }
    (registry.bindAt recs r pathParams whole x).1 =
      served.settleAll (fun p => served.settled recs pathParams x.request p.1 p.2.type)
        (served.params.zip r.fields.handles) whole := by
  intro served
  have counted := registered_counted derived registered
  have binds := bindAt_eq recs (r := r) current counted pathParams whole
  rw [binds]
  exact ParamsApi.bindAll_eq_settleAll (fun _ _ => rfl)
    (registered_paired derived registered).compatible

/-- Binding stores what the descriptors find in their fields, in order, up to the first descriptor
that fails. When it succeeds, the field of each descriptor holds what this has found, or what it
held before when there was nothing to be found. When it fails at a descriptor, that is so for the
earlier ones; the field of this one holds a new value only when the value broke a constraint, and
else what it held before, as the fields of the later ones do. A field without a descriptor never
changes, and what a field holds is always what it held before or a value that its descriptor has
found as a whole. -/
theorem bindAt_leaves [Pattern.Engine] {origin : Registry} (derived : r.Derived)
    (registered : (origin.register recs options template r).1 = .ok api) (cap : Nat)
    (current : registry.find? r.ident = some { api with maxMemory := cap })
    (pathParams : PathParams) (x : Exchange) {fields : List Value}
    (fits : r.fields.Fits fields) :
    let served : ParamsApi := { api with maxMemory := cap }
    let found := served.found recs r.fields pathParams x.request
    let alone := served.alone recs r.fields pathParams x.request
    let before : Value := .record fields
    let bound := (registry.bindAt recs r pathParams before x).1
    let filled := fun param : ParamDescriptor => ∃ new, alone param = .ok new ∧
      bound.2.part? param.path = new.or (before.part? param.path)
    let kept := fun param : ParamDescriptor => bound.2.part? param.path = before.part? param.path
    (bound.1 = .ok () → ∀ param ∈ served.params, filled param) ∧
      (∀ e, bound.1 = .error e → ∃ earlier param later cause,
        served.params = earlier ++ param :: later ∧ e = served.failure param cause ∧
        (∀ p ∈ earlier, filled p) ∧ alone param = .error e ∧
        ((∃ v violation, cause = .validation violation ∧ found param = .ok (some v) ∧
            param.validator.validate param.name v.view = .error violation ∧
            bound.2.part? param.path = some v) ∨
          (found param = .error cause ∨ found param = .ok none ∧ cause = .missing param.position) ∧
            (∀ violation, cause ≠ .validation violation) ∧ kept param) ∧
        ∀ p ∈ later, kept p) ∧
      (∀ path f, r.fields.HasField path f → (∀ param ∈ served.params, param.path ≠ path) →
        bound.2.part? path = before.part? path) ∧
      (∃ next, bound.2 = .record next ∧ r.fields.Fits next) ∧
      ∀ path f, r.fields.HasField path f → ∃ v, bound.2.part? path = some v ∧
        (before.part? path = some v ∨
          ∃ param ∈ served.params, param.path = path ∧ found param = .ok (some v)) := by
  intro served found alone before bound filled kept
  let todo := served.params.zip r.fields.handles
  let settled := fun p : ParamDescriptor × Leaf =>
    served.settled recs pathParams x.request p.1 p.2.type
  have atRegistration := registered_paired derived registered
  -- The cap of forms is none of the descriptors' concern.
  have paired : Paired r served.params todo := atRegistration
  have run : bound = served.settleAll settled todo before :=
    bindAt_eq_settleAll derived registered cap current pathParams before x
  rcases served.settleAll_cases settled todo before with
    ⟨passes, stored⟩ | ⟨earlier, p, later, cause, split, passes, fails, stored⟩
  · rw [← run] at stored
    have split : todo = todo ++ [] := (List.append_nil todo).symm
    have whole : bound.2 = ParamsApi.storeAll settled todo before := congrArg Prod.snd stored
    refine ⟨fun _ param own => ?_, fun e failed => ?_, ?_⟩
    · obtain ⟨p, member, rfl⟩ := paired.exists_of_mem own
      simp only [filled, whole]
      exact paired.exists_alone_of_passes split fits member (passes p member)
    · rw [stored] at failed
      cases failed
    · rw [whole]
      exact paired.frame_storeAll_done split fits
  · rw [← run] at stored
    have upTo : todo = (earlier ++ [p]) ++ later := by rw [split, List.append_assoc]; rfl
    have last : p ∈ earlier ++ [p] := List.mem_append_right earlier List.mem_cons_self
    have whole : bound.2 = ParamsApi.storeAll settled (earlier ++ [p]) before :=
      congrArg Prod.snd stored
    refine ⟨fun ok => ?_, fun e failed => ?_, ?_⟩
    · rw [stored] at ok
      cases ok
    · rw [stored] at failed
      cases failed
      refine ⟨earlier.map (·.1), p.1, later.map (·.1), cause, ?_, rfl, ?_, ?_, ?_, ?_⟩
      · rw [← paired.params, split, List.map_append, List.map_cons]
      · intro param member
        obtain ⟨q, first, rfl⟩ := List.mem_map.mp member
        simp only [filled, whole]
        exact paired.exists_alone_of_passes upTo fits (List.mem_append_left _ first)
          (passes q first)
      · have among : p ∈ todo := upTo ▸ List.mem_append_left later last
        rw [show alone p.1 = _ from paired.alone_eq among]
        exact ParamsApi.outcome_eq_error_iff.mpr ⟨cause, fails, rfl⟩
      · simp only [kept, whole]
        exact paired.part?_of_fails upTo fits last fails
      · intro param member
        obtain ⟨q, behind, rfl⟩ := List.mem_map.mp member
        simp only [kept, whole]
        exact (paired.part?_storeAll_done upTo settled fits).2.1 q behind
    · rw [whole]
      exact paired.frame_storeAll_done upTo fits

/-- A crate: the sizes of what is in it, a weight within bounds, and a seal that is not bound. -/
def crate : Record :=
  let fields : FieldTable :=
    .field (.annotated "id" (.scalar (.int .int32)) "<in:path>")
      (.field (.annotated "sizes" (.seq (.scalar (.int .uint8))) "<in:query>")
        (.field (.annotated "weight" (.scalar (.int .uint8)) "<in:query> <range:1:9>")
          (.field (.plain "seal" (.scalar .text)) .nil)))
  { ident := "Crate", name := "Crate", fields, zero := fields.zero {} }

theorem derived_crate : crate.Derived where
  handles := by decide +kernel
  shape := FieldTable.fits_zero {} crate.fields

/-- Of two sizes the second is malformed, so the sizes stay what they were, and so does the weight,
which comes later. A weight that is too large is stored all the same. -/
theorem bindAt_leaves_crate :
    let registration := ({} : Registry).register {} { mapper := id, decoder := fun _ => none }
      none crate
    let fields : List Value := [.int 1, .seq [.int 4], .int 2, .text "s"]
    let bind := fun query => (registration.2.1.bindAt {} crate [("id", "5")] (.record fields)
      { request := { target := { query := some query } } }).1
    crate.fields.Fits fields ∧
      ((bind "sizes=3&sizes=x&weight=20").2 matches
        .record [.int 5, .seq [.int 4], .int 2, .text "s"]) ∧
      ((bind "sizes=3&weight=20").2 matches
        .record [.int 5, .seq [.int 3], .int 20, .text "s"]) ∧
      ∃ api, registration.1 = .ok api ∧ ∀ query e, (bind query).1 = .error e →
        ∃ earlier param later, api.params = earlier ++ param :: later ∧ e.param = param.name ∧
          ∀ p ∈ later, (bind query).2.part? p.path = (Value.record fields).part? p.path := by
  intro registration fields bind
  have fits : crate.fields.Fits fields := .field (.field (.field (.field .nil)))
  have accepted : registration.1.isOk = true := by decide +kernel
  have malformed : ((bind "sizes=3&sizes=x&weight=20").2 matches
      .record [.int 5, .seq [.int 4], .int 2, .text "s"]) = true := by decide +kernel
  have rejected : ((bind "sizes=3&weight=20").2 matches
      .record [.int 5, .seq [.int 3], .int 20, .text "s"]) = true := by decide +kernel
  refine ⟨fits, malformed, rejected, ?_⟩
  cases registered : registration.1 with
  | error e =>
    rw [registered] at accepted
    cases accepted
  | ok api =>
    refine ⟨api, rfl, fun query e failed => ?_⟩
    have current : registration.2.1.find? crate.ident = some api := find?_register registered
    obtain ⟨_, fails, _⟩ := bindAt_leaves derived_crate registered api.maxMemory current
      [("id", "5")] { request := { target := { query := some query } } } fits
    obtain ⟨earlier, param, later, cause, split, rfl, _, _, _, kept⟩ := fails e failed
    exact ⟨earlier, param, later, split, rfl, kept⟩

end Registry

end RequestBinding
