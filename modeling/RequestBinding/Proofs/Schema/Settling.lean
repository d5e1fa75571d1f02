import RequestBinding.Proofs.Record.FieldPaths
import RequestBinding.Proofs.Schema.Extraction

/-!
# Descriptor after descriptor

Binding reads the request for one descriptor after the other, and reading changes the request. All
the same, each descriptor settles its field as it would alone on the request as it was before
(`ParamsApi.bindAll_eq_settleAll`). The invariant is that the request still offers to every
descriptor to come what it offered at the beginning; it is kept when no two descriptors have
positions that take something from each other.

What has been settled is stored up to the first failure. If there is none, each field holds in the
end what was stored for it, or else what it held before (`ParamsApi.storeAll_spec`).
-/

namespace RequestBinding

/-! ## Descriptors one after the other -/

namespace ParamsApi

/-- What becomes of the field of a descriptor that alone is bound. -/
def settled (recs : Records) (api : ParamsApi) (pathParams : PathParams) (request : Request)
    (param : ParamDescriptor) (type : WireType) : Settled :=
  settle param (api.extract recs param type pathParams { request }).1

/-- Stores what has been settled field after field, up to the first failure. -/
def settleAll (api : ParamsApi) (settled : ParamDescriptor × Leaf → Settled) :
    List (ParamDescriptor × Leaf) → Value → Except BindError Unit × Value
  | [], whole => (.ok (), whole)
  | p :: rest, whole =>
    let stored := (settled p).store.elim whole (whole.setPart p.2.path)
    match (settled p).failure with
    | some cause => (.error (api.failure p.1 cause), stored)
    | none => api.settleAll settled rest stored

section

variable {param : ParamDescriptor} {found : Except BindCause (Option Value)}

/-- Nothing is stored but a value that was found. -/
theorem eq_ok_of_store {v : Value} (stored : (settle param found).store = some v) :
    found = .ok (some v) := by
  rcases found with cause | _ | w
  · cases stored
  · rw [settle] at stored
    split at stored <;> cases stored
  · rw [settle] at stored
    split at stored <;> exact congrArg Except.ok stored

/-- Where settling fails, a value is stored only if it was found and breaks a constraint. -/
theorem settle_failure {cause : BindCause} (fails : (settle param found).failure = some cause) :
    (∃ v violation, found = .ok (some v) ∧ cause = .validation violation ∧
      param.validator.validate param.name v.view = .error violation ∧
      (settle param found).store = some v) ∨
    (found = .error cause ∨ found = .ok none ∧ cause = .missing param.position) ∧
      (settle param found).store = none := by
  rcases found with other | _ | v
  · cases fails
    exact Or.inr ⟨Or.inl rfl, rfl⟩
  · rw [settle] at fails ⊢
    split at fails
    · rename_i required
      cases fails
      rw [if_pos required]
      exact Or.inr ⟨Or.inr ⟨rfl, rfl⟩, rfl⟩
    · cases fails
  · rw [settle] at fails ⊢
    cases validated : param.validator.validate param.name v.view with
    | ok u =>
      rw [validated] at fails
      cases fails
    | error violation =>
      rw [validated] at fails
      cases fails
      exact Or.inl ⟨v, violation, rfl, rfl, validated, rfl⟩

end

variable {recs : Records} {api : ParamsApi} {pathParams : PathParams} {whole : Value}

/-- A descriptor is bound by settling what it extracts, storing that, and reporting it. -/
theorem bindParam_run {param : ParamDescriptor} {x : Exchange} (handle : Leaf) (whole : Value) :
    api.bindParam recs param handle pathParams whole x =
      let read := api.extract recs param handle.type pathParams x
      let settled := settle param read.1
      ((settled.failure.elim (.ok ()) fun cause => .error (api.failure param cause),
        settled.store.elim whole (whole.setPart handle.path)),
        (api.settledEvent? param settled).elim read.2 read.2.report) := by
  unfold bindParam
  simp only [bind, StateT.bind]
  rcases api.extract recs param handle.type pathParams x with ⟨outcome, rest⟩
  simp only
  cases api.settledEvent? param (settle param outcome) with
  | none => cases (settle param outcome).failure <;> rfl
  | some e => cases (settle param outcome).failure <;> rfl

theorem bindParam_eq {param : ParamDescriptor} {handle : Leaf} {x : Exchange} {s : Settled}
    (settles : settle param (api.extract recs param handle.type pathParams x).1 = s)
    (whole : Value) :
    (api.bindParam recs param handle pathParams whole x).1 =
        (s.failure.elim (.ok ()) fun cause => .error (api.failure param cause),
          s.store.elim whole (whole.setPart handle.path)) ∧
      (api.bindParam recs param handle pathParams whole x).2.request =
        x.request.after api.maxMemory param.position := by
  have request : (api.extract recs param handle.type pathParams x).2.request =
      x.request.after api.maxMemory param.position := extract_request
  rw [← request, bindParam_run, ← settles]
  generalize api.extract recs param handle.type pathParams x = read
  refine ⟨rfl, ?_⟩
  show ((api.settledEvent? param (settle param read.1)).elim read.2 read.2.report).request = _
  cases api.settledEvent? param (settle param read.1) <;> rfl

theorem bindAll_cons {x : Exchange} (p : ParamDescriptor × Leaf)
    (rest : List (ParamDescriptor × Leaf)) :
    api.bindAll recs pathParams (p :: rest) whole x =
      match api.bindParam recs p.1 p.2 pathParams whole x with
      | ((.error e, whole), x) => ((.error e, whole), x)
      | ((.ok (), whole), x) => api.bindAll recs pathParams rest whole x := by
  simp only [bindAll, bind, StateT.bind]
  rcases api.bindParam recs p.1 p.2 pathParams whole x with ⟨⟨_ | _, stored⟩, later⟩ <;> rfl

theorem bindAll_cons_of_error {p : ParamDescriptor × Leaf} {rest : List (ParamDescriptor × Leaf)}
    {x : Exchange} {e : BindError} {stored : Value}
    (failed : (api.bindParam recs p.1 p.2 pathParams whole x).1 = (.error e, stored)) :
    (api.bindAll recs pathParams (p :: rest) whole x).1 = (.error e, stored) := by
  rw [bindAll_cons]
  rcases bound : api.bindParam recs p.1 p.2 pathParams whole x with ⟨outcome, later⟩
  rw [bound] at failed
  subst failed
  rfl

theorem bindAll_cons_of_ok {p : ParamDescriptor × Leaf} {rest : List (ParamDescriptor × Leaf)}
    {x : Exchange} {stored : Value}
    (passed : (api.bindParam recs p.1 p.2 pathParams whole x).1 = (.ok (), stored)) :
    api.bindAll recs pathParams (p :: rest) whole x =
      api.bindAll recs pathParams rest stored
        (api.bindParam recs p.1 p.2 pathParams whole x).2 := by
  rw [bindAll_cons]
  rcases bound : api.bindParam recs p.1 p.2 pathParams whole x with ⟨outcome, later⟩
  rw [bound] at passed
  subst passed
  rfl

/-- On a request that still offers to every descriptor what another one offers, descriptors that
are compatible settle their fields as each does alone on that other request. -/
theorem bindAll_eq_settleAll {todo : List (ParamDescriptor × Leaf)} {x : Exchange}
    {request : Request}
    (offered : ∀ p ∈ todo, x.request.offers api.maxMemory p.1.position =
      request.offers api.maxMemory p.1.position)
    (compatible : todo.Pairwise fun p q => ¬ p.1.position.Clash q.1.position) :
    (api.bindAll recs pathParams todo whole x).1 =
      api.settleAll (fun p => api.settled recs pathParams request p.1 p.2.type) todo whole := by
  induction todo generalizing x whole with
  | nil => rfl
  | cons p rest ih =>
    obtain ⟨apart, compatibleRest⟩ := List.pairwise_cons.mp compatible
    have settles : settle p.1 (api.extract recs p.1 p.2.type pathParams x).1 =
        api.settled recs pathParams request p.1 p.2.type :=
      congrArg (settle p.1) (extract_congr (offered p List.mem_cons_self))
    obtain ⟨outcome, left⟩ := bindParam_eq settles whole
    -- The first descriptor leaves to the others what they were offered.
    have offeredRest : ∀ q ∈ rest,
        (api.bindParam recs p.1 p.2 pathParams whole x).2.request.offers api.maxMemory
          q.1.position = request.offers api.maxMemory q.1.position := by
      intro q member
      rw [left, Request.offers_after (apart q member)]
      exact offered q (List.mem_cons_of_mem p member)
    rw [settleAll]
    cases failure : (api.settled recs pathParams request p.1 p.2.type).failure with
    | some cause =>
      rw [failure] at outcome
      exact bindAll_cons_of_error outcome
    | none =>
      rw [failure] at outcome
      rw [bindAll_cons_of_ok outcome]
      exact ih offeredRest compatibleRest

/-! ## What is stored in the end -/

/-- Stores what has been settled for every field. -/
def storeAll (settled : ParamDescriptor × Leaf → Settled) (todo : List (ParamDescriptor × Leaf))
    (whole : Value) : Value :=
  todo.foldl (fun whole p => (settled p).store.elim whole (whole.setPart p.2.path)) whole

section

variable {settled : ParamDescriptor × Leaf → Settled} {todo : List (ParamDescriptor × Leaf)}

theorem settleAll_eq_ok (passes : ∀ p ∈ todo, (settled p).failure = none) (whole : Value) :
    api.settleAll settled todo whole = (.ok (), storeAll settled todo whole) := by
  induction todo generalizing whole with
  | nil => rfl
  | cons p rest ih =>
    have others := ih fun q member => passes q (List.mem_cons_of_mem p member)
    rw [settleAll, passes p List.mem_cons_self]
    exact others _

/-- The first failure ends the binding; what has been settled up to there stays stored. -/
theorem settleAll_eq_error {before after : List (ParamDescriptor × Leaf)}
    {p : ParamDescriptor × Leaf} {cause : BindCause}
    (passes : ∀ q ∈ before, (settled q).failure = none) (fails : (settled p).failure = some cause)
    (whole : Value) :
    api.settleAll settled (before ++ p :: after) whole =
      (.error (api.failure p.1 cause), storeAll settled (before ++ [p]) whole) := by
  induction before generalizing whole with
  | nil =>
    rw [List.nil_append, settleAll, fails]
    rfl
  | cons q rest ih =>
    rw [List.cons_append, settleAll, passes q List.mem_cons_self]
    exact ih (fun r member => passes r (List.mem_cons_of_mem q member)) _

/-- Either everything is stored, or what comes up to the first failure is. -/
theorem settleAll_cases (api : ParamsApi) (settled : ParamDescriptor × Leaf → Settled)
    (todo : List (ParamDescriptor × Leaf)) (whole : Value) :
    (∀ p ∈ todo, (settled p).failure = none) ∧
        api.settleAll settled todo whole = (.ok (), storeAll settled todo whole) ∨
      ∃ before p after cause, todo = before ++ p :: after ∧
        (∀ q ∈ before, (settled q).failure = none) ∧ (settled p).failure = some cause ∧
        api.settleAll settled todo whole =
          (.error (api.failure p.1 cause), storeAll settled (before ++ [p]) whole) := by
  cases first : todo.find? (fun p => (settled p).failure.isSome) with
  | none =>
    have passes : ∀ p ∈ todo, (settled p).failure = none := fun p member =>
      Option.not_isSome_iff_eq_none.mp (List.find?_eq_none.mp first p member)
    exact Or.inl ⟨passes, settleAll_eq_ok passes whole⟩
  | some p =>
    obtain ⟨fails, before, after, rfl, earlier⟩ := List.find?_eq_some_iff_append.mp first
    obtain ⟨cause, failure⟩ := Option.isSome_iff_exists.mp fails
    have passes : ∀ q ∈ before, (settled q).failure = none := fun q member =>
      Option.not_isSome_iff_eq_none.mp (by simpa using earlier q member)
    exact Or.inr ⟨before, p, after, cause, rfl, passes, failure,
      settleAll_eq_error passes failure whole⟩

theorem settleAll_fst_eq_ok_iff :
    (api.settleAll settled todo whole).1 = .ok () ↔ ∀ p ∈ todo, (settled p).failure = none := by
  constructor
  · intro bound
    induction todo generalizing whole with
    | nil => exact fun _ none => absurd none List.not_mem_nil
    | cons p rest ih =>
      rw [settleAll] at bound
      cases passes : (settled p).failure with
      | some cause =>
        rw [passes] at bound
        cases bound
      | none =>
        rw [passes] at bound
        intro q member
        rcases List.mem_cons.mp member with rfl | later
        · exact passes
        · exact ih bound q later
  · intro passes
    rw [settleAll_eq_ok passes]

/-- A value of the right shape keeps it when something or nothing is stored for a field, and only
that field changes. -/
theorem store_spec {table : FieldTable} {path : FieldPath} {f : Field} {fields : List Value}
    (has : table.HasField path f) (fits : table.Fits fields) (store : Option Value) :
    ∃ next, store.elim (.record fields) ((Value.record fields).setPart path) = .record next ∧
      table.Fits next ∧
      (Value.record next).part? path = store.or ((Value.record fields).part? path) ∧
      ∀ other g, table.HasField other g → path ≠ other →
        (Value.record next).part? other = (Value.record fields).part? other := by
  cases store with
  | none => exact ⟨fields, rfl, fits, rfl, fun _ _ _ _ => rfl⟩
  | some v =>
    obtain ⟨next, set, fitsNext⟩ := has.fits_setPart fits v
    refine ⟨next, set, fitsNext, ?_, ?_⟩
    · rw [← set, has.part?_setPart fits v]
      rfl
    · intro other g hasOther different
      rw [← set, has.part?_setPart_of_ne hasOther different fits v]

/-- In a value of the right shape each field holds what was stored for it, or else what it held
before; no other field changes. -/
theorem storeAll_spec (settled : ParamDescriptor × Leaf → Settled) {table : FieldTable}
    {fields : List Value} (fits : table.Fits fields)
    (placed : ∀ p ∈ todo, ∃ f, table.HasField p.2.path f)
    (distinct : (todo.map (·.2.path)).Nodup) :
    (∀ p ∈ todo, (storeAll settled todo (.record fields)).part? p.2.path =
        (settled p).store.or ((Value.record fields).part? p.2.path)) ∧
      ∀ path f, table.HasField path f → (∀ p ∈ todo, p.2.path ≠ path) →
        (storeAll settled todo (.record fields)).part? path =
          (Value.record fields).part? path := by
  induction todo generalizing fields with
  | nil => exact ⟨fun _ none => absurd none List.not_mem_nil, fun _ _ _ _ => rfl⟩
  | cons p rest ih =>
    rw [List.map_cons, List.nodup_cons] at distinct
    obtain ⟨fresh, distinctRest⟩ := distinct
    obtain ⟨f, has⟩ := placed p List.mem_cons_self
    have placedRest := fun q (later : q ∈ rest) => placed q (List.mem_cons_of_mem p later)
    have apart : ∀ q ∈ rest, p.2.path ≠ q.2.path := by
      intro q later same
      exact fresh (same ▸ List.mem_map_of_mem later)
    obtain ⟨next, stored, fitsNext, own, frame⟩ := store_spec has fits (settled p).store
    obtain ⟨stores, keeps⟩ := ih fitsNext placedRest distinctRest
    have unfolded : storeAll settled (p :: rest) (.record fields) =
        storeAll settled rest (.record next) := by
      rw [storeAll, List.foldl_cons, stored]
      rfl
    rw [unfolded]
    constructor
    · intro q member
      rcases List.mem_cons.mp member with rfl | later
      · rw [keeps q.2.path f has fun r later => (apart r later).symm, own]
      · obtain ⟨g, other⟩ := placed q member
        rw [stores q later, frame q.2.path g other (apart q later)]
    · intro path g other untouched
      rw [keeps path g other fun q later => untouched q (List.mem_cons_of_mem p later),
        frame path g other (untouched p List.mem_cons_self)]

end

/-! ## Outcomes -/

/-- What has been settled as an outcome: the value to store if there is one, or the failure. -/
def outcome (api : ParamsApi) (param : ParamDescriptor) (s : Settled) :
    Except BindError (Option Value) :=
  match s.failure with
  | some cause => .error (api.failure param cause)
  | none => .ok s.store

/-- The outcome of a descriptor that alone is bound: the value that it finds, if any. `table` tells
the type of its field. -/
def alone (recs : Records) (api : ParamsApi) (table : FieldTable) (pathParams : PathParams)
    (request : Request) (param : ParamDescriptor) : Except BindError (Option Value) :=
  match table.typeAt? param.path with
  | none => .ok none
  | some type => api.outcome param (api.settled recs pathParams request param type)

variable {param : ParamDescriptor} {s : Settled}

theorem outcome_eq_ok_iff {found : Option Value} :
    api.outcome param s = .ok found ↔ s.failure = none ∧ s.store = found := by
  unfold outcome
  cases s.failure with
  | some cause =>
    constructor
    · exact fun bound => nomatch bound
    · rintro ⟨passes, _⟩
      cases passes
  | none => exact ⟨fun bound => ⟨rfl, Except.ok.inj bound⟩, fun passes => congrArg _ passes.2⟩

theorem outcome_eq_error_iff {e : BindError} :
    api.outcome param s = .error e ↔
      ∃ cause, s.failure = some cause ∧ e = api.failure param cause := by
  unfold outcome
  cases s.failure with
  | some cause =>
    constructor
    · exact fun failed => ⟨cause, rfl, (Except.error.inj failed).symm⟩
    · rintro ⟨_, same, rfl⟩
      cases same
      rfl
  | none =>
    constructor
    · exact fun failed => nomatch failed
    · rintro ⟨_, same, _⟩
      cases same

end ParamsApi

end RequestBinding
