import Mathlib.Data.List.Pairwise
import RequestBinding.Bind.AdHoc
import RequestBinding.Proofs.Request.Trace
import RequestBinding.Schema.Registry

/-!
# Operations on a request

What a program can do with a request, in any order and as often as it likes: read the query, the
cookies, the form or the body, bind the request to records, and bind single values. Every operation
is made of elementary readings (`Operation.answer_reads`), and so is a run of operations
(`Operation.run_reads`).
-/

namespace RequestBinding

/-! ## Binding is made of elementary readings -/

namespace ParamsApi

variable {recs : Records} {api : ParamsApi} {param : ParamDescriptor} {type : WireType}
  {pathParams : PathParams} {allowed : Position → Prop}

theorem source_reads (inside : allowed param.position) :
    (api.source param pathParams).Reads allowed := by
  unfold source
  cases position : param.position with
  | path =>
    simp only
    cases pathParams.get? param.name with
    | none => exact .done _
    | some raw => exact .done _
  | query => exact .bind (.query (position ▸ inside)) fun _ => .done _
  | formData =>
    refine .bind (.formWithFiles (position ▸ inside) api.maxMemory) fun outcome => ?_
    cases outcome with
    | error f => exact .done _
    | ok form => exact .done _
  | header =>
    refine .look (fun x y follows => ?_) fun _ => .done _
    rw [Request.header, Request.rawHeader, follows.headers]
    rfl
  | cookie => exact .bind (.cookies (position ▸ inside)) fun _ => .done _
  | body => exact .done _

theorem takeBodyValue_reads (inside : allowed .body) : (api.takeBodyValue type).Reads allowed := by
  refine .bind (.takeBody inside) fun body => ?_
  split
  · exact .done _
  · exact .done _
  · split
    · exact .done _
    · exact .done _

theorem extract_reads (inside : allowed param.position) :
    (api.extract recs param type pathParams).Reads allowed := by
  unfold extract
  split
  · rename_i position
    exact takeBodyValue_reads (position ▸ inside)
  · refine .bind (source_reads inside) fun outcome => ?_
    split
    · exact .done _
    · exact .done _
    · exact .done _

theorem bindParam_reads (inside : allowed param.position) (handle : Leaf) (whole : Value) :
    (api.bindParam recs param handle pathParams whole).Reads allowed := by
  refine .bind (extract_reads inside) fun found => ?_
  dsimp only
  split
  · refine .bind (.report _) fun _ => ?_
    split
    · exact .done _
    · exact .done _
  · split
    · exact .done _
    · exact .done _

theorem bindAll_reads {todo : List (ParamDescriptor × Leaf)}
    (inside : ∀ p ∈ todo, allowed p.1.position) (whole : Value) :
    (api.bindAll recs pathParams todo whole).Reads allowed := by
  induction todo generalizing whole with
  | nil => exact .done _
  | cons p rest ih =>
    refine .bind (bindParam_reads (inside p List.mem_cons_self) p.2 whole) fun bound => ?_
    split
    · exact .done _
    · exact ih (fun q member => inside q (List.mem_cons_of_mem p member)) _

theorem bindFields_reads (inside : ∀ param ∈ api.params, allowed param.position)
    (handles : List Leaf) (whole : Value) :
    (api.bindFields recs handles pathParams whole).Reads allowed := by
  unfold bindFields
  split
  · exact bindAll_reads (fun p member => inside p.1 (List.of_mem_zip member).1) whole
  · exact .done _

end ParamsApi

namespace Registry

variable {registry : Registry} {r : Record} {allowed : Position → Prop}

theorem bindAt_reads
    (inside : ∀ api, registry.find? r.ident = some api → ∀ param ∈ api.params,
      allowed param.position)
    (recs : Records) (pathParams : PathParams) (whole : Value) :
    (registry.bindAt recs r pathParams whole).Reads allowed := by
  unfold bindAt
  split
  · exact .done _
  · rename_i api found
    exact ParamsApi.bindFields_reads (inside api found) _ whole

theorem bindNew_reads
    (inside : ∀ api, registry.find? r.ident = some api → ∀ param ∈ api.params,
      allowed param.position)
    (recs : Records) (pathParams : PathParams) :
    (registry.bindNew recs r pathParams).Reads allowed :=
  .bind (bindAt_reads inside recs pathParams _) fun _ => .done _

end Registry

namespace AdHoc

variable {allowed : Position → Prop}

theorem merge_reads (query : allowed .query) (form : allowed .formData) (settings : Settings) :
    (merge settings).Reads allowed := by
  refine .bind (.query query) fun _ => .look (fun x y follows => ?_) fun x => ?_
  · rw [follows.pathParams]
  · refine .bind (.formWithFiles form _) fun outcome => ?_
    cases outcome with
    | error f => exact .bind (.report _) fun _ => .done _
    | ok form => exact .done _

theorem bindOne_reads (query : allowed .query) (form : allowed .formData)
    (cookie : allowed .cookie) (recs : Records) (settings : Settings) (type : WireType)
    (key : String) (held : Value) : (bindOne recs settings type key held).Reads allowed :=
  .bind (.cookies cookie) fun _ => .bind (merge_reads query form settings) fun _ =>
    .bind (.reports _) fun _ => .done _

end AdHoc

/-! ## Runs of operations -/

/-- Nobody has read from the request. -/
structure Request.Unread (r : Request) : Prop where
  query : r.readQuery = none
  form : r.readForm = none
  cookies : r.readCookies = none

/-- Something that is done with a request. -/
inductive Operation where
  | query
  | cookies
  | form (cap : Nat)
  | formWithFiles (cap : Nat)
  | takeBody
  /-- Binds the request to the fields of a registered record through handles. -/
  | bindFields (recs : Records) (api : ParamsApi) (handles : List Leaf) (pathParams : PathParams)
    (whole : Value)
  /-- Binds the request to a value of a record. -/
  | bindAt (registry : Registry) (recs : Records) (r : Record) (pathParams : PathParams)
    (whole : Value)
  /-- Binds the request to a new value of a record. -/
  | bindNew (registry : Registry) (recs : Records) (r : Record) (pathParams : PathParams)
  /-- Looks up all keys as they are bound without registration. -/
  | keyValues (settings : Settings)
  /-- Binds the value under a key without registration. -/
  | bindOne (recs : Records) (settings : Settings) (type : WireType) (key : String) (held : Value)

namespace Operation

/-- What an operation returns. -/
def Answer : Operation → Type
  | query => FormValues
  | cookies => List Cookie
  | form _ => Except FormFailure FormValues
  | formWithFiles _ => Except FormFailure (FormValues × List UploadedFile)
  | takeBody => Option Text.Bytes
  | bindFields .. => Except BindError Unit × Value
  | bindAt .. => Except BindError Unit × Value
  | bindNew .. => Except BindError Value
  | keyValues _ => FormValues
  | bindOne .. => Except BindError Bool × Value

/-- Does the operation. -/
def answer : (op : Operation) → Reading op.Answer
  | query => Exchange.query
  | cookies => Exchange.cookies
  | form cap => Exchange.form cap
  | formWithFiles cap => Exchange.formWithFiles cap
  | takeBody => Exchange.takeBody
  | bindFields recs api handles pathParams whole => api.bindFields recs handles pathParams whole
  | bindAt registry recs r pathParams whole => registry.bindAt recs r pathParams whole
  | bindNew registry recs r pathParams => registry.bindNew recs r pathParams
  | keyValues settings => AdHoc.keyValues settings
  | bindOne recs settings type key held => AdHoc.bindOne recs settings type key held

/-- Does the operation and drops what it returns. -/
def perform (op : Operation) : Reading Unit := do
  let _ ← op.answer

/-- Does operations one after the other. -/
def run : List Operation → Reading Unit
  | [] => pure ()
  | op :: rest => do
    op.perform
    run rest

theorem answer_reads (op : Operation) : op.answer.Reads fun _ => True := by
  cases op with
  | query => exact .query trivial
  | cookies => exact .cookies trivial
  | form cap => exact .form trivial cap
  | formWithFiles cap => exact .formWithFiles trivial cap
  | takeBody => exact .takeBody trivial
  | bindFields recs api handles pathParams whole =>
    exact ParamsApi.bindFields_reads (fun _ _ => trivial) handles whole
  | bindAt registry recs r pathParams whole =>
    exact Registry.bindAt_reads (fun _ _ _ _ => trivial) recs pathParams whole
  | bindNew registry recs r pathParams =>
    exact Registry.bindNew_reads (fun _ _ _ _ => trivial) recs pathParams
  | keyValues settings =>
    exact .bind (AdHoc.merge_reads trivial trivial settings) fun _ => .done _
  | bindOne recs settings type key held =>
    exact AdHoc.bindOne_reads trivial trivial trivial recs settings type key held

theorem perform_reads (op : Operation) : op.perform.Reads fun _ => True :=
  .bind op.answer_reads fun _ => .done _

/-- A run of operations is made of elementary readings. -/
theorem run_reads (ops : List Operation) : (run ops).Reads fun _ => True := by
  induction ops with
  | nil => exact .done _
  | cons op rest ih => exact .bind op.perform_reads fun _ => ih

end Operation

end RequestBinding
