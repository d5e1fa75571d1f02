import RequestBinding.Bind.Error
import RequestBinding.Convert.Keyed
import RequestBinding.Request.Exchange
import RequestBinding.Schema.Descriptor

/-!
# Binding a record as a whole

What a registered record consists of, and the binding of a request to it: descriptor after
descriptor the value is taken from its position, converted strictly, stored and checked. A value
that is not there leaves the field as it is, which is an error where one is required. The first
failure ends the binding; what was stored before it stays.
-/

namespace RequestBinding

/-- Decodes a body into structured data; nothing when the body is malformed. -/
abbrev BodyDecoder := Text.Bytes → Option Json

/-- A registered record. -/
structure ParamsApi where
  /-- The identity of the record. -/
  ident : String
  /-- The name of the record. -/
  name : String
  params : List ParamDescriptor
  decoder : BodyDecoder
  /-- The cap on form payloads in octets. -/
  maxMemory : Nat
  /-- The largest index of a list. -/
  maxIndex : Nat

namespace ParamsApi

/-- The failure of a descriptor. -/
def failure (api : ParamsApi) (param : ParamDescriptor) (cause : BindCause) : BindError :=
  { api := api.name, param := param.name, cause, custom := param.customError }

/-- The report of a failure. -/
def failureEvent (api : ParamsApi) (param : ParamDescriptor) (e : BindError) : Event :=
  { level := .warn, source := .registry, message := "Param bind failed"
    fields := [("api", .text api.name), ("param", .text param.name), ("error", .text e.message)] }

/-- The report of a value that was bound. -/
def boundEvent (api : ParamsApi) (param : ParamDescriptor) : Event :=
  { level := .debug, source := .registry, message := "Param bound"
    fields :=
      [("api", .text api.name), ("param", .text param.name),
        ("position", .text param.position.name)] }

/-- The source that a descriptor's value is taken from, or nothing when the request has none, or
why it cannot be read. The body is no source. -/
def source (api : ParamsApi) (param : ParamDescriptor) (pathParams : PathParams) :
    Reading (Except BindCause (Option KeySource)) :=
  match param.position with
  | .path =>
    match pathParams.get? param.name with
    | none => return .error (.missing .path)
    | some raw => return .ok (some (.ofPairs [(param.name, raw)] api.maxIndex))
  | .query => do
    let values ← Exchange.query
    return .ok (some (.ofForm values api.maxIndex))
  | .formData => do
    match ← Exchange.formWithFiles api.maxMemory with
    | .error f => return .error (.request (.form f))
    | .ok (values, files) => return .ok (some { KeySource.ofForm values api.maxIndex with files })
  | .header => do
    let raw := (← get).request.header param.name
    return .ok (if raw.isEmpty then none
      else some (.ofPairs (raw.map fun value => (param.name, value)) api.maxIndex))
  | .cookie => do
    let cookies ← Exchange.cookies
    let pairs := cookies.map fun c => (c.name, c.value)
    return .ok (some { KeySource.ofPairs pairs api.maxIndex with cookies })
  | .body => return .ok none

/-- The body as a value of a type; an empty body counts as none. -/
def takeBodyValue (api : ParamsApi) (type : WireType) :
    Reading (Except BindCause (Option Value)) := do
  match ← Exchange.takeBody with
  | none => return .ok none
  | some [] => return .ok none
  | some body =>
    match api.decoder body with
    | none => return .error (.request .undecodable)
    | some content =>
      return ((type.ofBody content).map some).mapError .conversion

/-- The value of a descriptor, as a value of the type of its handle. -/
def extract (recs : Records) (api : ParamsApi) (param : ParamDescriptor) (type : WireType)
    (pathParams : PathParams) : Reading (Except BindCause (Option Value)) :=
  match param.position with
  | .body => api.takeBodyValue type
  | _ => do
    match ← api.source param pathParams with
    | .error cause => return .error cause
    | .ok none => return .ok none
    | .ok (some src) =>
      return (type.find recs src .strict param.name.toList).mapError .conversion

/-- What becomes of a field: the value to store if there is one, and the cause of the failure if
there is one. A value that breaks a constraint is stored all the same. -/
structure Settled where
  store : Option Value := none
  failure : Option BindCause := none

/-- Judges the value of a descriptor. -/
def settle (param : ParamDescriptor) : Except BindCause (Option Value) → Settled
  | .error cause => { failure := some cause }
  | .ok none => if param.required then { failure := some (.missing param.position) } else {}
  | .ok (some v) =>
    match param.validator.validate param.name v.view with
    | .ok () => { store := some v }
    | .error violation => { store := some v, failure := some (.validation violation) }

/-- The report of what became of a field, if it is worth one. -/
def settledEvent? (api : ParamsApi) (param : ParamDescriptor) (s : Settled) : Option Event :=
  match s.failure with
  | some cause => some (api.failureEvent param (api.failure param cause))
  | none => s.store.map fun _ => api.boundEvent param

/-- Binds one descriptor through a handle of the record `whole`. -/
def bindParam (recs : Records) (api : ParamsApi) (param : ParamDescriptor) (handle : Leaf)
    (pathParams : PathParams) (whole : Value) : Reading (Except BindError Unit × Value) := do
  let settled := settle param (← api.extract recs param handle.type pathParams)
  if let some e := api.settledEvent? param settled then
    Exchange.log e
  let whole := settled.store.elim whole fun v => whole.setPart handle.path v
  match settled.failure with
  | some cause => return (.error (api.failure param cause), whole)
  | none => return (.ok (), whole)

/-- Binds descriptors through the handles beside them, up to the first failure. -/
def bindAll (recs : Records) (api : ParamsApi) (pathParams : PathParams) :
    List (ParamDescriptor × Leaf) → Value → Reading (Except BindError Unit × Value)
  | [], whole => return (.ok (), whole)
  | (param, handle) :: rest, whole => do
    match ← api.bindParam recs param handle pathParams whole with
    | (.error e, whole) => return (.error e, whole)
    | (.ok (), whole) => api.bindAll recs pathParams rest whole

/-- Binds the request to a record through its handles. -/
def bindFields (recs : Records) (api : ParamsApi) (handles : List Leaf) (pathParams : PathParams)
    (whole : Value) : Reading (Except BindError Unit × Value) :=
  if handles.length == api.params.length then
    api.bindAll recs pathParams (api.params.zip handles) whole
  else
    return (.error
      { api := api.name, param := "*"
        cause := .request (.handleCount api.params.length handles.length) }, whole)

end ParamsApi

end RequestBinding
