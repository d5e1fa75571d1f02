import RequestBinding.Record.Example
import RequestBinding.Schema.Api
import RequestBinding.Schema.Build
import RequestBinding.Settings

/-!
# The registry

The registered records, each under its identity. Registering a record again replaces what was
registered before; a registration that fails changes nothing, and neither does binding.
-/

namespace RequestBinding

/-- What a registration may choose: how wire names are made and how bodies are decoded. -/
structure RegisterOptions where
  mapper : NameMapper := WireName.snake
  decoder : BodyDecoder

/-- The registered records in the order of their first registration, and the limits. -/
structure Registry where
  settings : Settings := {}
  apis : List ParamsApi := []

/-- The report of a registration. -/
def ParamsApi.registeredEvent (api : ParamsApi) (replaced : Bool) : Event :=
  { level := .info, source := .registry, message := "Params API registered"
    fields :=
      [("api", .text api.name), ("params", .number api.params.length),
        ("max_memory", .number api.maxMemory), ("replaced", .flag replaced)] }

/-- A new value of a record for a registered one, if they are the same. -/
def ParamsApi.newValue (api : ParamsApi) (r : Record) :
    Except BindError Value :=
  if api.ident == r.ident then .ok (.record r.zero) else .error (.notRegistered r.ident)

namespace Registry

/-- The registered record of an identity. -/
def find? (registry : Registry) (ident : String) : Option ParamsApi :=
  registry.apis.find? (·.ident == ident)

/-- The first registered record of a name. -/
def findNamed? (registry : Registry) (name : String) : Option ParamsApi :=
  registry.apis.find? (·.name == name)

/-- The number of registered records. -/
def size (registry : Registry) : Nat :=
  registry.apis.length

/-- Replaces the registered record of the same identity where it stands, or adds a new one. -/
def put (api : ParamsApi) : List ParamsApi → List ParamsApi
  | [] => [api]
  | other :: rest => if other.ident == api.ident then api :: rest else other :: put api rest

/-- The registry with one more record. -/
def insert (registry : Registry) (api : ParamsApi) : Registry :=
  { registry with apis := put api registry.apis }

/-- Changes the cap on form payloads of a registered record. -/
def setMaxMemory (registry : Registry) (ident : String) (octets : Nat) : Registry :=
  { registry with
    apis := registry.apis.map fun api =>
      if api.ident == ident then { api with maxMemory := octets } else api }

/-- The documentation example that a template holds for a descriptor. -/
def sampleOf (recs : Records) (r : Record) (template : Value) (param : ParamDescriptor) :
    Option Json := do
  let type ← r.fields.typeAt? param.path
  let v ← template.part? param.path
  let sample := v.example recs type
  if sample.isNull then none else some sample

/-- The record as it is registered under the limits. A template gives its parameters examples. -/
def assemble (recs : Records) (settings : Settings) (options : RegisterOptions)
    (template : Option Value) (r : Record) (built : Schema.Built) : ParamsApi :=
  { ident := r.ident
    name := r.name
    params :=
      match template with
      | none => built.params
      | some v => built.params.map fun p => { p with sample := sampleOf recs r v p }
    decoder := options.decoder
    maxMemory := built.cap.elim settings.maxMemory mebibytes
    maxIndex := settings.maxIndex }

/-- Registers a record: the registered record or the rule that it breaks, the registry afterwards
and what is reported. -/
def register [Pattern.Engine] (registry : Registry) (recs : Records) (options : RegisterOptions)
    (template : Option Value) (r : Record) :
    Except RegistrationError ParamsApi × Registry × List Event :=
  let events := (Schema.walkRecord recs options.mapper r).1.map Schema.builtEvent
  match Schema.build recs options.mapper r with
  | .error e => (.error e, registry, events)
  | .ok built =>
    let api := assemble recs registry.settings options template r built
    (.ok api, registry.insert api,
      events ++ [api.registeredEvent (registry.find? r.ident).isSome])

/-- Binds the request to a value of a record; `r` is the record as that value was made. -/
def bindAt (registry : Registry) (recs : Records) (r : Record) (pathParams : PathParams)
    (whole : Value) : Reading (Except BindError Unit × Value) :=
  match registry.find? r.ident with
  | none => return (.error (.notRegistered r.ident), whole)
  | some api => api.bindFields recs r.fields.handles pathParams whole

/-- Binds the request to a new value of a record. -/
def bindNew (registry : Registry) (recs : Records) (r : Record) (pathParams : PathParams) :
    Reading (Except BindError Value) := do
  let (outcome, whole) ← registry.bindAt recs r pathParams (.record r.zero)
  return outcome.map fun _ => whole

end Registry

end RequestBinding
