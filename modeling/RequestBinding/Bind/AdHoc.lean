import RequestBinding.Bind.Error
import RequestBinding.Convert.Keyed
import RequestBinding.Request.Exchange
import RequestBinding.Settings

/-!
# Binding single values

One value under one key, without registration. The key is looked up among the path parameters, the
form and the query together, in this order, and conversion is lenient. A form that cannot be read
counts as none.
-/

namespace RequestBinding.AdHoc

/-- The report of a form that cannot be read. -/
def ignoredFormEvent (f : FormFailure) : Event :=
  { level := .debug, source := .adHoc, message := "Form ignored for keyed binding"
    fields := [("error", .text f.message)] }

/-- The report of a bound value. -/
def boundEvent (key : String) : Event :=
  { level := .debug, source := .adHoc, message := "Keyed value bound"
    fields := [("key", .text key)] }

/-- The path parameters, the form and the query as one form, and the files of the form. -/
def merge (settings : Settings) : Reading (FormValues × List UploadedFile) := do
  let query ← Exchange.query
  let path := FormValues.ofPairs (← get).request.pathParams
  match ← Exchange.formWithFiles settings.maxMemory with
  | .ok (form, files) => return ((path.extend form).extend query, files)
  | .error f =>
    Exchange.log (ignoredFormEvent f)
    return (path.extend query, [])

/-- The texts of all keys as they are looked up. -/
def keyValues (settings : Settings) : Reading FormValues := do
  return (← merge settings).1

/-- What binding from a source comes to: whether there was a value, what is held afterwards, and
what is reported. -/
structure Outcome where
  result : Except BindError Bool
  held : Value
  events : List Event := []

/-- Binds the value under a key of a source. Without a value, what was held before stays. -/
def bindFrom (recs : Records) (src : KeySource) (type : WireType) (key : String)
    (held : Value) : Outcome :=
  match type.find recs src .lenient key.toList with
  | .ok (some v) => { result := .ok true, held := v, events := [boundEvent key] }
  | .ok none => { result := .ok false, held }
  | .error e =>
    { result := .error { api := type.name, param := key, cause := .conversion e }, held }

/-- Binds the value under a key of a request. -/
def bindOne (recs : Records) (settings : Settings) (type : WireType) (key : String)
    (held : Value) : Reading (Except BindError Bool × Value) := do
  let cookies ← Exchange.cookies
  let (merged, files) ← merge settings
  let src := { KeySource.ofForm merged settings.maxIndex with files, cookies }
  let outcome := bindFrom recs src type key held
  for e in outcome.events do
    Exchange.log e
  return (outcome.result, outcome.held)

end RequestBinding.AdHoc
