import RequestBinding.Log.Event
import RequestBinding.Request.Cookies

/-!
# Reading a request

Reading changes a request: what has been parsed is kept for later, and the body is gone once it
has been taken. Each first reading is reported. An exchange is the request together with the
reports so far, and everything that reads a request is an action on it.
-/

namespace RequestBinding

/-- A request that is being read, and what has been reported. -/
structure Exchange where
  request : Request := {}
  events : List Event := []

/-- An action that reads a request. -/
abbrev Reading := StateM Exchange

namespace Exchange

/-- The exchange with one more report. -/
def report (x : Exchange) (e : Event) : Exchange :=
  { x with events := x.events ++ [e] }

/-- Reports an event. -/
def log (e : Event) : Reading Unit :=
  modify (·.report e)

/-- The query of the request. -/
def query : Reading FormValues := fun x =>
  match x.request.readQuery with
  | some values => (values, x)
  | none =>
    let values := FormValues.parse (x.request.target.query.getD "")
    (values,
      { x with request := { x.request with readQuery := some values } }.report
        { level := .debug, source := .request, message := "Query params parsed"
          fields := [("param_count", .number values.size)] })

/-- The cookies of the request. -/
def cookies : Reading (List Cookie) := fun x =>
  match x.request.readCookies with
  | some cookies => (cookies, x)
  | none =>
    let cookies := x.request.cookies
    (cookies,
      { x with request := { x.request with readCookies := some cookies } }.report
        { level := .debug, source := .request, message := "Cookies extracted"
          fields := [("cookie_count", .number cookies.length)] })

/-- The body; only the first taker gets it. -/
def takeBody : Reading (Option Text.Bytes) := fun x =>
  (x.request.body, { x with request := { x.request with body := none } })

/-- Reads the form of a request nobody has asked for the form before. A form in parts comes first;
else a url-encoded body is taken and read; else the form is empty. -/
def parseForm (limit : Nat) : Reading (Except FormFailure FormValues) := fun x =>
  match x.request.multipart with
  | some form =>
    let size := form.byteSize
    if size > limit then (.error (.partsTooLarge size limit), x)
    else
      (.ok form.values,
        x.report
          { level := .debug, source := .request, message := "Multipart form taken"
            fields :=
              [("value_count", .number form.values.size),
                ("file_count", .number form.files.length)] })
  | none =>
    if x.request.isUrlEncoded then
      let (body, x) := takeBody x
      let body := body.getD []
      let size := body.length
      if size > limit then (.error (.bodyTooLarge size limit), x)
      else
        let values := FormValues.parseBytes body
        (.ok values,
          x.report
            { level := .debug, source := .request, message := "Url-encoded form parsed"
              fields :=
                [("body_size_bytes", .number size), ("param_count", .number values.size)] })
    else (.ok .empty, x)

/-- The form of the request. What came of the first request for it, also a failure, stays. -/
def form (limit : Nat) : Reading (Except FormFailure FormValues) := fun x =>
  match x.request.readForm with
  | some outcome => (outcome, x)
  | none =>
    let (outcome, x) := parseForm limit x
    (outcome, { x with request := { x.request with readForm := some outcome } })

/-- The form together with the uploaded files. -/
def formWithFiles (limit : Nat) :
    Reading (Except FormFailure (FormValues × List UploadedFile)) := fun x =>
  let (outcome, x) := form limit x
  (outcome.map fun values => (values, x.request.files), x)

end Exchange

end RequestBinding
