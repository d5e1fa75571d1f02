import RequestBinding.Request.Exchange
import RequestBinding.Schema.Position

/-!
# What a request offers

A reading changes the request it reads: the query, the form and the cookies are kept once they have
been read, the body goes to whoever takes it first, and a url-encoded form takes the body with it.
`Request.offers` is what a request holds out to the fields of one position, whatever has been read
of it before, and `Request.after` is the request once a field of that position has been read. A
reading gets what is offered (`Exchange.query_eq`, `Exchange.cookies_eq`,
`Exchange.formWithFiles_eq`), and it only diminishes what other positions are offered where the body
is concerned (`Request.offers_after`).
-/

namespace RequestBinding

namespace Request

/-- The query, whether it has been read or not. -/
def seenQuery (r : Request) : FormValues :=
  r.readQuery.getD (FormValues.parse (r.target.query.getD ""))

/-- The cookies, whether they have been read or not. -/
def seenCookies (r : Request) : List Cookie :=
  r.readCookies.getD r.cookies

/-- What the first request for the form makes of it under a cap. -/
def firstForm (r : Request) (cap : Nat) : Except FormFailure FormValues :=
  match r.multipart with
  | some form =>
    if form.byteSize > cap then .error (.partsTooLarge form.byteSize cap) else .ok form.values
  | none =>
    if r.isUrlEncoded then
      if (r.body.getD []).length > cap then .error (.bodyTooLarge (r.body.getD []).length cap)
      else .ok (FormValues.parseBytes (r.body.getD []))
    else .ok .empty

/-- The form, whether it has been asked for or not. -/
def seenForm (r : Request) (cap : Nat) : Except FormFailure FormValues :=
  r.readForm.getD (r.firstForm cap)

/-- Asking for the form takes the body. -/
def formNeedsBody (r : Request) : Bool :=
  r.readForm.isNone && r.multipart.isNone && r.isUrlEncoded

/-- What a request holds out to the fields of a position. -/
inductive Offer where
  | nothing
  | values (values : FormValues)
  | form (outcome : Except FormFailure FormValues) (files : List UploadedFile)
  | headers (headers : List (String × Text.Bytes))
  | cookies (cookies : List Cookie)
  | body (octets : Option Text.Bytes)

/-- The offer to a position, where forms are capped. -/
def offers (r : Request) (cap : Nat) : Position → Offer
  | .path => .nothing
  | .query => .values r.seenQuery
  | .formData => .form (r.seenForm cap) r.files
  | .header => .headers r.headers
  | .cookie => .cookies r.seenCookies
  | .body => .body r.body

/-- The request after a field of a position has been read. -/
def after (r : Request) (cap : Nat) : Position → Request
  | .path => r
  | .query => { r with readQuery := some r.seenQuery }
  | .formData =>
    { r with readForm := some (r.seenForm cap), body := if r.formNeedsBody then none else r.body }
  | .header => r
  | .cookie => { r with readCookies := some r.seenCookies }
  | .body => { r with body := none }

end Request

/-- Reading a field of the one position can take away what a field of the other is offered. -/
def Position.Clash : Position → Position → Prop
  | .body, .body => True
  | .body, .formData => True
  | .formData, .body => True
  | _, _ => False

namespace Request

/-- A field that has been read leaves fields of other positions the offer they had. -/
theorem offers_after {p q : Position} (compatible : ¬ p.Clash q) (r : Request) (cap : Nat) :
    (r.after cap p).offers cap q = r.offers cap q := by
  cases p with
  | path => rfl
  | header => rfl
  | query => cases q <;> rfl
  | cookie => cases q <;> rfl
  | formData =>
    cases q with
    | body => exact absurd trivial compatible
    | _ => rfl
  | body =>
    cases q with
    | body => exact absurd trivial compatible
    | formData => exact absurd trivial compatible
    | _ => rfl

end Request

/-- What two readings in a row return depends on the exchange only through what the first returns,
if the second does not look at it. -/
theorem Reading.bind_fst_congr {α β : Type} {m : Reading α} {f : α → Reading β} {x y : Exchange}
    (same : (m x).1 = (m y).1) (blind : ∀ a s t, (f a s).1 = (f a t).1) :
    ((m >>= f) x).1 = ((m >>= f) y).1 := by
  show (f (m x).1 (m x).2).1 = (f (m y).1 (m y).2).1
  rw [same]
  exact blind _ _ _

namespace Exchange

/-- The query is read as it is offered, and kept. -/
theorem query_eq (x : Exchange) : (query x).1 = x.request.seenQuery ∧
    ∀ cap, (query x).2.request = x.request.after cap .query := by
  rcases x with ⟨⟨method, target, headers, body, pathParams, multipart, readQuery, _, _⟩, events⟩
  cases readQuery with
  | none => exact ⟨rfl, fun _ => rfl⟩
  | some values => exact ⟨rfl, fun _ => rfl⟩

/-- The cookies are read as they are offered, and kept. -/
theorem cookies_eq (x : Exchange) : (cookies x).1 = x.request.seenCookies ∧
    ∀ cap, (cookies x).2.request = x.request.after cap .cookie := by
  rcases x with ⟨⟨method, target, headers, body, pathParams, multipart, _, _, readCookies⟩, events⟩
  cases readCookies with
  | none => exact ⟨rfl, fun _ => rfl⟩
  | some cookies => exact ⟨rfl, fun _ => rfl⟩

theorem parseForm_eq (x : Exchange) (cap : Nat) :
    (parseForm cap x).1 = x.request.firstForm cap ∧
      (parseForm cap x).2.request =
        { x.request with
          body := if x.request.multipart.isNone && x.request.isUrlEncoded then none
            else x.request.body } := by
  rcases x with ⟨⟨method, target, headers, body, pathParams, multipart, _, _, _⟩, events⟩
  unfold parseForm Request.firstForm
  cases multipart with
  | some form =>
    simp only
    split
    · exact ⟨rfl, rfl⟩
    · exact ⟨rfl, rfl⟩
  | none =>
    simp only [Option.isNone_none, Bool.true_and]
    split
    · simp only [takeBody]
      split
      · exact ⟨rfl, rfl⟩
      · exact ⟨rfl, rfl⟩
    · exact ⟨rfl, rfl⟩

theorem form_of_unread {x : Exchange} (unread : x.request.readForm = none) (cap : Nat) :
    form cap x =
      ((parseForm cap x).1,
        { (parseForm cap x).2 with
          request :=
            { (parseForm cap x).2.request with readForm := some (parseForm cap x).1 } }) := by
  unfold form
  rw [unread]
  rfl

/-- The form is what is offered, whether it has been asked for or not, and is kept. -/
theorem form_eq (x : Exchange) (cap : Nat) : (form cap x).1 = x.request.seenForm cap ∧
    (form cap x).2.request = x.request.after cap .formData := by
  cases read : x.request.readForm with
  | some outcome =>
    rcases x with ⟨⟨method, target, headers, body, pathParams, multipart, _, readForm, _⟩, events⟩
    cases read
    exact ⟨rfl, rfl⟩
  | none =>
    obtain ⟨parsed, rest⟩ := parseForm_eq x cap
    rw [form_of_unread read, Request.after, Request.seenForm, Request.formNeedsBody, read]
    simp only [parsed, rest]
    exact ⟨rfl, rfl⟩

theorem formWithFiles_eq (x : Exchange) (cap : Nat) :
    (formWithFiles cap x).1 =
        (x.request.seenForm cap).map (fun values => (values, x.request.files)) ∧
      (formWithFiles cap x).2.request = x.request.after cap .formData := by
  obtain ⟨read, rest⟩ := form_eq x cap
  have outcome : formWithFiles cap x =
      ((form cap x).1.map fun values => (values, (form cap x).2.request.files),
        (form cap x).2) := rfl
  rw [outcome]
  simp only [read, rest]
  exact ⟨rfl, trivial⟩

end Exchange

end RequestBinding
