import RequestBinding.Proofs.Request.Readings
import RequestBinding.Proofs.Source.Likeness

/-!
# Requests that differ in their values only

Two requests are alike when they carry the same keys, each with the same number of values, and as
many octets where octets are counted, and when as much has been read of both (`Request.Alike`).
Reading alike requests gives alike values, leaves them alike, and reports the same
(`Exchange.query_alike`, `Exchange.cookies_alike`, `Exchange.formWithFiles_alike`,
`Exchange.takeBody_alike`): a report of a reading counts values and octets and shows none.
-/

namespace RequestBinding

/-- The forms differ in their texts and in the contents of their files only, and have as many
octets. -/
structure MultipartForm.Alike (form other : MultipartForm) : Prop where
  values : form.values.Alike other.values
  files : form.files.map (·.field) = other.files.map (·.field)
  byteSize : form.byteSize = other.byteSize

/-- The form has been read with alike values, or could not be read for the same reason. -/
abbrev FormAlike (outcome other : Except FormFailure FormValues) : Prop :=
  Indistinct (fun _ => False) FormValues.Alike outcome other

namespace Request

/-- The requests differ in values only, and as much has been read of both. Cookies, the query and
the form count as what they are read to be; a body counts as a form where the form is still to be
read from it. The content type decides whether it is one, so it is not among the values that may
differ in that respect. -/
structure Alike (r other : Request) : Prop where
  headers : r.headers.map (·.1) = other.headers.map (·.1)
  urlEncoded : r.isUrlEncoded = other.isUrlEncoded
  query : r.seenQuery.Alike other.seenQuery
  queryRead : r.readQuery.isSome = other.readQuery.isSome
  cookies : r.seenCookies.map (·.name) = other.seenCookies.map (·.name)
  cookiesRead : r.readCookies.isSome = other.readCookies.isSome
  body : r.body.map (·.length) = other.body.map (·.length)
  multipart : Option.Rel MultipartForm.Alike r.multipart other.multipart
  formRead : Option.Rel FormAlike r.readForm other.readForm
  encoded : r.formNeedsBody = true →
    (FormValues.parseBytes (r.body.getD [])).Alike (FormValues.parseBytes (other.body.getD []))

namespace Alike

variable {r other : Request} (alike : r.Alike other)

include alike

theorem length_body : (r.body.getD []).length = (other.body.getD []).length := by
  have sizes : ∀ r : Request, (r.body.getD []).length = (r.body.map (·.length)).getD 0 := by
    intro r
    cases r.body <;> rfl
  rw [sizes, sizes, alike.body]

theorem length_header_eq (name : String) :
    (r.header name).length = (other.header name).length := by
  have counted : ∀ r : Request, (r.header name).length =
      ((r.headers.map (·.1)).filter (sameHeader · name)).length := by
    intro r
    rw [header, rawHeader, List.filter_map, List.length_map, List.length_map, List.length_map]
    rfl
  rw [counted, counted, alike.headers]

theorem files_eq : r.files.map (·.field) = other.files.map (·.field) := by
  have forms := alike.multipart
  unfold files
  generalize r.multipart = form at forms
  generalize other.multipart = form' at forms
  cases forms with
  | none => rfl
  | some same => exact same.files

theorem formNeedsBody_eq : r.formNeedsBody = other.formNeedsBody := by
  have forms := alike.multipart
  have reads := alike.formRead
  unfold formNeedsBody
  rw [alike.urlEncoded]
  generalize r.multipart = form at forms
  generalize other.multipart = form' at forms
  generalize r.readForm = read at reads
  generalize other.readForm = read' at reads
  cases forms <;> cases reads <;> rfl

theorem firstForm_alike (unread : r.readForm = none) (cap : Nat) :
    FormAlike (r.firstForm cap) (other.firstForm cap) := by
  have forms := alike.multipart
  have encoded := alike.encoded
  unfold formNeedsBody at encoded
  unfold firstForm
  rw [unread] at encoded
  generalize r.multipart = form at forms encoded
  generalize other.multipart = form' at forms
  cases forms with
  | some same =>
    simp only [same.byteSize]
    exact Indistinct.ite Iff.rfl (.error _) (.ok same.values)
  | none =>
    simp only [alike.length_body, ← alike.urlEncoded]
    by_cases isForm : r.isUrlEncoded = true
    · rw [if_pos isForm, if_pos isForm]
      exact Indistinct.ite Iff.rfl (.error _) (.ok (encoded (by rw [isForm]; rfl)))
    · rw [if_neg isForm, if_neg isForm]
      exact .ok rfl

theorem seenForm_alike (cap : Nat) : FormAlike (r.seenForm cap) (other.seenForm cap) := by
  have reads := alike.formRead
  have first := fun unread => alike.firstForm_alike unread cap
  unfold seenForm
  generalize r.readForm = read at reads first
  generalize other.readForm = read' at reads
  cases reads with
  | none => exact first rfl
  | some same => exact same

/-- Reading a field of any position leaves alike requests alike. -/
theorem after (cap : Nat) (p : Position) : (r.after cap p).Alike (other.after cap p) := by
  cases p with
  | path => exact alike
  | header => exact alike
  | query => exact { alike with queryRead := rfl }
  | cookie => exact { alike with cookiesRead := rfl }
  | body =>
    exact { alike with body := rfl, encoded := fun _ => rfl }
  | formData =>
    refine { alike with body := ?_, formRead := .some (alike.seenForm_alike cap), encoded := ?_ }
    · show Option.map _ (if r.formNeedsBody then none else r.body) =
        Option.map _ (if other.formNeedsBody then none else other.body)
      rw [alike.formNeedsBody_eq]
      split
      · rfl
      · exact alike.body
    · intro needs
      cases needs

end Alike

end Request

namespace Exchange

/-- The requests are alike, and the same has been reported. -/
structure Alike (x y : Exchange) : Prop where
  request : x.request.Alike y.request
  events : x.events = y.events

variable {x y : Exchange} (alike : x.Alike y)

include alike

/-- Reading the query counts its keys. -/
theorem query_alike : (query x).1.Alike (query y).1 ∧ (query x).2.Alike (query y).2 := by
  have values : (query x).1.Alike (query y).1 := by
    rw [(query_eq x).1, (query_eq y).1]
    exact alike.request.query
  refine ⟨values, ?_, ?_⟩
  · rw [(query_eq x).2 0, (query_eq y).2 0]
    exact alike.request.after 0 .query
  have size := values.size_eq
  have reads := rel_of_isSome_eq alike.request.queryRead
  unfold query at size ⊢
  generalize x.request.readQuery = read at reads size ⊢
  generalize y.request.readQuery = read' at reads size ⊢
  cases reads with
  | none => simp only [report, alike.events, size]
  | some _ => exact alike.events

/-- Reading the cookies counts them. -/
theorem cookies_alike :
    (cookies x).1.map (·.name) = (cookies y).1.map (·.name) ∧
      (cookies x).2.Alike (cookies y).2 := by
  have names : (cookies x).1.map (·.name) = (cookies y).1.map (·.name) := by
    rw [(cookies_eq x).1, (cookies_eq y).1]
    exact alike.request.cookies
  refine ⟨names, ?_, ?_⟩
  · rw [(cookies_eq x).2 0, (cookies_eq y).2 0]
    exact alike.request.after 0 .cookie
  have counted := congrArg List.length names
  rw [List.length_map, List.length_map] at counted
  have reads := rel_of_isSome_eq alike.request.cookiesRead
  unfold cookies at counted ⊢
  generalize x.request.readCookies = read at reads counted ⊢
  generalize y.request.readCookies = read' at reads counted ⊢
  cases reads with
  | none => simp only [report, alike.events, counted]
  | some _ => exact alike.events

/-- Taking the body reports nothing. -/
theorem takeBody_alike : (takeBody x).2.Alike (takeBody y).2 :=
  ⟨alike.request.after 0 .body, alike.events⟩

/-- Reading the form for the first time counts its keys, its files and its octets. -/
theorem parseForm_events (unread : x.request.readForm = none) (cap : Nat) :
    (parseForm cap x).2.events = (parseForm cap y).2.events := by
  have forms := alike.request.multipart
  have encoded := alike.request.encoded
  unfold Request.formNeedsBody at encoded
  rw [unread] at encoded
  unfold parseForm
  generalize x.request.multipart = form at forms encoded
  generalize y.request.multipart = form' at forms
  cases forms with
  | @some form form' same =>
    have files := congrArg List.length same.files
    rw [List.length_map, List.length_map] at files
    simp only [same.byteSize]
    split
    · exact alike.events
    · simp only [report, alike.events, same.values.size_eq, files]
  | none =>
    simp only [← alike.request.urlEncoded]
    by_cases isForm : x.request.isUrlEncoded = true
    · have size := (encoded (by rw [isForm]; rfl)).size_eq
      rw [if_pos isForm, if_pos isForm]
      simp only [takeBody, alike.request.length_body]
      split
      · exact alike.events
      · simp only [report, alike.events, size]
    · rw [if_neg isForm, if_neg isForm]
      exact alike.events

/-- Reading the form gives alike forms or the same failure. -/
theorem formWithFiles_alike (cap : Nat) :
    Indistinct (fun _ => False)
        (fun form form' => form.1.Alike form'.1 ∧
          form.2.map (·.field) = form'.2.map (·.field))
        (formWithFiles cap x).1 (formWithFiles cap y).1 ∧
      (formWithFiles cap x).2.Alike (formWithFiles cap y).2 := by
  refine ⟨?_, ?_, ?_⟩
  · rw [(formWithFiles_eq x cap).1, (formWithFiles_eq y cap).1]
    exact (alike.request.seenForm_alike cap).map fun _ _ values => ⟨values, alike.request.files_eq⟩
  · rw [(formWithFiles_eq x cap).2, (formWithFiles_eq y cap).2]
    exact alike.request.after cap .formData
  have reads := alike.request.formRead
  have first := fun unread => parseForm_events alike unread cap
  show (form cap x).2.events = (form cap y).2.events
  unfold form
  generalize x.request.readForm = read at reads first ⊢
  generalize y.request.readForm = read' at reads ⊢
  cases reads with
  | none => exact first rfl
  | some _ => exact alike.events

end Exchange

end RequestBinding
