import Mathlib.Data.List.Pairwise
import RequestBinding.Proofs.Request.Operations

/-!
# What a request hands out

The octets of a body are handed out once at most, to whoever takes the body, to a field for the body
or to the reader of a url-encoded form; everyone who asks for the form is told the same, whatever
the own limit; and the query and the cookies are always those that came in.
`Operation.run_consumes_once` says so of every run of operations on a request that nobody has read
from before, in three ways: of the elementary readings that the run is made of, of what its direct
calls return, and of its operations as functions of the body. For the last, an operation spares the
body when it does without the body what it does with it (`Reading.Spares`). A reading to which no
octets are handed out spares the body (`Reading.Trace.spares`), and once octets have been handed out
there is no body to depend on (`Reading.Reads.spares_or_gone`).
-/

namespace RequestBinding

/-! ## Octets -/

namespace Touch

/-- The octets of the body that an elementary reading hands out: to whoever takes the body, or to
the reader of a url-encoded form. -/
def octets? (t : Touch) : Option Text.Bytes :=
  match t.position with
  | .body => (Exchange.takeBody t.before).1
  | .formData =>
    if t.before.request.formNeedsBody then (Exchange.takeBody t.before).1 else none
  | _ => none

variable {t u : Touch}

/-- Octets are handed out of a body that is there, and then it is gone. -/
theorem octets?_eq_some {octets : Text.Bytes} (given : t.octets? = some octets) :
    t.before.request.body = some octets ∧ t.after.body = none := by
  unfold octets? at given
  unfold Touch.after
  split at given
  · rename_i position
    rw [position]
    exact ⟨given, rfl⟩
  · rename_i position
    rw [position]
    split at given
    · rename_i needed
      refine ⟨given, ?_⟩
      rw [Request.after, needed]
      rfl
    · cases given
  · cases given

theorem octets?_of_body_eq_none (gone : t.before.request.body = none) : t.octets? = none := by
  cases given : t.octets? with
  | none => rfl
  | some octets => cases gone.symm.trans (octets?_eq_some given).1

/-- When the body has been handed out, nobody else gets it. -/
theorem octets?_or_octets? (follows : t.after.Follows u.before.request) :
    t.octets? = none ∨ u.octets? = none := by
  cases first : t.octets? with
  | none => exact Or.inl rfl
  | some octets =>
    exact Or.inr (octets?_of_body_eq_none (follows.body_eq_none (octets?_eq_some first).2))

/-- Who asks for the form later is told what was told before. -/
theorem seenForm_eq (follows : t.after.Follows u.before.request)
    (asked : t.position = .formData) :
    u.before.request.seenForm u.cap = t.before.request.seenForm t.cap := by
  have kept : t.after.readForm = some (t.before.request.seenForm t.cap) := by
    rw [Touch.after, asked]
    rfl
  rw [Request.seenForm, follows.form _ kept]
  rfl

end Touch

/-- Elementary readings share out a request that nobody has read from: its octets go to one of them
at most; all who ask for the form get the same outcome, whatever their limits, and the same files;
and the query and the cookies are those of the target and the headers that came in. -/
structure Request.SharedOut (r : Request) (log : List Touch) : Prop where
  octets : ∀ t ∈ log, ∀ octets, t.octets? = some octets → r.body = some octets
  once : log.Pairwise fun t u => t.octets? = none ∨ u.octets? = none
  form : ∀ t ∈ log, ∀ u ∈ log, t.position = .formData → u.position = .formData →
    (Exchange.form t.cap t.before).1 = (Exchange.form u.cap u.before).1 ∧
      (Exchange.formWithFiles t.cap t.before).1 = (Exchange.formWithFiles u.cap u.before).1
  query : ∀ t ∈ log, t.position = .query →
    (Exchange.query t.before).1 = FormValues.parse (r.target.query.getD "")
  cookies : ∀ t ∈ log, t.position = .cookie → (Exchange.cookies t.before).1 = r.cookies

/-- Readings share out a request when each of them follows the request, and the later ones follow
what the earlier ones have left of it. -/
theorem Request.Unread.sharedOut {r : Request} (unread : r.Unread) {log : List Touch}
    (follow : ∀ t ∈ log, r.Follows t.before.request)
    (chained : log.Pairwise fun t u => t.after.Follows u.before.request) : r.SharedOut log where
  octets t member octets given := by
    have there := (Touch.octets?_eq_some given).1
    rcases (follow t member).body with same | gone
    · exact same ▸ there
    · rw [gone] at there
      cases there
  once := chained.imp fun follows => Touch.octets?_or_octets? follows
  form := by
    have formsAgree : ∀ t ∈ log, ∀ u ∈ log, t.position = .formData → u.position = .formData →
        t.before.request.seenForm t.cap = u.before.request.seenForm u.cap := by
      have later := chained.imp fun {t u} follows (asked : t.position = .formData)
        (_ : u.position = .formData) => (Touch.seenForm_eq follows asked).symm
      have earlier := chained.imp fun {t u} follows (_ : u.position = .formData)
        (asked : t.position = .formData) => Touch.seenForm_eq follows asked
      exact fun t memberT u memberU =>
        later.forall_of_forall_of_flip (fun _ _ _ _ => rfl) earlier memberT memberU
    intro t memberT u memberU askedT askedU
    have outcome := formsAgree t memberT u memberU askedT askedU
    have files : t.before.request.files = u.before.request.files := by
      rw [Request.files, Request.files, (follow t memberT).multipart, (follow u memberU).multipart]
    constructor
    · rw [(Exchange.form_eq t.before _).1, (Exchange.form_eq u.before _).1, outcome]
    · rw [(Exchange.formWithFiles_eq t.before _).1, (Exchange.formWithFiles_eq u.before _).1,
        outcome, files]
  query t member _ := by
    rw [(Exchange.query_eq t.before).1, (follow t member).query, Request.seenQuery, unread.query]
    rfl
  cookies t member _ := by
    rw [(Exchange.cookies_eq t.before).1, (follow t member).cookies, Request.seenCookies,
      unread.cookies]
    rfl

/-! ## With and without the body -/

/-- The exchange as it is once somebody has taken the body. -/
def Exchange.bodiless (x : Exchange) : Exchange :=
  (Exchange.takeBody x).2

theorem Exchange.bodiless_of_body_eq_none {x : Exchange} (gone : x.request.body = none) :
    x.bodiless = x := by
  rcases x with ⟨request, events⟩
  rcases request with ⟨_, _, _, body, _, _, _, _, _⟩
  cases gone
  rfl

/-- The body is nothing to a reading: it returns, reports and leaves the same when somebody has
taken the body before. -/
def Reading.Spares {α : Type} (m : Reading α) (x : Exchange) : Prop :=
  m x.bodiless = ((m x).1, (m x).2.bodiless)

theorem Reading.spares_of_gone {α : Type} {m : Reading α} {x : Exchange}
    (gone : x.request.body = none) (still : (m x).2.request.body = none) : m.Spares x := by
  rw [Spares, Exchange.bodiless_of_body_eq_none gone, Exchange.bodiless_of_body_eq_none still]
  rfl

namespace Exchange

theorem query_spares (x : Exchange) : query.Spares x := by
  rcases x with ⟨⟨_, _, _, _, _, _, readQuery, _, _⟩, _⟩
  cases readQuery <;> rfl

theorem cookies_spares (x : Exchange) : cookies.Spares x := by
  rcases x with ⟨⟨_, _, _, _, _, _, _, _, readCookies⟩, _⟩
  cases readCookies <;> rfl

/-- A form in parts does not need the body, and neither does one that is not url-encoded. -/
theorem parseForm_spares {x : Exchange}
    (spared : (x.request.multipart.isNone && x.request.isUrlEncoded) = false) (cap : Nat) :
    (parseForm cap).Spares x := by
  unfold Reading.Spares parseForm
  cases form : x.request.multipart with
  | some parts =>
    have still : x.bodiless.request.multipart = some parts := form
    by_cases large : parts.byteSize > cap
    · simp only [still, if_pos large]
    · simp only [still, if_neg large]
      rfl
  | none =>
    rw [form] at spared
    -- Whether a form is url-encoded is read off its headers alone.
    have other : ¬ x.request.isUrlEncoded = true := Bool.eq_false_iff.mp spared
    have still : x.bodiless.request.multipart = none := form
    have stillOther : ¬ x.bodiless.request.isUrlEncoded = true := other
    simp only [still, if_neg other, if_neg stillOther]

/-- A form that does not need the body is the same without one. -/
theorem form_spares {x : Exchange} (spared : x.request.formNeedsBody = false) (cap : Nat) :
    (form cap).Spares x := by
  cases read : x.request.readForm with
  | some outcome =>
    rcases x with ⟨⟨_, _, _, _, _, _, _, readForm, _⟩, _⟩
    cases read
    rfl
  | none =>
    rw [Request.formNeedsBody, read] at spared
    have parsed : parseForm cap x.bodiless = _ := parseForm_spares spared cap
    rw [Reading.Spares, form_of_unread (show x.bodiless.request.readForm = none from read),
      form_of_unread read, parsed]
    rfl

theorem formWithFiles_spares {x : Exchange} (spared : x.request.formNeedsBody = false)
    (cap : Nat) : (formWithFiles cap).Spares x := by
  have read : form cap x.bodiless = _ := form_spares spared cap
  unfold Reading.Spares formWithFiles
  rw [read]
  rfl

end Exchange

/-- Who asks for the form and is handed no octets does not need them, or there are none. -/
theorem Touch.spared_or_gone {t : Touch} (nothing : t.octets? = none)
    (asked : t.position = .formData) :
    t.before.request.formNeedsBody = false ∨ t.before.request.body = none := by
  cases needed : t.before.request.formNeedsBody with
  | false => exact Or.inl rfl
  | true =>
    unfold octets? at nothing
    rw [asked] at nothing
    simp only [needed, if_true] at nothing
    exact Or.inr nothing

namespace Reading

variable {α : Type} {m : Reading α} {x : Exchange} {log : List Touch}

theorem Spares.bind {β : Type} {f : α → Reading β} (first : m.Spares x)
    (rest : (f (m x).1).Spares (m x).2) : (m >>= f).Spares x := by
  show f (m x.bodiless).1 (m x.bodiless).2 = _
  rw [show m x.bodiless = _ from first]
  exact rest

/-- A reading to which no octets of the body are handed out spares the body. -/
theorem Trace.spares (trace : m.Trace x log) (nothing : ∀ t ∈ log, t.octets? = none) :
    m.Spares x := by
  induction trace with
  | done a x => rfl
  | look blind _ ih =>
    rename_i f x _ _
    have same : f x.bodiless = f x := blind x _ (x.request.follows_after 0 .body)
    show f x.bodiless x.bodiless = _
    rw [same]
    exact ih nothing
  | report e x => rfl
  | query x => exact x.query_spares
  | cookies x => exact x.cookies_spares
  | form cap x =>
    rcases Touch.spared_or_gone (nothing _ List.mem_cons_self) rfl with spared | gone
    · exact Exchange.form_spares spared cap
    · refine spares_of_gone gone ?_
      rw [(Exchange.form_eq x cap).2]
      exact (x.request.follows_after cap .formData).body_eq_none gone
  | formWithFiles cap x =>
    rcases Touch.spared_or_gone (nothing _ List.mem_cons_self) rfl with spared | gone
    · exact Exchange.formWithFiles_spares spared cap
    · refine spares_of_gone gone ?_
      rw [(Exchange.formWithFiles_eq x cap).2]
      exact (x.request.follows_after cap .formData).body_eq_none gone
  | takeBody x => exact spares_of_gone (nothing _ List.mem_cons_self) rfl
  | bind _ _ ihFirst ihRest =>
    exact (ihFirst fun t member => nothing t (List.mem_append_left _ member)).bind
      (ihRest fun t member => nothing t (List.mem_append_right _ member))

/-- A reading that does not spare the body leaves none. -/
theorem Reads.spares_or_gone {allowed : Position → Prop} (reads : m.Reads allowed)
    (x : Exchange) : m.Spares x ∨ (m x).2.request.body = none := by
  obtain ⟨log, trace⟩ := reads.exists_trace x
  by_cases given : ∃ t ∈ log, ∃ octets, t.octets? = some octets
  · obtain ⟨t, member, octets, given⟩ := given
    exact Or.inr ((trace.linked.follows_after_of_mem member).body_eq_none
      (Touch.octets?_eq_some given).2)
  · exact Or.inl (trace.spares fun t member =>
      Option.eq_none_iff_forall_ne_some.mpr fun octets some => given ⟨t, member, octets, some⟩)

end Reading

/-! ## The operations of a run -/

namespace Operation

/-- An operation of a run, and the exchange as it finds it. -/
structure Turn where
  op : Operation
  before : Exchange

/-- Operations that are done one after the other. -/
def turns : List Operation → Exchange → List Turn
  | [], _ => []
  | op :: rest, x => ⟨op, x⟩ :: turns rest (op.perform x).2

/-- A direct call for something that the request holds, as an elementary reading. -/
def Turn.call? (s : Turn) : Option Touch :=
  match s.op with
  | query => some ⟨s.before, .query, 0⟩
  | cookies => some ⟨s.before, .cookie, 0⟩
  | form cap => some ⟨s.before, .formData, cap⟩
  | formWithFiles cap => some ⟨s.before, .formData, cap⟩
  | takeBody => some ⟨s.before, .body, 0⟩
  | _ => none

theorem Turn.call?_eq_some {s : Turn} {t : Touch} (call : s.call? = some t) :
    t.before = s.before ∧ t.after = (s.op.answer s.before).2.request := by
  rcases s with ⟨op, x⟩
  cases op with
  | query =>
    cases call
    exact ⟨rfl, ((Exchange.query_eq x).2 0).symm⟩
  | cookies =>
    cases call
    exact ⟨rfl, ((Exchange.cookies_eq x).2 0).symm⟩
  | form cap =>
    cases call
    exact ⟨rfl, (Exchange.form_eq x cap).2.symm⟩
  | formWithFiles cap =>
    cases call
    exact ⟨rfl, (Exchange.formWithFiles_eq x cap).2.symm⟩
  | takeBody =>
    cases call
    exact ⟨rfl, rfl⟩
  | _ => cases call

theorem follows_of_mem_turns {ops : List Operation} {x : Exchange} {s : Turn}
    (member : s ∈ turns ops x) : x.request.Follows s.before.request := by
  induction ops generalizing x with
  | nil => exact nomatch member
  | cons op rest ih =>
    rcases List.mem_cons.mp member with rfl | later
    · exact .refl _
    · exact (op.perform_reads.follows x).trans (ih later)

/-- What an operation has left of the request, every later one finds or what has become of it. -/
theorem pairwise_turns (ops : List Operation) (x : Exchange) :
    (turns ops x).Pairwise fun s u =>
      (s.op.answer s.before).2.request.Follows u.before.request := by
  induction ops generalizing x with
  | nil => exact .nil
  | cons op rest ih =>
    exact List.pairwise_cons.mpr ⟨fun u member => follows_of_mem_turns member, ih _⟩

/-- Of two operations in a row, whatever has been done in between, one does without the body what it
does with it. -/
theorem spares_or_spares {op other : Operation} {x y : Exchange}
    (follows : (op.answer x).2.request.Follows y.request) :
    op.answer.Spares x ∨ other.answer.Spares y := by
  rcases op.answer_reads.spares_or_gone x with spares | gone
  · exact Or.inl spares
  · have gone := follows.body_eq_none gone
    exact Or.inr (Reading.spares_of_gone gone
      ((other.answer_reads.follows y).body_eq_none gone))

/-- A run of operations shares out a request that nobody has read from, however the run is seen as
elementary readings, and there is such a way to see it; so do the direct calls among the operations;
and of any two operations, one at least does without the body what it does with it. -/
theorem run_consumes_once (ops : List Operation) {x : Exchange} (unread : x.request.Unread) :
    (∃ log, (run ops).Trace x log) ∧
      (∀ log, (run ops).Trace x log → x.request.SharedOut log) ∧
      x.request.SharedOut ((turns ops x).filterMap Turn.call?) ∧
      (turns ops x).Pairwise fun s u =>
        s.op.answer.Spares s.before ∨ u.op.answer.Spares u.before := by
  refine ⟨(run_reads ops).exists_trace x, fun log trace => ?_, ?_, ?_⟩
  · exact unread.sharedOut (fun t member => trace.linked.follows_of_mem member)
      trace.linked.pairwise
  · refine unread.sharedOut (fun t member => ?_) ?_
    · obtain ⟨s, member, call⟩ := List.mem_filterMap.mp member
      rw [(Turn.call?_eq_some call).1]
      exact follows_of_mem_turns member
    · refine List.pairwise_filterMap.mpr ((pairwise_turns ops x).imp ?_)
      intro s u follows t callT v callV
      rw [(Turn.call?_eq_some callT).2, (Turn.call?_eq_some callV).1]
      exact follows
  · exact (pairwise_turns ops x).imp fun follows => spares_or_spares follows

/-- Of a url-encoded form that is read before somebody takes the body, the form gets the octets, and
it is not the same without the body. -/
theorem run_consumes_once_urlEncoded :
    let x : Exchange :=
      { request :=
          { headers := [("content-type", Text.utf8Bytes Request.urlEncodedType)]
            body := some [97, 61, 49] } }
    let ops := [form 8, takeBody, form 0]
    x.request.Unread ∧
      (∃ log, (run ops).Trace x log ∧ x.request.SharedOut log ∧
        ∃ t ∈ log, t.position = .formData ∧ t.octets? = some [97, 61, 49]) ∧
      ¬ (form 8).answer.Spares x ∧
      (turns ops x).Pairwise fun s u =>
        s.op.answer.Spares s.before ∨ u.op.answer.Spares u.before := by
  intro x ops
  have unread : x.request.Unread := ⟨rfl, rfl, rfl⟩
  have trace : (run ops).Trace x _ :=
    .bind (.bind (.form 8 x) (.done _ _)) <|
      .bind (.bind (.takeBody _) (.done _ _)) <|
        .bind (.bind (.form 0 _) (.done _ _)) (.done _ _)
  obtain ⟨-, shared, -, spare⟩ := run_consumes_once ops unread
  refine ⟨unread, ⟨_, trace, shared _ trace, _, List.mem_cons_self .., rfl, rfl⟩, ?_, spare⟩
  intro spares
  have sizes := congrArg (fun outcome => outcome.1.toOption.map FormValues.size) spares
  revert sizes
  decide +kernel

end Operation

end RequestBinding
