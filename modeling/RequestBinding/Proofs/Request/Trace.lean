import RequestBinding.Proofs.Request.Readings

/-!
# Traces of readings

Whatever reads a request is made of a few elementary readings: the query, the cookies, the form and
the body. `Reading.Trace` says which of them a reading makes from a given exchange, each with the
exchange as it finds it. How a reading is taken apart is not unique, so what is said about traces is
said about every trace. `Reading.Reads` says of a reading as a whole that it is made that way, and
which positions it may read.

* `Reading.Trace.linked`: a trace leads from the request before to the request after, so nothing
  but the elementary readings of a trace changes the request.
* `Request.Follows`: what a request may have become by being read. Each elementary reading keeps to
  it (`Request.follows_after`), and so does a whole trace (`Linked.follows`).
* `Linked.pairwise`: of two elementary readings in a trace, the later one finds a request that
  follows what the earlier one has left.
* `Reading.Reads.exists_trace`: a reading that is made of elementary readings has a trace from every
  exchange.
-/

namespace RequestBinding

/-! ## Elementary readings -/

/-- An elementary reading: the exchange that it finds, what it reads, and the cap on forms if it
asks for the form. -/
structure Touch where
  before : Exchange
  position : Position
  cap : Nat := 0

/-- The request once it has been touched. -/
def Touch.after (t : Touch) : Request :=
  t.before.request.after t.cap t.position

/-! ## What becomes of a request -/

namespace Request

/-- What a request may have become by being read: what came in is as it was, what has been read
reads the same, the outcome of the form stays once there is one, and the body may be gone. -/
structure Follows (r later : Request) : Prop where
  target : later.target = r.target
  headers : later.headers = r.headers
  pathParams : later.pathParams = r.pathParams
  multipart : later.multipart = r.multipart
  query : later.seenQuery = r.seenQuery
  cookies : later.seenCookies = r.seenCookies
  form : ∀ outcome, r.readForm = some outcome → later.readForm = some outcome
  body : later.body = r.body ∨ later.body = none

theorem Follows.refl (r : Request) : Follows r r :=
  ⟨rfl, rfl, rfl, rfl, rfl, rfl, fun _ read => read, Or.inl rfl⟩

theorem Follows.trans {r s t : Request} (first : Follows r s) (second : Follows s t) :
    Follows r t where
  target := second.target.trans first.target
  headers := second.headers.trans first.headers
  pathParams := second.pathParams.trans first.pathParams
  multipart := second.multipart.trans first.multipart
  query := second.query.trans first.query
  cookies := second.cookies.trans first.cookies
  form outcome read := second.form outcome (first.form outcome read)
  body := by
    rcases second.body with same | gone
    · rw [same]
      exact first.body
    · exact Or.inr gone

theorem Follows.body_eq_none {r later : Request} (follows : Follows r later)
    (gone : r.body = none) : later.body = none := by
  rcases follows.body with same | none
  · exact same.trans gone
  · exact none

/-- A request follows itself as it was before a field of some position was read. -/
theorem follows_after (r : Request) (cap : Nat) (p : Position) : Follows r (r.after cap p) := by
  cases p with
  | path => exact .refl r
  | header => exact .refl r
  | query => exact ⟨rfl, rfl, rfl, rfl, rfl, rfl, fun _ read => read, Or.inl rfl⟩
  | cookie => exact ⟨rfl, rfl, rfl, rfl, rfl, rfl, fun _ read => read, Or.inl rfl⟩
  | body => exact ⟨rfl, rfl, rfl, rfl, rfl, rfl, fun _ read => read, Or.inr rfl⟩
  | formData =>
    refine ⟨rfl, rfl, rfl, rfl, rfl, rfl, fun outcome read => ?_, ?_⟩
    · rw [after, seenForm, read]
      rfl
    · rw [after]
      cases r.formNeedsBody with
      | false => exact Or.inl rfl
      | true => exact Or.inr rfl

/-- Once a field of a position other than the body has been read, whatever else is read of the
request, fields of that position are offered the same. -/
theorem Follows.offers {r later : Request} {cap : Nat} {p : Position}
    (follows : Follows (r.after cap p) later) (notBody : p ≠ .body) :
    later.offers cap p = r.offers cap p := by
  cases p with
  | path => rfl
  | body => exact absurd rfl notBody
  | query => exact congrArg Offer.values follows.query
  | cookie => exact congrArg Offer.cookies follows.cookies
  | header => exact congrArg Offer.headers follows.headers
  | formData =>
    have read : later.readForm = some (r.seenForm cap) := follows.form _ rfl
    have outcome : later.seenForm cap = r.seenForm cap := by
      rw [seenForm, read]
      rfl
    have parts : later.multipart = r.multipart := follows.multipart
    rw [Request.offers, Request.offers, outcome, files, files, parts]

end Request

/-! ## Traces -/

/-- The elementary readings that a reading makes, in order. Besides, it may look at what stays of a
request as it is, so not at the body, and report events. -/
inductive Reading.Trace : {α : Type} → Reading α → Exchange → List Touch → Prop
  | done {α : Type} (a : α) (x : Exchange) : Trace (pure a) x []
  | look {β : Type} {f : Exchange → Reading β} {x : Exchange} {log : List Touch}
    (blind : ∀ x y : Exchange, x.request.Follows y.request → f y = f x)
    (rest : Trace (f x) x log) : Trace (get >>= f) x log
  | report (e : Event) (x : Exchange) : Trace (Exchange.log e) x []
  | query (x : Exchange) : Trace Exchange.query x [⟨x, .query, 0⟩]
  | cookies (x : Exchange) : Trace Exchange.cookies x [⟨x, .cookie, 0⟩]
  | form (cap : Nat) (x : Exchange) : Trace (Exchange.form cap) x [⟨x, .formData, cap⟩]
  | formWithFiles (cap : Nat) (x : Exchange) :
    Trace (Exchange.formWithFiles cap) x [⟨x, .formData, cap⟩]
  | takeBody (x : Exchange) : Trace Exchange.takeBody x [⟨x, .body, 0⟩]
  | bind {α β : Type} {m : Reading α} {f : α → Reading β} {x : Exchange} {log log' : List Touch}
    (first : Trace m x log) (rest : Trace (f (m x).1) (m x).2 log') :
    Trace (m >>= f) x (log ++ log')

/-! ## Traces as chains -/

/-- Elementary readings that lead from one request to another: each finds the request as the one
before it has left it. -/
def Linked : Request → List Touch → Request → Prop
  | r, [], final => r = final
  | r, t :: rest, final => t.before.request = r ∧ Linked t.after rest final

namespace Linked

variable {r s : Request} {log : List Touch}

theorem append {t : Request} {log' : List Touch} (first : Linked r log s)
    (second : Linked s log' t) : Linked r (log ++ log') t := by
  induction log generalizing r with
  | nil =>
    cases first
    exact second
  | cons u rest ih => exact ⟨first.1, ih first.2⟩

theorem follows (linked : Linked r log s) : r.Follows s := by
  induction log generalizing r with
  | nil =>
    cases linked
    exact .refl _
  | cons u rest ih =>
    obtain ⟨rfl, linkedRest⟩ := linked
    exact (Request.follows_after _ _ _).trans (ih linkedRest)

theorem follows_of_mem (linked : Linked r log s) {t : Touch} (member : t ∈ log) :
    r.Follows t.before.request := by
  induction log generalizing r with
  | nil => exact nomatch member
  | cons u rest ih =>
    obtain ⟨rfl, linkedRest⟩ := linked
    rcases List.mem_cons.mp member with rfl | later
    · exact .refl _
    · exact (Request.follows_after _ _ _).trans (ih linkedRest later)

theorem follows_after_of_mem (linked : Linked r log s) {t : Touch} (member : t ∈ log) :
    t.after.Follows s := by
  induction log generalizing r with
  | nil => exact nomatch member
  | cons u rest ih =>
    rcases List.mem_cons.mp member with rfl | later
    · exact linked.2.follows
    · exact ih linked.2 later

/-- What an elementary reading has left, every later one finds or what has become of it. -/
theorem pairwise (linked : Linked r log s) :
    log.Pairwise fun t u => t.after.Follows u.before.request := by
  induction log generalizing r with
  | nil => exact .nil
  | cons u rest ih =>
    obtain ⟨rfl, linkedRest⟩ := linked
    exact List.pairwise_cons.mpr
      ⟨fun t member => linkedRest.follows_of_mem member, ih linkedRest⟩

end Linked

/-- A trace leads from the request before the reading to the request after it. -/
theorem Reading.Trace.linked {α : Type} {m : Reading α} {x : Exchange} {log : List Touch}
    (trace : m.Trace x log) : Linked x.request log (m x).2.request := by
  induction trace with
  | done a x => exact rfl
  | look _ _ ihRest => exact ihRest
  | report e x => exact rfl
  | query x => exact ⟨rfl, ((Exchange.query_eq x).2 0).symm⟩
  | cookies x => exact ⟨rfl, ((Exchange.cookies_eq x).2 0).symm⟩
  | form cap x => exact ⟨rfl, (Exchange.form_eq x cap).2.symm⟩
  | formWithFiles cap x => exact ⟨rfl, (Exchange.formWithFiles_eq x cap).2.symm⟩
  | takeBody x => exact ⟨rfl, rfl⟩
  | bind _ _ ihFirst ihRest => exact ihFirst.append ihRest

/-! ## Readings made of elementary readings -/

/-- A reading that is made of elementary readings, all of positions that are allowed. It may look at
what stays of a request as it is, and report events. -/
inductive Reading.Reads (allowed : Position → Prop) : {α : Type} → Reading α → Prop
  | done {α : Type} (a : α) : Reads allowed (pure a)
  | look {β : Type} {f : Exchange → Reading β}
    (blind : ∀ x y : Exchange, x.request.Follows y.request → f y = f x)
    (rest : ∀ x, Reads allowed (f x)) : Reads allowed (get >>= f)
  | report (e : Event) : Reads allowed (Exchange.log e)
  | query (inside : allowed .query) : Reads allowed Exchange.query
  | cookies (inside : allowed .cookie) : Reads allowed Exchange.cookies
  | form (inside : allowed .formData) (cap : Nat) : Reads allowed (Exchange.form cap)
  | formWithFiles (inside : allowed .formData) (cap : Nat) :
    Reads allowed (Exchange.formWithFiles cap)
  | takeBody (inside : allowed .body) : Reads allowed Exchange.takeBody
  | bind {α β : Type} {m : Reading α} {f : α → Reading β} (first : Reads allowed m)
    (rest : ∀ a, Reads allowed (f a)) : Reads allowed (m >>= f)

namespace Reading.Reads

variable {α : Type} {m : Reading α} {allowed : Position → Prop}

/-- Reports one after the other. -/
theorem reports (events : List Event) :
    Reads allowed (forIn events PUnit.unit fun e _ => do
      Exchange.log e
      pure (.yield PUnit.unit)) := by
  induction events with
  | nil => exact done _
  | cons e rest ih =>
    rw [List.forIn_cons]
    refine bind (bind (report e) fun _ => done _) fun next => ?_
    cases next with
    | done _ => exact done _
    | yield _ => exact ih

theorem exists_trace (reads : Reads allowed m) (x : Exchange) : ∃ log, m.Trace x log := by
  induction reads generalizing x with
  | done a => exact ⟨_, .done a x⟩
  | look blind _ ih =>
    obtain ⟨log, trace⟩ := ih x x
    exact ⟨log, .look blind trace⟩
  | report e => exact ⟨_, .report e x⟩
  | query _ => exact ⟨_, .query x⟩
  | cookies _ => exact ⟨_, .cookies x⟩
  | form _ cap => exact ⟨_, .form cap x⟩
  | formWithFiles _ cap => exact ⟨_, .formWithFiles cap x⟩
  | takeBody _ => exact ⟨_, .takeBody x⟩
  | bind _ _ ihFirst ihRest =>
    obtain ⟨log, first⟩ := ihFirst x
    obtain ⟨log', rest⟩ := ihRest _ _
    exact ⟨log ++ log', .bind first rest⟩

/-- What a reading leaves of a request follows it. -/
theorem follows (reads : Reads allowed m) (x : Exchange) :
    x.request.Follows (m x).2.request := by
  obtain ⟨log, trace⟩ := reads.exists_trace x
  exact trace.linked.follows

end Reading.Reads

end RequestBinding
