import RequestBinding.Pattern.Dialect
import RequestBinding.Proofs.Request.Operations

/-!
# Binding once more

Binding a request to a record that has no field for the body gives the same when it is repeated on
the same request, whatever is done with the request in between, and so does binding a single value
(`Operation.run_repeats`).

The reason is not that the request stays as it is. A binding that fails early has not asked for the
form yet, and others may then take the body or read the form under a cap of their own. But then the
repeated binding fails early as well: each elementary reading that it makes, the first binding has
made before (`Reading.Reads.again`).
-/

namespace RequestBinding

/-- A reading that does not take the body gives the same when it is repeated on what has become of
the request. -/
theorem Reading.Reads.again {α : Type} {m : Reading α} {allowed : Position → Prop}
    (reads : m.Reads allowed) (spared : ¬ allowed .body) {x y : Exchange}
    (follows : (m x).2.request.Follows y.request) : (m y).1 = (m x).1 := by
  induction reads generalizing x y with
  | done a => rfl
  | report e => rfl
  | look blind rest ih =>
    rename_i f
    have same : f y = f x := blind x y (((rest x).follows x).trans follows)
    calc (f y y).1 = (f x y).1 := by rw [same]
      _ = (f x x).1 := ih x follows
  | query inside =>
    rw [(Exchange.query_eq x).2 0] at follows
    rw [(Exchange.query_eq y).1, (Exchange.query_eq x).1]
    exact follows.query
  | cookies inside =>
    rw [(Exchange.cookies_eq x).2 0] at follows
    rw [(Exchange.cookies_eq y).1, (Exchange.cookies_eq x).1]
    exact follows.cookies
  | form inside cap =>
    rw [(Exchange.form_eq x cap).2] at follows
    have offered := follows.offers (p := .formData) nofun
    rw [(Exchange.form_eq y cap).1, (Exchange.form_eq x cap).1]
    exact (Request.Offer.form.inj offered).1
  | formWithFiles inside cap =>
    rw [(Exchange.formWithFiles_eq x cap).2] at follows
    have offered := follows.offers (p := .formData) nofun
    obtain ⟨outcome, files⟩ := Request.Offer.form.inj offered
    rw [(Exchange.formWithFiles_eq y cap).1, (Exchange.formWithFiles_eq x cap).1, outcome, files]
  | takeBody inside => exact absurd inside spared
  | bind first rest ihFirst ihRest =>
    rename_i m f
    -- The first part has been repeated on what the second part has left of the request.
    have same : (m y).1 = (m x).1 :=
      ihFirst (((rest (m x).1).follows (m x).2).trans follows)
    calc (f (m y).1 (m y).2).1 = (f (m x).1 (m y).2).1 := by rw [same]
      _ = (f (m x).1 (m x).2).1 := ihRest _ (follows.trans (first.follows y))

/-- What a record is bound to depends on the registry only through how the record is registered. -/
theorem Registry.bindNew_congr {registry later : Registry} {r : Record}
    (same : later.find? r.ident = registry.find? r.ident) (recs : Records)
    (pathParams : PathParams) :
    later.bindNew recs r pathParams = registry.bindNew recs r pathParams := by
  unfold bindNew bindAt
  rw [same]

/-- Binding a request to a record without a field for the body gives the same value or the same
error when it is repeated after a run of operations on the request, as long as the record is
registered as it was; and binding a single value gives the same and leaves the same. -/
theorem Operation.run_repeats :
    (∀ (registry later : Registry) (recs : Records) (r : Record) (pathParams : PathParams)
        (x : Exchange) (between : List Operation),
      later.find? r.ident = registry.find? r.ident →
      (∀ api, registry.find? r.ident = some api → ∀ param ∈ api.params, param.position ≠ .body) →
      let first := registry.bindNew recs r pathParams x
      (later.bindNew recs r pathParams (run between first.2).2).1 = first.1) ∧
    ∀ (recs : Records) (settings : Settings) (type : WireType) (key : String) (held : Value)
        (x : Exchange) (between : List Operation),
      let first := AdHoc.bindOne recs settings type key held x
      (AdHoc.bindOne recs settings type key held (run between first.2).2).1 = first.1 := by
  constructor
  · intro registry later recs r pathParams x between same noBody first
    have reads : (registry.bindNew recs r pathParams).Reads (· ≠ .body) :=
      Registry.bindNew_reads noBody recs pathParams
    rw [Registry.bindNew_congr same]
    exact reads.again (fun other => other rfl) ((run_reads between).follows first.2)
  · intro recs settings type key held x between first
    have reads : (AdHoc.bindOne recs settings type key held).Reads (· ≠ .body) :=
      AdHoc.bindOne_reads nofun nofun nofun recs settings type key held
    exact reads.again (fun other => other rfl) ((run_reads between).follows first.2)

/-- A visit: a page of the query and a note of the form. -/
def visit : Record :=
  let fields : FieldTable :=
    .field (.annotated "page" (.scalar (.int .uint8)) "<in:query>")
      (.field (.annotated "note" (.scalar .text) "<in:formData> <required>") .nil)
  { ident := "Visit", name := "Visit", fields, zero := fields.zero {} }

/-- The page of the visit cannot be read, so the form is not asked for. Then somebody asks for it
under a cap that it exceeds. -/
theorem Operation.run_repeats_visit :
    let registry :=
      (({} : Registry).register {} { mapper := id, decoder := fun _ => none } none visit).2.1
    let x : Exchange :=
      { request :=
          { target := { query := some "page=one" }
            headers := [("content-type", Text.utf8Bytes Request.urlEncodedType)]
            body := some (Text.utf8Bytes "note=ok") } }
    let first := registry.bindNew {} visit [] x
    (∃ e, first.1 = .error e ∧ e.param = "page") ∧
      (registry.bindNew {} visit [] (run [.form 3, .takeBody] first.2).2).1 = first.1 := by
  intro registry x first
  have positions : (registry.find? visit.ident).all
      (·.params.all fun param => param.position != .body) = true := by decide +kernel
  have evaluated : (match first.1 with
      | .error e => e.param == "page"
      | .ok _ => false) = true := by decide +kernel
  refine ⟨?_, run_repeats.1 registry registry {} visit [] x [.form 3, .takeBody] rfl ?_⟩
  · cases failed : first.1 with
    | ok v =>
      rw [failed] at evaluated
      cases evaluated
    | error e =>
      rw [failed] at evaluated
      exact ⟨e, rfl, beq_iff_eq.mp evaluated⟩
  · intro api found param member
    rw [found] at positions
    exact bne_iff_ne.mp (List.all_eq_true.mp positions param member)

end RequestBinding
