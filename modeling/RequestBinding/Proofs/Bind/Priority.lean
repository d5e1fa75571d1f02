import RequestBinding.Proofs.Convert.FlatValues
import RequestBinding.Proofs.Request.WellFormed
import RequestBinding.Proofs.Source.Pairs

/-!
# Which source comes first

A single value is looked up among the path parameters, the form and the query together. Their
values are put behind one another under each key, so a value that needs one text gets that of the
path if there is one, else that of the form, else that of the query, and a list of such values gets
all texts in this order (`AdHoc.bindOne_priority`). That holds in every state of the request: the
form may have been read before, under any limit, and a form that cannot be read gives nothing.

`AdHoc.merge_eq` says what is merged, by what the three sources offer.
-/

namespace RequestBinding

/-! ## Forms behind one another -/

namespace FormValues

theorem ofPairs_extend (pairs : List (String × String)) (form : FormValues) :
    (ofPairs pairs).extend form = ofPairs (pairs ++ form.pairs) :=
  ofPairs_appendAll pairs form.pairs

end FormValues

namespace AdHoc

/-! ## What is merged -/

/-- What the form of a request contributes: its values and its files, and neither when it cannot
be read. -/
def contribution (settings : Settings) (x : Exchange) : FormValues × List UploadedFile :=
  match (Exchange.formWithFiles settings.maxMemory x).1 with
  | .ok form => form
  | .error _ => (.empty, [])

/-- All texts of a key: those of the path, of the form and of the query. -/
def texts (settings : Settings) (x : Exchange) (key : String) : List String :=
  FormValues.valuesUnder x.request.pathParams key ++ (contribution settings x).1.valuesAt key
    ++ (Exchange.query x).1.valuesAt key

theorem contribution_eq (settings : Settings) (x : Exchange) :
    contribution settings x =
      match x.request.seenForm settings.maxMemory with
      | .ok values => (values, x.request.files)
      | .error _ => (.empty, []) := by
  rw [contribution, (Exchange.formWithFiles_eq x settings.maxMemory).1]
  cases x.request.seenForm settings.maxMemory <;> rfl

/-- What is merged are the pairs of the path, of the form and of the query. -/
theorem merge_eq (settings : Settings) (x : Exchange) :
    (merge settings x).1 =
      (.ofPairs (x.request.pathParams ++ (contribution settings x).1.pairs ++
          (Exchange.query x).1.pairs),
        (contribution settings x).2) := by
  have left := (Exchange.query_eq x).2 settings.maxMemory
  have path : (Exchange.query x).2.request.pathParams = x.request.pathParams := by
    rw [left]
    rfl
  -- Reading the query first leaves the form as it was.
  have form : (Exchange.formWithFiles settings.maxMemory (Exchange.query x).2).1 =
      (x.request.seenForm settings.maxMemory).map fun values => (values, x.request.files) := by
    rw [(Exchange.formWithFiles_eq _ _).1, left]
    rfl
  rw [contribution_eq, ← path]
  unfold merge
  rcases asked : Exchange.query x with ⟨query, y⟩
  rcases told : Exchange.formWithFiles settings.maxMemory y with ⟨outcome, rest⟩
  rw [asked, told] at form
  simp only [bind, StateT.bind, get, getThe, MonadStateOf.get, StateT.get, pure, asked, told,
    FormValues.ofPairs_extend]
  obtain rfl := form
  cases x.request.seenForm settings.maxMemory with
  | ok values => rfl
  | error f =>
    rw [show FormValues.empty.pairs = [] from rfl, List.append_nil]
    rfl

/-- A single value is bound from what is merged, with the files of the form and the cookies. -/
theorem bindOne_eq (recs : Records) (settings : Settings) (type : WireType) (key : String)
    (held : Value) (x : Exchange) :
    (bindOne recs settings type key held x).1 =
      let outcome := bindFrom recs
        { KeySource.ofForm (keyValues settings x).1 settings.maxIndex with
          files := (contribution settings x).2, cookies := (Exchange.cookies x).1 }
        type key held
      (outcome.result, outcome.held) := by
  have left := (Exchange.cookies_eq x).2 settings.maxMemory
  have path : (Exchange.cookies x).2.request.pathParams = x.request.pathParams := by
    rw [left]
    rfl
  have query : (Exchange.query (Exchange.cookies x).2).1 = (Exchange.query x).1 := by
    rw [(Exchange.query_eq _).1, (Exchange.query_eq x).1, left]
    rfl
  have form : contribution settings (Exchange.cookies x).2 = contribution settings x := by
    rw [contribution_eq, contribution_eq, left]
    rfl
  have merged : (merge settings (Exchange.cookies x).2).1 = (merge settings x).1 := by
    rw [merge_eq, merge_eq, path, query, form]
  have files : (merge settings x).1.2 = (contribution settings x).2 := by
    rw [merge_eq]
  have bound : (bindOne recs settings type key held x).1 =
      let merged := (merge settings (Exchange.cookies x).2).1
      let outcome := bindFrom recs
        { KeySource.ofForm merged.1 settings.maxIndex with
          files := merged.2, cookies := (Exchange.cookies x).1 }
        type key held
      (outcome.result, outcome.held) := rfl
  rw [bound, merged, ← files]
  rfl

/-! ## Priority -/

section

variable {settings : Settings} {x : Exchange}

theorem keyValues_eq (settings : Settings) (x : Exchange) :
    (keyValues settings x).1 =
      .ofPairs (x.request.pathParams ++ (contribution settings x).1.pairs ++
        (Exchange.query x).1.pairs) :=
  congrArg Prod.fst (merge_eq settings x)

variable (wellFormed : x.request.WellFormed)

include wellFormed

theorem wellFormed_contribution : (contribution settings x).1.WellFormed := by
  rw [contribution_eq]
  cases seen : x.request.seenForm settings.maxMemory with
  | ok values => exact wellFormed.seenForm seen
  | error f => exact FormValues.wellFormed_empty

theorem wellFormed_query : (Exchange.query x).1.WellFormed := by
  rw [(Exchange.query_eq x).1]
  exact wellFormed.seenQuery

/-- Under a key everything is found that the three sources hold under it. -/
theorem valuesAt_keyValues (key : String) :
    (keyValues settings x).1.valuesAt key = texts settings x key := by
  rw [keyValues_eq, FormValues.valuesAt_ofPairs, FormValues.valuesUnder_append,
    FormValues.valuesUnder_append, (wellFormed_contribution wellFormed).valuesUnder_pairs,
    (wellFormed_query wellFormed).valuesUnder_pairs]
  rfl

/-- The keys come as they first come in the path, then in the form, then in the query. -/
theorem keys_keyValues :
    (keyValues settings x).1.keys =
      (x.request.pathParams.map (·.1) ++ (contribution settings x).1.keys ++
        (Exchange.query x).1.keys).eraseDups := by
  have query := (wellFormed_query wellFormed).eraseDups_pairs
    (x.request.pathParams.map (·.1) ++ (contribution settings x).1.keys) []
  rw [List.append_nil, List.append_nil] at query
  rw [keyValues_eq, FormValues.keys_ofPairs, List.map_append, List.map_append,
    (wellFormed_contribution wellFormed).eraseDups_pairs, query]

/-- The source that a single value is bound from has the texts of the key. -/
theorem values_merged (settings : Settings) (files : List UploadedFile) (cookies : List Cookie)
    (key : String) :
    { KeySource.ofForm (keyValues settings x).1 settings.maxIndex with files, cookies }.values
      key.toList = texts settings x key := by
  have merges : (keyValues settings x).1.WellFormed := by
    rw [keyValues_eq]
    exact FormValues.wellFormed_ofPairs _
  exact (merges.values_ofForm settings.maxIndex key).trans (valuesAt_keyValues wellFormed key)

/-- A value of a flat type is bound to the first text of the key. -/
theorem bindOne_flat {type : WireType} (flat : type.isFlat = true) (recs : Records) (key : String)
    (held : Value) :
    match (texts settings x key).head? with
    | none => (bindOne recs settings type key held x).1 = (.ok false, held)
    | some raw => ∃ v, type.ofRaw .lenient raw = .ok v ∧
      (bindOne recs settings type key held x).1 = (.ok true, v) := by
  rw [bindOne_eq]
  simp only [bindFrom, WireType.find_flat flat, KeySource.firstValue?, values_merged wellFormed]
  cases (texts settings x key).head? with
  | none => rfl
  | some raw =>
    obtain ⟨v, read⟩ := WireType.exists_ofRaw_lenient flat raw
    refine ⟨v, read, ?_⟩
    simp only [read]
    rfl

/-- A list of flat values is bound to all texts of the key. -/
theorem bindOne_seq_flat {item : WireType} (flat : item.isFlat = true) (recs : Records)
    {key : String} (given : texts settings x key ≠ []) (held : Value) :
    ∃ items, List.Forall₂ (fun raw v => item.ofRaw .lenient raw = .ok v)
        (texts settings x key) items ∧
      (bindOne recs settings (.seq item) key held x).1 = (.ok true, .seq items) := by
  have values :=
    values_merged wellFormed settings (contribution settings x).2 (Exchange.cookies x).1 key
  obtain ⟨items, made⟩ := Sequence.exists_ofTexts_lenient flat (texts settings x key)
  refine ⟨items, Sequence.ofTexts_eq_ok_iff.mp made, ?_⟩
  rw [← values] at given
  rw [bindOne_eq]
  simp only [bindFrom, WireType.find_seq_flat flat given, values, made]
  rfl

end

/-- Whatever has been done with a request before, a single value is bound from the same texts as
are looked up for all keys: under each key those of the path in the order of the route, then those
of the form, then those of the query, where a form that cannot be read gives neither texts nor
files; and the keys come as they first come in the path, then in the form, then in the query. So a
value of a flat type is read from the first of these texts, and nothing is bound when there is
none; and a list of such values is read from all of them. -/
theorem bindOne_priority (settings : Settings) (before : List Operation) {x : Exchange}
    (wellFormed : x.request.WellFormed) :
    let y := (Operation.run before x).2
    let form := contribution settings y
    let merged := (keyValues settings y).1
    (∀ key, merged.get? key =
      if (texts settings y key).isEmpty then none else some (texts settings y key)) ∧
    merged.keys =
      (x.request.pathParams.map (·.1) ++ form.1.keys ++ (Exchange.query y).1.keys).eraseDups ∧
    ∀ (recs : Records) (key : String) (held : Value),
      (∀ type, (bindOne recs settings type key held y).1 =
        let outcome := bindFrom recs
          { KeySource.ofForm merged settings.maxIndex with
            files := form.2, cookies := (Exchange.cookies y).1 }
          type key held
        (outcome.result, outcome.held)) ∧
      ∀ type : WireType, type.isFlat = true →
        (match (FormValues.valuesUnder x.request.pathParams key).head?.or
            ((form.1.valuesAt key).head?.or ((Exchange.query y).1.valuesAt key).head?) with
          | none => (bindOne recs settings type key held y).1 = (.ok false, held)
          | some raw => ∃ v, type.ofRaw .lenient raw = .ok v ∧
            (bindOne recs settings type key held y).1 = (.ok true, v)) ∧
        (texts settings y key ≠ [] → ∃ items,
          List.Forall₂ (fun raw v => type.ofRaw .lenient raw = .ok v) (texts settings y key) items ∧
          (bindOne recs settings (.seq type) key held y).1 = (.ok true, .seq items)) := by
  intro y form merged
  have later : y.request.WellFormed := Operation.run_wellFormed before wellFormed
  have path : y.request.pathParams = x.request.pathParams :=
    ((Operation.run_reads before).follows x).pathParams
  refine ⟨fun key => ?_, ?_, fun recs key held => ⟨fun type => ?_, fun type flat => ⟨?_, ?_⟩⟩⟩
  · have merges : merged.WellFormed := by
      rw [show merged = _ from keyValues_eq settings y]
      exact FormValues.wellFormed_ofPairs _
    rw [merges.get?_eq, valuesAt_keyValues later]
  · rw [← path]
    exact keys_keyValues later
  · exact bindOne_eq recs settings type key held y
  · rw [← path, ← List.head?_append, ← List.head?_append, ← List.append_assoc]
    exact bindOne_flat later flat recs key held
  · intro given
    exact bindOne_seq_flat later flat recs given held

/-- The path, a form that has been read before and the query all have an `id`. -/
theorem bindOne_priority_id :
    let x : Exchange :=
      { request :=
          { target := { query := some "page=2&id=9" }
            headers := [("content-type", Text.utf8Bytes Request.urlEncodedType)]
            body := some (Text.utf8Bytes "name=x&id=8")
            pathParams := [("id", "7")] } }
    let y := (Operation.run [.form 64, .takeBody] x).2
    let id := WireType.scalar (.int .uint8)
    x.request.WellFormed ∧
      (keyValues {} y).1.get? "id" = some ["7", "8", "9"] ∧
      (keyValues {} y).1.keys = ["id", "name", "page"] ∧
      (∃ v, id.ofRaw .lenient "7" = .ok v ∧ (bindOne {} {} id "id" .absent y).1 = (.ok true, v)) ∧
      ∃ items, List.Forall₂ (fun raw v => id.ofRaw .lenient raw = .ok v) ["7", "8", "9"] items ∧
        (bindOne {} {} (.seq id) "id" .absent y).1 = (.ok true, .seq items) := by
  intro x y id
  have wellFormed : x.request.WellFormed := ⟨nofun, nofun, nofun⟩
  have given : texts {} y "id" = ["7", "8", "9"] := by decide +kernel
  have first : (FormValues.valuesUnder x.request.pathParams "id").head? = some "7" := by decide
  have keys : (x.request.pathParams.map (·.1) ++ (contribution {} y).1.keys ++
      (Exchange.query y).1.keys).eraseDups = ["id", "name", "page"] := by decide +kernel
  obtain ⟨found, named, bound⟩ := bindOne_priority {} [.form 64, .takeBody] wellFormed
  obtain ⟨-, flat⟩ := bound {} "id" .absent
  obtain ⟨single, list⟩ := flat id rfl
  refine ⟨wellFormed, ?_, named.trans keys, ?_, ?_⟩
  · rw [found, given]
    rfl
  · rw [first, Option.some_or] at single
    exact single
  · rw [← given]
    exact list (by rw [given]; exact List.cons_ne_nil _ _)

end AdHoc

end RequestBinding
