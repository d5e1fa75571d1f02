import RequestBinding.Pattern.Dialect
import RequestBinding.Proofs.Schema.Registration
import RequestBinding.Proofs.Schema.Settling

/-!
# Descriptors, handles and paths

Three traversals of a record have to agree: the walk that makes its descriptors, the list of its
handles, and the steps along a path to a field. For a derived record they do
(`Registry.register_handles`): the descriptor and the handle at one place belong to one field, which
is the field at the descriptor's path, and no other path leads to a field that takes values.

* `FieldTable.Derived` lists what a derivation can make of the fields of a declaration.
* `FieldTable.Derived.handles_eq_taken`: handles are the leaves that the walk describes.
* `FieldTable.exists_mem_leaves_of_typeAt?`: a path that leads to a type is the path of a leaf.
-/

namespace RequestBinding

/-! ## What a derivation makes of a declaration -/

/-- Tables as a derivation makes them: of annotated fields, which take values unless they are
excluded, of fields without annotation, and of flattened records that are derived themselves. The
type of a field that takes no values need not be one that could. -/
inductive FieldTable.Derived : FieldTable → Prop
  | nil : Derived .nil
  | bound (name tag : String) (pattern errorText : Option String) (exported : Bool)
    (type : WireType) {rest : FieldTable} (taken : Tag.isIgnored tag = false)
    (derived : Derived rest) :
    Derived
      (.field { name, tag := some tag, pattern, errorText, exported, role := .bound type } rest)
  | ignored (name tag : String) (pattern errorText : Option String) (exported : Bool)
    (type : Option WireType) {rest : FieldTable} (ignored : Tag.isIgnored tag = true)
    (derived : Derived rest) :
    Derived
      (.field { name, tag := some tag, pattern, errorText, exported, role := .unbound type } rest)
  | plain (name : String) (pattern errorText : Option String) (exported : Bool)
    (type : Option WireType) {rest : FieldTable} (derived : Derived rest) :
    Derived (.field { name, pattern, errorText, exported, role := .unbound type } rest)
  | flattened (name ident : String) {inner rest : FieldTable} (derivedInner : Derived inner)
    (derived : Derived rest) : Derived (.flattened name ident inner rest)

namespace FieldTable.Derived

/-- In a derived table every leaf has a handle and is described. -/
theorem handled {table : FieldTable} (derived : table.Derived) {lead : FieldPath} {index : Nat} :
    ∀ leaf ∈ table.leavesFrom lead index,
      leaf.field.handled = true ∧ (Schema.takenTag? leaf).isSome = true := by
  induction derived generalizing lead index with
  | nil => exact fun _ none => absurd none List.not_mem_nil
  | bound name tag pattern errorText exported type taken _ ih =>
    intro leaf member
    rcases List.mem_cons.mp member with rfl | later
    · refine ⟨rfl, ?_⟩
      rw [Schema.takenTag?, Option.filter_some, taken]
      rfl
    · exact ih leaf later
  | ignored _ _ _ _ _ _ _ _ ih => exact ih
  | plain _ _ _ _ _ _ ih => exact ih
  | flattened name ident _ _ ihInner ihRest =>
    intro leaf member
    rcases List.mem_append.mp member with inside | past
    · exact ihInner leaf inside
    · exact ihRest leaf past

variable {table : FieldTable}

theorem handles_eq_leaves (derived : table.Derived) : table.handles = table.leaves := by
  rw [FieldTable.handles_eq]
  exact List.filter_eq_self.mpr fun leaf member => (derived.handled leaf member).1

theorem handles_eq_taken (derived : table.Derived) : table.handles = Schema.taken table.leaves := by
  rw [handles_eq_leaves derived]
  exact (List.filter_eq_self.mpr fun leaf member => (derived.handled leaf member).2).symm

/-- What binding asks of records holds of derived ones that begin with values of their shape. -/
theorem record {r : Record} (derived : r.fields.Derived) (shape : r.fields.Fits r.zero) :
    r.Derived := by
  refine ⟨fun leaf member => ?_, shape⟩
  obtain ⟨handled, takes⟩ := derived.handled leaf member
  rw [handled, takes]

end FieldTable.Derived

/-! ## The number of handles -/

/-- The cause lies in the request, not in how the record has been registered or is handled. -/
def BindCause.OfRequest : BindCause → Prop
  | .notRegistered => False
  | .request (.handleCount _ _) => False
  | .missing _ | .conversion _ | .validation _ | .request (.form _) | .request .undecodable => True

namespace ParamsApi

variable {recs : Records} {api : ParamsApi} {param : ParamDescriptor} {type : WireType}
  {pathParams : PathParams} {whole : Value} {x : Exchange} {cause : BindCause}

theorem extract_cause (failed : (api.extract recs param type pathParams x).1 = .error cause) :
    cause.OfRequest := by
  cases extract_fails failed <;> trivial

theorem settle_cause {outcome : Except BindCause (Option Value)}
    (read : ∀ cause, outcome = .error cause → cause.OfRequest)
    (failed : (settle param outcome).failure = some cause) : cause.OfRequest := by
  unfold settle at failed
  rcases outcome with other | _ | v
  · cases failed
    exact read cause rfl
  · simp only at failed
    split at failed
    · cases failed
      trivial
    · cases failed
  · simp only at failed
    split at failed
    · cases failed
    · cases failed
      trivial

/-- Binding through handles fails for causes that lie in the request only. -/
theorem bindAll_cause {todo : List (ParamDescriptor × Leaf)} {e : BindError}
    (failed : (api.bindAll recs pathParams todo whole x).1.1 = .error e) : e.cause.OfRequest := by
  induction todo generalizing whole x with
  | nil => cases failed
  | cons p rest ih =>
    obtain ⟨outcome, _⟩ := @bindParam_eq recs api pathParams p.1 p.2 x _ rfl whole
    cases failure : (settle p.1 (api.extract recs p.1 p.2.type pathParams x).1).failure with
    | some cause =>
      rw [failure] at outcome
      rw [bindAll_cons_of_error outcome] at failed
      cases failed
      exact settle_cause (fun _ => extract_cause) failure
    | none =>
      rw [failure] at outcome
      rw [bindAll_cons_of_ok outcome] at failed
      exact ih failed

theorem bindFields_eq {handles : List Leaf} (counted : handles.length = api.params.length) :
    api.bindFields recs handles pathParams whole =
      api.bindAll recs pathParams (api.params.zip handles) whole := by
  rw [bindFields, if_pos (beq_iff_eq.mpr counted)]

end ParamsApi

/-! ## The agreement -/

namespace Registry

variable {registry : Registry} {recs : Records} {options : RegisterOptions}
  {template : Option Value} {r : Record} {api : ParamsApi}

/-- The handle and the descriptor belong to one field of the record: it stands at the path of the
descriptor, with the name and the kind that the descriptor has noted, and what is stored through the
handle is found at that path. -/
structure Reaches (recs : Records) (r : Record) (handle : Leaf) (param : ParamDescriptor) :
    Prop where
  path : param.path = handle.path
  field : r.fields.HasField param.path handle.field
  typed : r.fields.typeAt? param.path = some handle.type
  named : param.field = handle.field.name
  kind : param.kind = recs.kindOf handle.type
  stored : ∀ fields new, r.fields.Fits fields →
    ((Value.record fields).setPart handle.path new).part? param.path = some new

theorem Reaches.of_represents [Pattern.Engine] {mapper : NameMapper} {leaf : Leaf}
    {d : ParamDescriptor} (member : leaf ∈ r.fields.leaves)
    (represents : Schema.Represents recs mapper r.name leaf d) :
    Reaches recs r leaf d := by
  obtain ⟨tag, _, described⟩ := represents
  obtain ⟨has, role⟩ := FieldTable.hasField_of_mem_leaves member
  have path : d.path = leaf.path := by rw [described.made]
  refine ⟨path, path ▸ has, ?_, by rw [described.made], by rw [described.made], ?_⟩
  · rw [path, has.typeAt?, Field.boundType?, role]
  · intro fields new fits
    rw [path]
    exact has.part?_setPart fits new

/-- An example does not change which field a descriptor belongs to. -/
theorem Reaches.with_sample {handle : Leaf} {d : ParamDescriptor}
    (reaches : Reaches recs r handle d) (sample : Option Json) :
    Reaches recs r handle { d with sample } :=
  ⟨reaches.path, reaches.field, reaches.typed, reaches.named, reaches.kind, reaches.stored⟩

/-- The descriptors of a registered record belong to its handles, one by one, and have the examples
that the template gives them. -/
theorem registered_reaches [Pattern.Engine] (derived : r.fields.Derived)
    (registered : (registry.register recs options template r).1 = .ok api) :
    List.Forall₂ (fun handle param => Reaches recs r handle param ∧
        ∀ v, template = some v → param.sample = sampleOf recs r v param)
      r.fields.handles api.params := by
  obtain ⟨params, claims, walked, rfl⟩ := register_eq_ok registered
  have represented := (Schema.walkRecord_eq_ok_iff.mp walked).1
  rw [← derived.handles_eq_taken] at represented
  have reach : List.Forall₂ (Reaches recs r) r.fields.handles params := by
    have leaves : ∀ handle ∈ r.fields.handles, handle ∈ r.fields.leaves :=
      fun handle member => derived.handles_eq_leaves ▸ member
    exact ((List.forall₂_and_left _ _).mpr ⟨leaves, represented⟩).imp fun _ _ both =>
      .of_represents both.1 both.2
  cases template with
  | none => exact reach.imp fun _ _ reaches => ⟨reaches, fun _ none => nomatch none⟩
  | some v =>
    show List.Forall₂ _ _ (params.map fun d => { d with sample := sampleOf recs r v d })
    rw [List.forall₂_map_right_iff]
    refine reach.imp fun _ _ reaches => ⟨reaches.with_sample _, fun v same => ?_⟩
    cases same
    rfl

theorem Reaches.sampleOf_eq {handle : Leaf} {param : ParamDescriptor} {fields : List Value}
    (reaches : Reaches recs r handle param) (fits : r.fields.Fits fields) :
    ∃ v, (Value.record fields).part? handle.path = some v ∧
      sampleOf recs r (.record fields) param =
        if (v.example recs handle.type).isNull then none
        else some (v.example recs handle.type) := by
  obtain ⟨v, holds⟩ := reaches.field.exists_part fits
  refine ⟨v, reaches.path ▸ holds, ?_⟩
  rw [sampleOf, reaches.typed, holds]
  rfl

/-- Descriptors, handles and paths of a derived record agree when it is registered. There are as
many handles as descriptors, and those at the same place belong to the same field. No two
descriptors have the same path, and a path that no descriptor has leads to no field that takes
values. So binding through the handles never fails for their number, and with a template each
descriptor has the example of its own field. -/
theorem register_handles [Pattern.Engine] (derived : r.fields.Derived)
    (registered : (registry.register recs options template r).1 = .ok api) :
    r.fields.handles.length = api.params.length ∧
      (∀ (i : Nat) handle param, r.fields.handles[i]? = some handle → api.params[i]? = some param →
        Reaches recs r handle param) ∧
      (api.params.map (·.path)).Nodup ∧
      (∀ path, path ∉ api.params.map (·.path) → r.fields.typeAt? path = none) ∧
      (∀ cap pathParams whole x e expected given,
        ((({ api with maxMemory := cap } : ParamsApi).bindFields recs r.fields.handles pathParams
          whole) x).1.1 = .error e →
        e.cause ≠ .request (.handleCount expected given)) ∧
      ∀ fields, template = some (.record fields) → r.fields.Fits fields →
        ∀ (i : Nat) handle param, r.fields.handles[i]? = some handle →
          api.params[i]? = some param →
          ∃ v, (Value.record fields).part? handle.path = some v ∧
            param.sample =
              if (v.example recs handle.type).isNull then none
              else some (v.example recs handle.type) := by
  have reach := registered_reaches derived registered
  have counted : r.fields.handles.length = api.params.length := reach.length_eq
  have place : ∀ (i : Nat) handle param, r.fields.handles[i]? = some handle →
      api.params[i]? = some param → Reaches recs r handle param ∧
        ∀ v, template = some v → param.sample = sampleOf recs r v param := by
    intro i handle param isHandle isParam
    obtain ⟨inHandles, rfl⟩ := List.getElem?_eq_some_iff.mp isHandle
    obtain ⟨inParams, rfl⟩ := List.getElem?_eq_some_iff.mp isParam
    exact reach.get inHandles inParams
  have paths : api.params.map (·.path) = r.fields.leaves.map (·.path) := by
    rw [← derived.handles_eq_leaves, ← List.forall₂_eq_eq_eq, List.forall₂_map_left_iff,
      List.forall₂_map_right_iff]
    exact (reach.imp fun _ _ both => both.1.path).flip
  refine ⟨counted, fun i handle param isHandle isParam => (place i handle param isHandle isParam).1,
    paths ▸ r.fields.nodup_paths, ?_, ?_, ?_⟩
  · intro path elsewhere
    cases typed : r.fields.typeAt? path with
    | none => rfl
    | some type =>
      obtain ⟨leaf, member, rfl, _⟩ := FieldTable.exists_mem_leaves_of_typeAt? typed
      exact absurd (paths ▸ List.mem_map_of_mem member) elsewhere
  · intro cap pathParams whole x e expected given failed blames
    have countedServed : r.fields.handles.length =
        ({ api with maxMemory := cap } : ParamsApi).params.length := counted
    rw [ParamsApi.bindFields_eq countedServed] at failed
    have ofRequest := ParamsApi.bindAll_cause failed
    rw [blames] at ofRequest
    exact ofRequest
  · intro fields same fits i handle param isHandle isParam
    obtain ⟨reaches, sample⟩ := place i handle param isHandle isParam
    rw [sample _ same]
    exact reaches.sampleOf_eq fits

/-- A listing: what is searched for, a cache that takes no part, a flattened page with a field of
its own that takes no part, and an order. -/
def listing : Record :=
  let page : FieldTable :=
    .field { name := "seen", role := .unbound none }
      (.field (.annotated "size" (.scalar (.int .uint8)) "<in:query> <range:1:>") .nil)
  let fields : FieldTable :=
    .field (.annotated "text" (.scalar .text) "<in:query>")
      (.field (.annotated "cache" .bytes " - ")
        (.flattened "page" "Page" page
          (.field (.annotated "order" (.scalar .text) "<in:header>") .nil)))
  { ident := "Listing", name := "Listing", fields, zero := fields.zero {} }

theorem derived_listing : listing.fields.Derived :=
  .bound "text" _ none none true _ (by decide +kernel) <|
    .ignored "cache" _ none none true _ (by decide +kernel) <|
      .flattened "page" "Page"
        (.plain "seen" none none true none <|
          .bound "size" _ none none true _ (by decide +kernel) .nil) <|
        .bound "order" _ none none true _ (by decide +kernel) .nil

/-- With a template for pages of seven entries, the second descriptor and the second handle are
those of the page's size, which has the template's value as its example. -/
theorem register_handles_listing :
    let template : List Value :=
      [.text "lean", .bytes [], .record [.absent, .int 7], .text "date"]
    ∃ api param handle,
      (({} : Registry).register {} { mapper := id, decoder := fun _ => none }
        (some (.record template)) listing).1 = .ok api ∧
      listing.fields.handles.length = api.params.length ∧ api.params.length = 3 ∧
      api.params[1]? = some param ∧ listing.fields.handles[1]? = some handle ∧
      param.path = [2, 1] ∧ Reaches {} listing handle param ∧
      listing.fields.typeAt? [2, 0] = none ∧
      ∃ v, (Value.record template).part? handle.path = some v ∧
        param.sample =
          if (v.example {} handle.type).isNull then none else some (v.example {} handle.type) := by
  intro template
  obtain ⟨api, registered⟩ : ∃ api, (({} : Registry).register {}
      { mapper := id, decoder := fun _ => none } (some (.record template)) listing).1 = .ok api :=
    ⟨_, rfl⟩
  have fits : listing.fields.Fits template :=
    .field (.field (.flattened (.field (.field .nil)) (.field .nil)))
  obtain ⟨counted, place, _, elsewhere, _, samples⟩ := register_handles derived_listing registered
  obtain ⟨param, isParam, path, handle, isHandle⟩ : ∃ param, api.params[1]? = some param ∧
      param.path = [2, 1] ∧ ∃ handle, listing.fields.handles[1]? = some handle := by
    cases registered
    exact ⟨_, rfl, rfl, _, rfl⟩
  refine ⟨api, param, handle, registered, counted, ?_, isParam, isHandle, path,
    place 1 handle param isHandle isParam, elsewhere [2, 0] ?_,
    samples template rfl fits 1 handle param isHandle isParam⟩
  · exact counted.symm
  · cases registered
    decide +kernel

end Registry

end RequestBinding
