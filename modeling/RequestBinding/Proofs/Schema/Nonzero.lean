import RequestBinding.Proofs.Constraint.ZeroValues
import RequestBinding.Proofs.Schema.Independence

/-!
# Fields that must not be zero

A tag can demand that a field differs from the zero value of its type. Such a field is required, so
when a record has been bound, its value has been found in the request; and where the view of the
value tells zero from other values, the value is not zero (`Registry.bindNew_nonzero`).

The views of records and of structured bodies do not tell. A field for one of these may hold the
zero value all the same, as `Registry.bindNew_parcel_zero_goal` shows.
-/

namespace RequestBinding

/-! ## The keys of a tag -/

/-- A validator rejects zero values when the tag has the key for it. -/
theorem Validator.nonzero_of_compile [Pattern.Engine] {tags : TagMap} {pattern : Option String}
    {v : Validator} (compiled : Validator.compile tags pattern = .ok v) :
    v.nonzero = tags.contains Tag.nonzeroKey := by
  unfold compile at compiled
  simp only [Except.bind_eq_ok_iff] at compiled
  obtain ⟨range, _, length, _, pattern, _, done⟩ := compiled
  cases done
  rfl

namespace Schema

/-- What is declared beside a tag takes no key from it. -/
theorem contains_fieldTags {f : Field} {tag key : String}
    (declared : (Tag.parse tag).contains key = true) :
    (fieldTags f tag).contains key = true := by
  have beside : ∀ (extra : Option String) (tags : TagMap) (other : String),
      tags.contains key = true → (extra.elim tags (tags.insert other)).contains key = true := by
    intro extra tags other occurs
    cases extra with
    | none => exact occurs
    | some value => exact TagMap.contains_insert occurs
  exact beside _ _ _ (beside _ _ _ declared)

/-- Completing the tags of a field takes no key from them. -/
theorem contains_placedTags {position : Position} {tags : TagMap} {key : String}
    (occurs : tags.contains key = true) : (placedTags position tags).contains key = true := by
  unfold placedTags
  split
  · exact TagMap.contains_insert occurs
  · exact occurs

/-- A field whose tag rejects zero values is required, and its validator rejects them. -/
theorem Describes.nonzero [Pattern.Engine] {mapper : NameMapper} {api : String} {kind : Kind}
    {leaf : Leaf} {tag : String} {d : ParamDescriptor}
    (described : Describes mapper api kind leaf tag d)
    (declared : (Tag.parse tag).contains Tag.nonzeroKey = true) :
    d.required = true ∧ d.validator.nonzero = true := by
  have demanded : d.tags.contains Tag.nonzeroKey = true := by
    rw [described.tagged]
    exact contains_placedTags (contains_fieldTags declared)
  constructor
  · rw [described.made]
    show isRequired d.tags = true
    rw [isRequired, demanded, Bool.or_true, Bool.true_or]
  · rw [Validator.nonzero_of_compile described.compiled, demanded]

end Schema

/-! ## Fields of a registered record -/

namespace ParamsApi

/-- A required field whose validator rejects zero values has a value if it is settled without a
failure, and the view of that value is not zero. -/
theorem settle_nonzero {param : ParamDescriptor} {found : Except BindCause (Option Value)}
    (required : param.required = true) (nonzero : param.validator.nonzero = true)
    (passes : (settle param found).failure = none) :
    ∃ w, (settle param found).store = some w ∧ w.view.isZero = false := by
  cases found with
  | error cause => cases passes
  | ok found? =>
    cases found? with
    | none =>
      rw [settle, if_pos required] at passes
      cases passes
    | some w =>
      cases validated : param.validator.validate param.name w.view with
      | error violation =>
        rw [settle, validated] at passes
        cases passes
      | ok u =>
        refine ⟨w, ?_, Validator.isZero_eq_false_of_validate nonzero validated⟩
        rw [settle, validated]

end ParamsApi

namespace Registry

section

variable [Pattern.Engine] {registry origin : Registry} {recs : Records} {options : RegisterOptions}
  {template : Option Value} {r : Record} {api : ParamsApi}

/-- A field whose tag rejects zero values has a descriptor that is required and rejects them. -/
theorem registered_nonzero (registered : (origin.register recs options template r).1 = .ok api)
    {leaf : Leaf} (member : leaf ∈ r.fields.leaves) {tag : String}
    (taken : Schema.takenTag? leaf = some tag)
    (declared : (Tag.parse tag).contains Tag.nonzeroKey = true) :
    ∃ param ∈ api.params, param.path = leaf.path ∧ param.required = true ∧
      param.validator.nonzero = true := by
  obtain ⟨param, own, described⟩ := registered_describes registered member taken
  obtain ⟨required, nonzero⟩ := described.nonzero declared
  exact ⟨param, own, congrArg (·.path) described.made, required, nonzero⟩

/-- When a new value of a registered record has been bound, every descriptor succeeds alone, and its
field holds what it finds, or else what a new value holds there. -/
theorem bindNew_eq_ok (derived : r.Derived)
    (registered : (origin.register recs options template r).1 = .ok api) {cap : Nat}
    (current : registry.find? r.ident = some { api with maxMemory := cap })
    {pathParams : PathParams} {x : Exchange} {v : Value}
    (bound : (registry.bindNew recs r pathParams x).1 = .ok v) :
    let served : ParamsApi := { api with maxMemory := cap }
    ∀ param ∈ served.params, ∃ type, r.fields.typeAt? param.path = some type ∧
      (served.settled recs pathParams x.request param type).failure = none ∧
      v.part? param.path =
        (served.settled recs pathParams x.request param type).store.or
          ((Value.record r.zero).part? param.path) := by
  intro served param own
  let settled := fun p : ParamDescriptor × Leaf =>
    served.settled recs pathParams x.request p.1 p.2.type
  have paired : Paired r served.params _ := served_paired derived registered
  rw [bindNew_eq_settleAll derived registered current] at bound
  obtain ⟨u, all, rfl⟩ := Except.map_eq_ok_iff.mp bound
  have passes := ParamsApi.settleAll_fst_eq_ok_iff.mp all
  obtain ⟨stores, _⟩ := ParamsApi.storeAll_spec settled derived.shape
    (fun p member => ⟨_, paired.placed p member⟩) paired.distinct
  obtain ⟨p, member, rfl⟩ := paired.exists_of_mem own
  refine ⟨p.2.type, paired.typed p member, passes p member, ?_⟩
  rw [ParamsApi.settleAll_eq_ok passes, paired.path p member]
  exact stores p member

/-- When a new value of a registered record has been bound, a field whose tag rejects zero values
holds a value that the request supplies; and it is not the zero value of its type, unless that is a
record or a structured body. -/
theorem bindNew_nonzero (derived : r.Derived)
    (registered : (origin.register recs options template r).1 = .ok api) (cap : Nat)
    (current : registry.find? r.ident = some { api with maxMemory := cap })
    (pathParams : PathParams) (x : Exchange) {v : Value}
    (bound : (registry.bindNew recs r pathParams x).1 = .ok v) :
    let served : ParamsApi := { api with maxMemory := cap }
    ∀ leaf ∈ r.fields.leaves, ∀ tag, Schema.takenTag? leaf = some tag →
      (Tag.parse tag).contains Tag.nonzeroKey = true →
      ∃ w, v.part? leaf.path = some w ∧
        (∃ param ∈ served.params, param.path = leaf.path ∧
          served.alone recs r.fields pathParams x.request param = .ok (some w)) ∧
        (leaf.type.showsZero = true → ¬ leaf.type.HoldsZero recs w) := by
  intro served leaf member tag taken declared
  obtain ⟨param, own, path, required, nonzero⟩ :=
    registered_nonzero registered member taken declared
  obtain ⟨type, typed, passes, holds⟩ := bindNew_eq_ok derived registered current bound param own
  obtain ⟨w, stored, notZero⟩ := ParamsApi.settle_nonzero required nonzero passes
  refine ⟨w, ?_, ⟨param, own, path, ?_⟩, fun shows zero => ?_⟩
  · rw [← path, holds, ParamsApi.settled, stored, Option.some_or]
  · rw [ParamsApi.alone, typed]
    exact ParamsApi.outcome_eq_ok_iff.mpr ⟨passes, stored⟩
  · rw [WireType.isZero_view_of_holdsZero shows zero] at notZero
    cases notZero

end

/-- The points of a plane. -/
def points : Records :=
  ({} : Records).declare "Point" "Point"
    (.field (.annotated "x" (.scalar (.int .int32)) "")
      (.field (.annotated "y" (.scalar (.int .int32)) "") .nil))

/-- A parcel: neither its goal nor its weight may be zero. -/
def parcel : Record :=
  let fields : FieldTable :=
    .field (.annotated "goal" (.record "Point") "<in:query> <nonzero>")
      (.field (.annotated "weight" (.scalar (.int .uint8)) "<in:query> <nonzero>") .nil)
  { ident := "Parcel", name := "Parcel", fields, zero := fields.zero points }

theorem derived_parcel : parcel.Derived where
  handles := by decide +kernel
  shape := FieldTable.fits_zero points parcel.fields

/-- The weight of a parcel that has been bound is not zero. -/
theorem bindNew_nonzero_parcel :
    let registration := ({} : Registry).register points { mapper := id, decoder := fun _ => none }
      none parcel
    let request : Request := { target := { query := some "goal.x=0&goal.y=0&weight=3" } }
    ∃ api v w, registration.1 = .ok api ∧ registration.2.1.find? parcel.ident = some api ∧
      (registration.2.1.bindNew points parcel [] { request }).1 = .ok v ∧
      v.part? [1] = some w ∧ ¬ (WireType.scalar (.int .uint8)).HoldsZero points w := by
  intro registration request
  obtain ⟨api, registered⟩ : ∃ api, registration.1 = .ok api := ⟨_, rfl⟩
  have current := find?_register registered
  obtain ⟨v, bound⟩ :
      ∃ v, (registration.2.1.bindNew points parcel [] { request }).1 = .ok v := ⟨_, rfl⟩
  let weight : Leaf :=
    ⟨[1], .annotated "weight" (.scalar (.int .uint8)) "<in:query> <nonzero>", .scalar (.int .uint8)⟩
  have leaf : weight ∈ parcel.fields.leaves := List.mem_cons_of_mem _ List.mem_cons_self
  obtain ⟨w, holds, _, differs⟩ := bindNew_nonzero derived_parcel registered api.maxMemory current
    [] { request } bound weight leaf _ rfl (by decide +kernel)
  exact ⟨api, v, w, registered, current, bound, holds, differs rfl⟩

/-- The goal of a parcel can be zero all the same: it is supplied with its coordinates, and nothing
tells that these are zero. -/
theorem bindNew_parcel_zero_goal :
    let registration := ({} : Registry).register points { mapper := id, decoder := fun _ => none }
      none parcel
    let request : Request := { target := { query := some "goal.x=0&goal.y=0&weight=3" } }
    registration.1.isOk = true ∧
      (∃ leaf ∈ parcel.fields.leaves, leaf.path = [0] ∧ leaf.type = .record "Point" ∧
        ∃ tag, Schema.takenTag? leaf = some tag ∧
          (Tag.parse tag).contains Tag.nonzeroKey = true) ∧
      ∃ v, (registration.2.1.bindNew points parcel [] { request }).1 = .ok v ∧
        v.part? [0] = some ((WireType.record "Point").zero points) :=
  ⟨rfl, ⟨_, List.mem_cons_self, rfl, rfl, _, rfl, by decide +kernel⟩, _, rfl, rfl⟩

end Registry

end RequestBinding
