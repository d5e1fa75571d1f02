import RequestBinding.Proofs.Constraint.Leaves
import RequestBinding.Proofs.Schema.Nonzero
import RequestBinding.Proofs.Schema.Soundness

/-!
# Constraints hold

A constraint is checked against the kinds of leaves that it is made for, and is silent about all
others. Registration accepts a constraint only for a field of a type whose values have such leaves
and no others. So when a value of the type of a field has passed the validator of the field, all of
its leaves keep all constraints that the tag declares (`Leaf.Keeps`,
`Registry.registered_keeps`).

* `Validator.compile_eq_ok`: what the rules of a validator are made from.
* `Schema.get?_placedTags`: what completing the tags of a field leaves as it is.
* `Schema.Describes.keeps`: the statement about one descriptor.
-/

namespace RequestBinding

/-- The leaves of the value, and so those of its view, keep the constraints that the tag of the leaf
declares. -/
structure Leaf.Keeps [Pattern.Engine] (leaf : Leaf) (tag : String) (v : Value) : Prop where
  view : v.view.leaves = v.leaves.map Value.view
  length : ∀ tuple, (Tag.parse tag).get? Tag.lengthKey = some tuple →
    ∃ bounds, Bounds.ofLengths? tuple = some bounds ∧ ∀ w ∈ v.leaves,
      (∃ s, w = .text s ∧ bounds.Contains s.length) ∨
        ∃ octets, w = .bytes octets ∧ bounds.Contains octets.length
  pattern : ∀ source, leaf.field.pattern.or ((Tag.parse tag).get? Tag.patternKey) = some source →
    ∃ pattern, FullMatch.compile? source = some pattern ∧ ∀ w ∈ v.leaves,
      ∃ s, w = .text s ∧ pattern.accepts s = true
  range : ∀ tuple, (Tag.parse tag).get? Tag.rangeKey = some tuple →
    ∃ bounds, Bounds.ofNumbers? tuple = some bounds ∧ ∀ w ∈ v.leaves,
      ∃ x, w.view = .number x ∧ bounds.Tolerates x

/-! ## Rules and their declarations -/

namespace Validator

variable {tags : TagMap} {pattern : Option String} {v : Validator}

theorem compile_eq_ok [Pattern.Engine] (compiled : compile tags pattern = .ok v) :
    readBounds Bounds.ofNumbers? tags Tag.rangeKey = .ok v.range ∧
      readBounds Bounds.ofLengths? tags Tag.lengthKey = .ok v.length ∧
      readPattern tags pattern = .ok v.pattern := by
  unfold compile at compiled
  simp only [Except.bind_eq_ok_iff] at compiled
  obtain ⟨range, readRange, length, readLength, pattern, readPattern, done⟩ := compiled
  cases done
  exact ⟨readRange, readLength, readPattern⟩

/-- Bounds that are declared are read. -/
theorem readBounds_of_declared {α : Type} {read : String → Option (Bounds α)} {key tuple : String}
    {found : Option (Bounds α)} (declared : tags.get? key = some tuple)
    (made : readBounds read tags key = .ok found) :
    ∃ bounds, read tuple = some bounds ∧ found = some bounds := by
  rw [readBounds, declared] at made
  simp only at made
  split at made
  · rename_i bounds readable
    cases made
    exact ⟨bounds, readable, rfl⟩
  · cases made

theorem readPattern_of_declared [Pattern.Engine] {source : String} {found : Option FullMatch}
    (declared : pattern.or (tags.get? Tag.patternKey) = some source)
    (made : readPattern tags pattern = .ok found) :
    ∃ compiled, FullMatch.compile? source = some compiled ∧ found = some compiled := by
  rw [readPattern, declared] at made
  simp only at made
  split at made
  · rename_i compiled readable
    cases made
    exact ⟨compiled, readable, rfl⟩
  · cases made

end Validator

namespace Schema

theorem get?_elim_insert (extra : Option String) (tags : TagMap) (key other : String) :
    (extra.elim tags (tags.insert other)).get? key =
      if key == other then extra.or (tags.get? key) else tags.get? key := by
  cases extra with
  | none => exact (ite_self _).symm
  | some value => exact TagMap.get?_insert tags key other value

section

variable (position : Position) (f : Field) (tag : String)

/-- Completing the tag of a field adds the pattern beside it, and changes nothing else but what
demands a value and what is reported. -/
theorem get?_placedTags {key : String}
    (notRequired : (key == Tag.requiredKey) = false) (notError : (key == Tag.errorKey) = false) :
    (placedTags position (fieldTags f tag)).get? key =
      if key == Tag.patternKey then f.pattern.or ((Tag.parse tag).get? key)
      else (Tag.parse tag).get? key := by
  have field : (fieldTags f tag).get? key =
      if key == Tag.patternKey then f.pattern.or ((Tag.parse tag).get? key)
      else (Tag.parse tag).get? key := by
    rw [fieldTags, get?_elim_insert, notError, if_neg Bool.false_ne_true, get?_elim_insert]
  unfold placedTags
  split
  · rw [TagMap.get?_insert, notRequired, if_neg Bool.false_ne_true, field]
  · exact field

/-- What is looked up in a completed tag, but for what is entered into it. -/
theorem get?_placedTags_of_ne (key : String)
    (notRequired : (key == Tag.requiredKey) = false) (notError : (key == Tag.errorKey) = false)
    (notPattern : (key == Tag.patternKey) = false) :
    (placedTags position (fieldTags f tag)).get? key = (Tag.parse tag).get? key := by
  rw [get?_placedTags _ _ _ notRequired notError, notPattern, if_neg Bool.false_ne_true]

/-- What is declared beside a tag does not change its position. -/
theorem readPosition_fieldTags : readPosition (fieldTags f tag) = readPosition (Tag.parse tag) := by
  have same : (fieldTags f tag).get? Tag.positionKey = (Tag.parse tag).get? Tag.positionKey := by
    rw [fieldTags, get?_elim_insert, get?_elim_insert]
    rfl
  rw [readPosition, readPosition, same]

/-- The validator of a completed tag is that of the tag and of the pattern beside it. -/
theorem compile_placedTags [Pattern.Engine] :
    Validator.compile (placedTags position (fieldTags f tag)) f.pattern =
      Validator.compile (Tag.parse tag) f.pattern := by
  have range := get?_placedTags_of_ne position f tag Tag.rangeKey rfl rfl rfl
  have length := get?_placedTags_of_ne position f tag Tag.lengthKey rfl rfl rfl
  have nonzero := get?_placedTags_of_ne position f tag Tag.nonzeroKey rfl rfl rfl
  have pattern : f.pattern.or ((placedTags position (fieldTags f tag)).get? Tag.patternKey) =
      f.pattern.or ((Tag.parse tag).get? Tag.patternKey) := by
    rw [get?_placedTags _ _ _ rfl rfl, if_pos BEq.rfl]
    cases f.pattern <;> rfl
  simp only [Validator.compile, Validator.readBounds, Validator.readPattern, TagMap.contains,
    range, length, nonzero, pattern]

/-- A completed tag demands a value when the tag does or when the value is from the path. -/
theorem isRequired_placedTags :
    isRequired (placedTags position (fieldTags f tag)) =
      (position == .path || isRequired (Tag.parse tag)) := by
  have range := get?_placedTags_of_ne position f tag Tag.rangeKey rfl rfl rfl
  have nonzero : (placedTags position (fieldTags f tag)).contains Tag.nonzeroKey =
      (Tag.parse tag).contains Tag.nonzeroKey := by
    rw [TagMap.contains, TagMap.contains, get?_placedTags_of_ne _ _ _ _ rfl rfl rfl]
  have required : (placedTags position (fieldTags f tag)).contains Tag.requiredKey =
      (position == .path || (Tag.parse tag).contains Tag.requiredKey) := by
    have beside : (fieldTags f tag).get? Tag.requiredKey =
        (Tag.parse tag).get? Tag.requiredKey := by
      rw [fieldTags, get?_elim_insert, get?_elim_insert]
      rfl
    unfold placedTags
    split
    · rename_i path
      rw [TagMap.contains_insert_self, path, Bool.true_or]
    · rename_i other
      rw [Bool.eq_false_iff.mpr other, Bool.false_or, TagMap.contains, TagMap.contains, beside]
  rw [isRequired, isRequired, required, nonzero, range, Bool.or_assoc, Bool.or_assoc, Bool.or_assoc]

end

/-! ## Descriptors -/

namespace Describes

variable [Pattern.Engine] {recs : Records} {mapper : NameMapper} {api tag name : String}
  {leaf : Leaf} {d : ParamDescriptor}
  (described : Describes mapper api (recs.kindOf leaf.type) leaf tag d)

include described

theorem kind : d.kind = recs.kindOf leaf.type := congrArg (·.kind) described.made

theorem lawfulKind : Describes mapper api d.kind leaf tag d := by
  rw [described.kind]
  exact described

/-- What a tag declares is among the tags of the descriptor, and of these the rules are made. -/
theorem get?_of_declared {key text : String} (notRequired : (key == Tag.requiredKey) = false)
    (notError : (key == Tag.errorKey) = false) (notPattern : (key == Tag.patternKey) = false)
    (declared : (Tag.parse tag).get? key = some text) : d.tags.get? key = some text := by
  rw [described.tagged, get?_placedTags_of_ne _ _ _ _ notRequired notError notPattern, declared]

variable {v : Value} (admits : leaf.type.Admits v)
  (passes : d.validator.validate name v.view = .ok ())

include admits passes

theorem keeps_length {tuple : String} (declared : (Tag.parse tag).get? Tag.lengthKey = some tuple) :
    ∃ bounds, Bounds.ofLengths? tuple = some bounds ∧ ∀ w ∈ v.leaves,
      (∃ s, w = .text s ∧ bounds.Contains s.length) ∨
        ∃ octets, w = .bytes octets ∧ bounds.Contains octets.length := by
  have found := described.get?_of_declared rfl rfl rfl declared
  obtain ⟨-, made, -⟩ := Validator.compile_eq_ok described.compiled
  obtain ⟨bounds, readable, kept⟩ := Validator.readBounds_of_declared found made
  have sort := described.lawfulKind.lawful.length (TagMap.contains_of_get? found)
  rw [described.kind] at sort
  refine ⟨bounds, readable, fun w member => ?_⟩
  have inside := (Validator.obeys_of_validate passes w member).length bounds kept
  rcases or_assoc.mpr sort with text | bytes
  · obtain ⟨s, rfl⟩ := WireType.text_of_mem_leaves text admits w member
    exact Or.inl ⟨s, rfl, inside _ rfl⟩
  · obtain ⟨octets, rfl⟩ := WireType.bytes_of_mem_leaves bytes admits w member
    exact Or.inr ⟨octets, rfl, inside _ rfl⟩

theorem keeps_pattern {source : String}
    (declared : leaf.field.pattern.or ((Tag.parse tag).get? Tag.patternKey) = some source) :
    ∃ pattern, FullMatch.compile? source = some pattern ∧ ∀ w ∈ v.leaves,
      ∃ s, w = .text s ∧ pattern.accepts s = true := by
  have found : d.tags.get? Tag.patternKey = some source := by
    rw [described.tagged, get?_placedTags _ _ _ rfl rfl]
    exact declared
  -- The pattern beside the tag is given to the compiler once more, and is the same one.
  have taken : leaf.field.pattern.or (d.tags.get? Tag.patternKey) = some source := by
    rw [found, ← declared]
    cases leaf.field.pattern <;> rfl
  obtain ⟨-, -, made⟩ := Validator.compile_eq_ok described.compiled
  obtain ⟨pattern, readable, kept⟩ := Validator.readPattern_of_declared taken made
  have sort := described.lawfulKind.lawful.pattern (TagMap.contains_of_get? found)
  rw [described.kind] at sort
  refine ⟨pattern, readable, fun w member => ?_⟩
  have obeys := Validator.obeys_of_validate passes w member
  obtain ⟨s, rfl⟩ := WireType.text_of_mem_leaves sort admits w member
  exact ⟨s, rfl, obeys.pattern pattern kept s rfl⟩

theorem keeps_range {tuple : String} (declared : (Tag.parse tag).get? Tag.rangeKey = some tuple) :
    ∃ bounds, Bounds.ofNumbers? tuple = some bounds ∧ ∀ w ∈ v.leaves,
      ∃ x, w.view = .number x ∧ bounds.Tolerates x := by
  have found := described.get?_of_declared rfl rfl rfl declared
  obtain ⟨made, -, -⟩ := Validator.compile_eq_ok described.compiled
  obtain ⟨bounds, readable, kept⟩ := Validator.readBounds_of_declared found made
  obtain ⟨c, numeric, sort⟩ := described.lawfulKind.lawful.range (TagMap.contains_of_get? found)
  rw [described.kind] at sort
  refine ⟨bounds, readable, fun w member => ?_⟩
  obtain ⟨x, seen⟩ := WireType.number_of_mem_leaves numeric sort admits w member
  exact ⟨x, seen, (Validator.obeys_of_validate passes w member).range bounds kept x seen⟩

/-- A value of the type of a field that has passed the field's validator keeps the constraints of
its tag. -/
theorem keeps : leaf.Keeps tag v where
  view := Value.leaves_view v
  length _ declared := described.keeps_length admits passes declared
  pattern _ declared := described.keeps_pattern admits passes declared
  range _ declared := described.keeps_range admits passes declared

end Describes

end Schema

/-! ## Bound values -/

namespace ParamsApi

variable {recs : Records} {api : ParamsApi} {param : ParamDescriptor} {type : WireType}
  {pathParams : PathParams} {x : Exchange} {v : Value}

theorem admits_of_takeBodyValue (taken : (api.takeBodyValue type x).1 = .ok (some v)) :
    type.Admits v := by
  simp only [takeBodyValue, Exchange.takeBody, bind, StateT.bind] at taken
  cases given : x.request.body with
  | none =>
    rw [given] at taken
    cases taken
  | some body =>
    rw [given] at taken
    cases body with
    | nil => cases taken
    | cons octet octets =>
      simp only at taken
      cases decoded : api.decoder (octet :: octets) with
      | none =>
        rw [decoded] at taken
        cases taken
      | some content =>
        rw [decoded] at taken
        have read : ((type.ofBody content).map some).mapError BindCause.conversion =
            .ok (some v) := taken
        obtain ⟨w, made, same⟩ := Except.map_eq_ok_iff.mp (Except.mapError_eq_ok_iff.mp read)
        cases same
        exact WireType.admits_of_ofBody made

/-- Whatever a descriptor takes from a request has the form of the type. -/
theorem admits_of_extract
    (taken : (api.extract recs param type pathParams x).1 = .ok (some v)) : type.Admits v := by
  by_cases isBody : param.position = .body
  · rw [extract_of_body isBody] at taken
    exact admits_of_takeBodyValue taken
  · rw [extract_of_position_ne isBody] at taken
    unfold convert at taken
    split at taken
    · cases taken
    · cases taken
    · exact WireType.admits_of_find (Except.mapError_eq_ok_iff.mp taken)

/-- A value is settled without a failure when it has passed the validator. -/
theorem validate_of_settle {found : Except BindCause (Option Value)}
    (passes : (settle param found).failure = none) (stored : (settle param found).store = some v) :
    found = .ok (some v) ∧ param.validator.validate param.name v.view = .ok () := by
  obtain rfl := eq_ok_of_store stored
  rw [settle] at passes
  split at passes
  · rename_i accepted
    exact ⟨rfl, accepted⟩
  · cases passes

end ParamsApi

namespace Registry

variable {origin : Registry} {recs : Records} {options : RegisterOptions}
  {template : Option Value} {r : Record} {api : ParamsApi}

/-- Every descriptor of a registered record has a field, and a value of the field's type that has
passed the descriptor's validator keeps every constraint of the field's tag in each of its leaves.
So when a new value of the record has been bound, what a descriptor has found is in its field, is of
the field's type and keeps the constraints. -/
theorem registered_keeps [Pattern.Engine]
    (registered : (origin.register recs options template r).1 = .ok api)
    {param : ParamDescriptor} (own : param ∈ api.params) :
    ∃ leaf ∈ r.fields.leaves, ∃ tag, Schema.takenTag? leaf = some tag ∧ param.path = leaf.path ∧
      (∀ v, leaf.type.Admits v → param.validator.validate param.name v.view = .ok () →
        leaf.Keeps tag v) ∧
      ∀ (registry : Registry) (cap : Nat),
        r.Derived → registry.find? r.ident = some { api with maxMemory := cap } →
        ∀ (pathParams : PathParams) (x : Exchange) (v : Value),
          (registry.bindNew recs r pathParams x).1 = .ok v →
          ∀ w, ({ api with maxMemory := cap } : ParamsApi).alone recs r.fields pathParams x.request
              param = .ok (some w) →
            v.part? leaf.path = some w ∧ leaf.type.Admits w ∧ leaf.Keeps tag w := by
  obtain ⟨leaf, member, tag, takes, described⟩ := registered_represents registered own
  have path : param.path = leaf.path := congrArg (·.path) described.made
  have keeps : ∀ v, leaf.type.Admits v →
      param.validator.validate param.name v.view = .ok () → leaf.Keeps tag v :=
    fun v admits passes => described.keeps admits passes
  refine ⟨leaf, member, tag, takes, path, keeps, ?_⟩
  intro registry cap derived current pathParams x v bound w alone
  obtain ⟨type, typed, passes, holds⟩ := bindNew_eq_ok derived registered current bound param own
  obtain ⟨has, role⟩ := FieldTable.hasField_of_mem_leaves member
  obtain rfl : leaf.type = type := by
    rw [path, has.typeAt?, Field.boundType?, role] at typed
    exact Option.some.inj typed
  rw [ParamsApi.alone, typed] at alone
  obtain ⟨-, stored⟩ := ParamsApi.outcome_eq_ok_iff.mp alone
  obtain ⟨taken, accepted⟩ := ParamsApi.validate_of_settle passes stored
  have admits := ParamsApi.admits_of_extract taken
  refine ⟨?_, admits, keeps w admits accepted⟩
  rw [← path, holds, stored, Option.some_or]

/-- A review: some short words, and stars that are given. -/
def review : Record :=
  let fields : FieldTable :=
    .field (.annotated "words" (.seq (.scalar .text)) "<in:query> <len:1:8> <regexp:[a-z]+>")
      (.field (.annotated "stars" (.seq (.scalar (.int .uint8))) "<in:query> <range:1:5>") .nil)
  { ident := "Review", name := "Review", fields, zero := fields.zero {} }

theorem derived_review : review.Derived where
  handles := by decide +kernel
  shape := FieldTable.fits_zero {} review.fields

/-- The words of a review that has been bound are short and made of small letters. -/
theorem registered_keeps_review :
    let registration := ({} : Registry).register {} { mapper := id, decoder := fun _ => none } none
      review
    let request : Request := { target := { query := some "words=lean&words=proof&stars=4" } }
    ∃ v w, (registration.2.1.bindNew {} review [] { request }).1 = .ok v ∧
      v.part? [0] = some w ∧ ∀ u ∈ w.leaves, ∃ s, u = .text s ∧ 1 ≤ s.length ∧ s.length ≤ 8 ∧
        (FullMatch.compile? "[a-z]+").any (·.accepts s) = true := by
  intro registration request
  have given : registration.1.toOption.any (fun api => api.params.any fun param =>
      param.path == [0] && (api.alone {} review.fields [] request param).toOption.join.isSome) =
        true := by decide +kernel
  have written : Bounds.ofLengths? "1:8" = some ⟨some 1, some 8⟩ := by decide +kernel
  have binds : (registration.2.1.bindNew {} review [] { request }).1.isOk = true := by
    decide +kernel
  cases registered : registration.1 with
  | error e =>
    rw [registered] at given
    cases given
  | ok api =>
    rw [registered] at given
    obtain ⟨param, own, found⟩ := List.any_eq_true.mp given
    obtain ⟨first, alone⟩ := Bool.and_eq_true_iff.mp found
    obtain ⟨w, holds⟩ : ∃ w, api.alone {} review.fields [] request param = .ok (some w) := by
      cases outcome : api.alone {} review.fields [] request param with
      | error e =>
        rw [outcome] at alone
        cases alone
      | ok found? =>
        rw [outcome] at alone
        obtain ⟨w, same⟩ := Option.isSome_iff_exists.mp alone
        exact ⟨w, congrArg Except.ok same⟩
    cases bound : (registration.2.1.bindNew {} review [] { request }).1 with
    | error e =>
      rw [bound] at binds
      cases binds
    | ok v =>
      obtain ⟨leaf, member, tag, takes, path, -, keeps⟩ := registered_keeps registered own
      obtain ⟨part, -, kept⟩ := keeps registration.2.1 api.maxMemory derived_review
        (find?_register registered) [] { request } v bound w holds
      rw [beq_iff_eq.mp first] at path
      rw [← path] at part
      refine ⟨v, w, rfl, part, fun u inside => ?_⟩
      rcases List.mem_cons.mp member with rfl | other
      · obtain rfl := Option.some.inj takes
        obtain ⟨bounds, readable, lengths⟩ := kept.length "1:8" (by decide +kernel)
        obtain ⟨pattern, compiled, texts⟩ := kept.pattern "[a-z]+" (by decide +kernel)
        obtain rfl := Option.some.inj (written.symm.trans readable)
        obtain ⟨s, rfl, matched⟩ := texts u inside
        rcases lengths _ inside with ⟨_, same, least, most⟩ | ⟨_, same, -⟩
        · cases same
          exact ⟨s, rfl, least 1 rfl, most 8 rfl, by rw [compiled]; exact matched⟩
        · cases same
      · obtain rfl := List.mem_singleton.mp other
        cases path

end Registry

end RequestBinding
