import RequestBinding.Pattern.Dialect
import RequestBinding.Proofs.Constraint.IntegerBounds
import RequestBinding.Proofs.Convert.FlatValues
import RequestBinding.Proofs.Schema.Constraints
import RequestBinding.Proofs.Schema.SingleField

/-!
# Ranges of integer fields

A field of an integer type can declare that its numbers lie between two others. It can be registered
at every position but the body. When a request supplies a number to it and nothing is wrong with the
other fields, binding succeeds when the number is not seen to lie outside of the bounds, and the
field then holds the number; and otherwise it fails because the number is too small or too big
(`Registry.bindNew_integer_range`).

Numbers are seen as floats. For bounds below `2 ^ 53` this makes no difference. A number beyond a
larger bound can be accepted, as `Registry.bindNew_gauge_beyond` shows.
-/

namespace RequestBinding

/-! ## Declarations -/

/-- The leaf is for numbers of the integer type, and its tag demands that they lie between the two
bounds. Zero is not rejected for its own sake. -/
structure Leaf.Ranged (leaf : Leaf) (k : IntKind) (least most : Int) : Prop where
  type : leaf.type = .scalar (.int k)
  declared : ∃ tag, Schema.takenTag? leaf = some tag ∧
    (Tag.parse tag).get? Tag.rangeKey = some (Bounds.between least most) ∧
    (Tag.parse tag).contains Tag.nonzeroKey = false

/-- The tag of a field at the position that must lie between the integers. -/
def Tag.ranged (position : Position) (least most : Int) : String :=
  "<in:" ++ position.name ++ "> <range:" ++ Bounds.between least most ++ ">"

theorem Tag.parse_ranged (position : Position) {least most : Int}
    (fitsLeast : least.natAbs ≤ 2 ^ 64) (fitsMost : most.natAbs ≤ 2 ^ 64) :
    parse (ranged position least most) =
      (({} : TagMap).insert positionKey position.name).insert rangeKey
        (Bounds.between least most) := by
  have plainName : Plain position.name.toList := by cases position <;> decide
  have plainBounds : Plain (Bounds.between least most).toList :=
    (Bounds.Declared.both (Bounds.side_integer fitsLeast) (Bounds.side_integer fitsMost)).plain
  have text : (ranged position least most).toList =
      ("<" ++ "in" ++ ":" ++ position.name ++ ">").toList ++
        ' ' :: (("<" ++ "range" ++ ":" ++ Bounds.between least most ++ ">").toList ++ []) := by
    simp [ranged, String.toList_append]
  rw [parse, text, Reader.foldl_plain (by decide) (by decide) plainName, List.foldl_cons]
  show (List.foldl Reader.next ⟨.outside, _⟩ _).tags = _
  rw [Reader.foldl_plain (by decide) (by decide) plainBounds]
  rfl

/-! ## Descriptors -/

namespace Schema

/-- A field of an integer type that has the tag and no pattern can be described at every position
but the body. -/
theorem exists_describes_ranged [Pattern.Engine] (recs : Records) (mapper : NameMapper)
    (api : String) {f : Field} (shown : f.exported = true) (bare : f.pattern = none)
    {position : Position} (notBody : position ≠ .body) (k : IntKind) {least most : Int}
    (fitsLeast : least.natAbs ≤ 2 ^ 64) (fitsMost : most.natAbs ≤ 2 ^ 64) (path : FieldPath) :
    ∃ d, Describes mapper api (recs.kindOf (.scalar (.int k))) ⟨path, f, .scalar (.int k)⟩
      (Tag.ranged position least most) d := by
  let kind := recs.kindOf (.scalar (.int k))
  let tags := placedTags position (fieldTags f (Tag.ranged position least most))
  let validator : Validator :=
    { range := some ⟨some (Float.ofInt least), some (Float.ofInt most)⟩ }
  have parsed := Tag.parse_ranged position fitsLeast fitsMost
  have absent : ∀ key : String, (key == Tag.requiredKey) = false → (key == Tag.errorKey) = false →
      (key == Tag.patternKey) = false → (key == Tag.rangeKey) = false →
      (key == Tag.positionKey) = false → tags.get? key = none := by
    intro key notRequired notError notPattern notRange notPosition
    rw [get?_placedTags_of_ne _ _ _ _ notRequired notError notPattern, parsed,
      TagMap.get?_insert, notRange, if_neg Bool.false_ne_true, TagMap.get?_insert, notPosition,
      if_neg Bool.false_ne_true]
    rfl
  have noPattern : tags.get? Tag.patternKey = none := by
    rw [get?_placedTags _ _ _ rfl rfl, bare, parsed]
    rfl
  have positioned : readPosition (fieldTags f (Tag.ranged position least most)) = .ok position := by
    rw [readPosition_fieldTags, parsed]
    cases position <;> rfl
  have compiled : Validator.compile tags f.pattern = .ok validator := by
    have range : Validator.readBounds Bounds.ofNumbers?
        (Tag.parse (Tag.ranged position least most)) Tag.rangeKey = .ok validator.range := by
      rw [Validator.readBounds, parsed, TagMap.get?_insert, if_pos BEq.rfl]
      simp only [Bounds.ofNumbers?_between fitsLeast fitsMost]
      rfl
    rw [compile_placedTags, Validator.compile, range, parsed, bare]
    rfl
  let d : ParamDescriptor :=
    { api, position, tags, validator, kind
      name := wireName mapper f tags position
      field := f.name
      required := isRequired tags
      isFile := kind.isFile
      path
      customError := tags.get? Tag.errorKey }
  have capped := absent Tag.capKey rfl rfl rfl rfl rfl
  refine ⟨d, rfl, shown, positioned, ?_, rfl, ?_, .inl capped, compiled, rfl⟩
  · cases k <;> cases position <;> first | rfl | exact absurd rfl notBody
  · have sort : kind.constrained.isNumeric = true := by cases k <;> rfl
    show checkConstraints kind tags = .ok ()
    rw [checkConstraints, TagMap.contains, TagMap.contains, TagMap.contains, noPattern,
      absent Tag.lengthKey rfl rfl rfl rfl rfl, sort, Bool.or_true]
    rfl

theorem checkKind_ne_body {kind : Kind} {position : Position} (plain : kind.isBody = false)
    (fits : checkKind kind position = .ok ()) : position ≠ .body := by
  rintro rfl
  simp only [checkKind, Except.bind_eq_ok_iff, demand_eq_ok_iff] at fits
  obtain ⟨-, -, -, -, -, body, -⟩ := fits
  rw [plain] at body
  cases body

/-- The validator of a field that must lie between two integers. -/
theorem Describes.confines [Pattern.Engine] {mapper : NameMapper} {api tag : String} {kind : Kind}
    {leaf : Leaf} {d : ParamDescriptor} (described : Describes mapper api kind leaf tag d)
    {least most n : Int}
    (declared : (Tag.parse tag).get? Tag.rangeKey = some (Bounds.between least most))
    (zeros : (Tag.parse tag).contains Tag.nonzeroKey = false) (ordered : least ≤ most)
    (fitsLeast : least.natAbs ≤ 2 ^ 64) (fitsMost : most.natAbs ≤ 2 ^ 64)
    (fits : n.natAbs ≤ 2 ^ 64) (field : String) : d.validator.Confines least most field n := by
  have compiled := described.compiled
  rw [described.tagged, compile_placedTags] at compiled
  obtain ⟨made, -, -⟩ := Validator.compile_eq_ok compiled
  obtain ⟨bounds, readable, range⟩ := Validator.readBounds_of_declared declared made
  obtain rfl := Option.some.inj
    ((Bounds.ofNumbers?_between fitsLeast fitsMost).symm.trans readable)
  have nonzero := (Validator.nonzero_of_compile compiled).trans zeros
  exact Validator.confines ordered fitsLeast fitsMost fits range nonzero field

end Schema

/-! ## Supplied numbers -/

namespace ParamsApi

variable {recs : Records} {api : ParamsApi} {param : ParamDescriptor} {pathParams : PathParams}
  {request : Request} {k : IntKind} {n : Int}

/-- The request supplies the number to the descriptor: the first text under its name is a numeral
of the type that shows the number. -/
def Supplies (api : ParamsApi) (param : ParamDescriptor) (pathParams : PathParams)
    (request : Request) (k : IntKind) (n : Int) : Prop :=
  ∃ src raw, (api.source param pathParams { request }).1 = .ok (some src) ∧
    src.firstValue? param.name.toList = some raw ∧ Numeral.readInt k raw.toList = .ok n

/-- A number that is supplied is what the descriptor settles its field with. -/
theorem settled_of_supplies (notBody : param.position ≠ .body)
    (supplies : api.Supplies param pathParams request k n) :
    api.settled recs pathParams request param (.scalar (.int k)) =
      settle param (.ok (some (.int n))) := by
  obtain ⟨src, raw, offered, first, read⟩ := supplies
  have found : (WireType.scalar (.int k)).find recs src .strict param.name.toList =
      .ok (some (.int n)) := by
    rw [WireType.find_flat rfl, first]
    simp only [WireType.ofRaw, Scalar.ofRaw, Scalar.read, read]
    rfl
  rw [settled, extract_of_position_ne notBody, offered]
  simp only [convert, found]
  rfl

variable {v : Value}

theorem outcome_settle_of_ok (passes : param.validator.validate param.name v.view = .ok ()) :
    api.outcome param (settle param (.ok (some v))) = .ok (some v) := by
  simp only [settle, passes]
  rfl

theorem outcome_settle_of_error {violation : Violation}
    (fails : param.validator.validate param.name v.view = .error violation) :
    api.outcome param (settle param (.ok (some v))) =
      .error (api.failure param (.validation violation)) := by
  simp only [settle, fails]
  rfl

end ParamsApi

namespace Registry

variable {registry origin : Registry} {recs : Records} {options : RegisterOptions}
  {template : Option Value} {r : Record} {api : ParamsApi} {k : IntKind} {least most : Int}

/-- A record with one field that declares bounds is registered. -/
theorem register_ranged [Pattern.Engine] (fitsLeast : least.natAbs ≤ 2 ^ 64)
    (fitsMost : most.natAbs ≤ 2 ^ 64) {f : Field} (shown : f.exported = true)
    (bare : f.pattern = none) {position : Position} (notBody : position ≠ .body)
    (single : r.HasSingle f (.scalar (.int k)) (Tag.ranged position least most)) :
    (∃ api, (registry.register recs options template r).1 = .ok api) ∧
      ∀ leaf ∈ r.fields.leaves, leaf.Ranged k least most := by
  constructor
  · obtain ⟨d, described⟩ := Schema.exists_describes_ranged recs options.mapper r.name shown bare
      notBody k fitsLeast fitsMost [0]
    exact ⟨_, (register_single_eq_ok_iff single).mpr ⟨d, described, rfl⟩⟩
  · intro leaf member
    rw [single.leaves] at member
    obtain rfl := List.mem_singleton.mp member
    refine ⟨rfl, _, single.takenTag?, ?_, ?_⟩
    · rw [Tag.parse_ranged position fitsLeast fitsMost, TagMap.get?_insert, if_pos BEq.rfl]
    · rw [Tag.parse_ranged position fitsLeast fitsMost]
      rfl

/-- The two bounds decide about the number of the descriptor, and with it about the outcome of
binding. -/
structure Confines (api : ParamsApi) (param : ParamDescriptor) (least most n : Int)
    (outcome : Except BindError Value) : Prop where
  binds : (∃ v, outcome = .ok v) ↔
    ¬ Validator.SeesLess n least ∧ ¬ Validator.SeesLess most n
  holds : ∀ v, outcome = .ok v → v.part? param.path = some (.int n)
  small : Validator.SeesLess n least → outcome = .error (api.failure param (.validation
    ⟨param.name, .tooSmall,
      "smaller than " ++ floatText (Float.ofInt least) ++ ": " ++ floatText (Float.ofInt n)⟩))
  big : Validator.SeesLess most n → outcome = .error (api.failure param (.validation
    ⟨param.name, .tooBig,
      "bigger than " ++ floatText (Float.ofInt most) ++ ": " ++ floatText (Float.ofInt n)⟩))

theorem Confines.of_settled {param : ParamDescriptor} {n : Int} {outcome : Except BindError Value}
    (decides : param.validator.Confines least most param.name n)
    {settled : Except BindError (Option Value)}
    (same : settled = api.outcome param (ParamsApi.settle param (.ok (some (.int n)))))
    (binds : ∀ w, settled = .ok (some w) → ∃ v, outcome = .ok v ∧ v.part? param.path = some w)
    (ends : ∀ e, settled = .error e → outcome = .error e) :
    Confines api param least most n outcome := by
  have small := fun sees : Validator.SeesLess n least =>
    ends _ (same.trans (ParamsApi.outcome_settle_of_error (decides.small sees)))
  have big := fun sees : Validator.SeesLess most n =>
    ends _ (same.trans (ParamsApi.outcome_settle_of_error (decides.big sees)))
  have inside : (∃ v, outcome = .ok v) →
      ¬ Validator.SeesLess n least ∧ ¬ Validator.SeesLess most n := by
    rintro ⟨v, ok⟩
    constructor
    · exact fun sees => nomatch ok.symm.trans (small sees)
    · exact fun sees => nomatch ok.symm.trans (big sees)
  have succeeds : ¬ Validator.SeesLess n least ∧ ¬ Validator.SeesLess most n →
      ∃ v, outcome = .ok v ∧ v.part? param.path = some (.int n) := fun between =>
    binds _ (same.trans (ParamsApi.outcome_settle_of_ok (decides.passes.mpr between)))
  refine ⟨⟨inside, fun between => ?_⟩, fun v ok => ?_, small, big⟩
  · obtain ⟨v, ok, -⟩ := succeeds between
    exact ⟨v, ok⟩
  · obtain ⟨w, ok', holds⟩ := succeeds (inside ⟨v, ok⟩)
    rw [Except.ok.inj (ok.symm.trans ok')]
    exact holds

/-- A field of a registered record whose tag declares bounds has a descriptor for which the bounds
decide, when a request supplies a number to it and the other descriptors succeed alone. -/
theorem bindNew_ranged [Pattern.Engine] (holdsLeast : k.holds least) (holdsMost : k.holds most)
    (ordered : least ≤ most) (derived : r.Derived)
    (registered : (origin.register recs options template r).1 = .ok api) {cap : Nat}
    (current : registry.find? r.ident = some { api with maxMemory := cap }) {leaf : Leaf}
    (member : leaf ∈ r.fields.leaves) (ranged : leaf.Ranged k least most) :
    let served : ParamsApi := { api with maxMemory := cap }
    ∃ param ∈ served.params, param.path = leaf.path ∧
      ∀ (pathParams : PathParams) (x : Exchange) (n : Int),
        served.Supplies param pathParams x.request k n →
        (∀ other ∈ served.params, other ≠ param → ∃ found,
          served.alone recs r.fields pathParams x.request other = .ok found) →
        Confines served param least most n (registry.bindNew recs r pathParams x).1 := by
  intro served
  obtain ⟨tag, taken, declared, zeros⟩ := ranged.declared
  obtain ⟨param, own, described⟩ := registered_describes registered member taken
  have path : param.path = leaf.path := congrArg (·.path) described.made
  refine ⟨param, own, path, fun pathParams x n supplies others => ?_⟩
  have fits : n.natAbs ≤ 2 ^ 64 := by
    obtain ⟨src, raw, -, -, read⟩ := supplies
    exact IntKind.natAbs_le_of_holds (Numeral.holds_of_readInt read)
  have decides : param.validator.Confines least most param.name n :=
    described.confines declared zeros ordered (IntKind.natAbs_le_of_holds holdsLeast)
      (IntKind.natAbs_le_of_holds holdsMost) fits param.name
  have plain : (recs.kindOf leaf.type).isBody = false := by
    rw [ranged.type]
    rfl
  have notBody : param.position ≠ .body := Schema.checkKind_ne_body plain described.kindFits
  have alone : served.alone recs r.fields pathParams x.request param =
      served.outcome param (ParamsApi.settle param (.ok (some (.int n)))) := by
    obtain ⟨has, role⟩ := FieldTable.hasField_of_mem_leaves member
    have typed : r.fields.typeAt? param.path = some (.scalar (.int k)) := by
      rw [path, has.typeAt?, Field.boundType?, role, ranged.type]
    rw [ParamsApi.alone, typed]
    exact congrArg (served.outcome param) (ParamsApi.settled_of_supplies notBody supplies)
  obtain ⟨binds, ends⟩ := bindNew_of_others derived registered current param own others
  exact .of_settled decides alone binds ends

/-- A field of an integer type can declare any two bounds of the type. Of a number that a request
supplies to it the bounds decide: whether a new value is bound when the other fields have no
failures, and which failure there is otherwise. They decide as the order of the integers does, but
for numbers that have the same float as a bound; the floats of bounds below `2 ^ 53` are of no other
number. -/
theorem bindNew_integer_range [Pattern.Engine] (holdsLeast : k.holds least)
    (holdsMost : k.holds most) (ordered : least ≤ most) :
    (∀ (registry : Registry) (recs : Records) (options : RegisterOptions)
        (template : Option Value) (r : Record) (f : Field) (position : Position),
        f.exported = true → f.pattern = none → position ≠ .body →
        r.HasSingle f (.scalar (.int k)) (Tag.ranged position least most) →
        (∃ api, (registry.register recs options template r).1 = .ok api) ∧
          ∀ leaf ∈ r.fields.leaves, leaf.Ranged k least most) ∧
      (∀ (origin registry : Registry) (recs : Records) (options : RegisterOptions)
        (template : Option Value) (r : Record) (api : ParamsApi) (cap : Nat),
        let served : ParamsApi := { api with maxMemory := cap }
        r.Derived → (origin.register recs options template r).1 = .ok api →
        registry.find? r.ident = some served →
        ∀ leaf ∈ r.fields.leaves, leaf.Ranged k least most →
          ∃ param ∈ served.params, param.path = leaf.path ∧
            ∀ (pathParams : PathParams) (x : Exchange) (n : Int),
              served.Supplies param pathParams x.request k n →
              (∀ other ∈ served.params, other ≠ param → ∃ found,
                served.alone recs r.fields pathParams x.request other = .ok found) →
              Confines served param least most n
                (registry.bindNew recs r pathParams x).1) ∧
      ∀ m n : Int, k.holds m → k.holds n → m.natAbs < 2 ^ 53 ∨ n.natAbs < 2 ^ 53 →
        (Validator.SeesLess m n ↔ m < n) := by
  refine ⟨?_, ?_, ?_⟩
  · intro registry recs options template r f position shown bare notBody single
    exact register_ranged (IntKind.natAbs_le_of_holds holdsLeast)
      (IntKind.natAbs_le_of_holds holdsMost) shown bare notBody single
  · intro origin registry recs options template r api cap served derived registered current leaf
      member ranged
    exact bindNew_ranged holdsLeast holdsMost ordered derived registered current member ranged
  · intro m n holdsM holdsN small
    exact Validator.seesLess_iff_lt (IntKind.natAbs_le_of_holds holdsM)
      (IntKind.natAbs_le_of_holds holdsN) small

/-- A gauge, with a level from zero to `2 ^ 53`. -/
def gauge : Record :=
  let level : Field :=
    .annotated "level" (.scalar (.int .int64)) (Tag.ranged .query 0 9007199254740992)
  let fields : FieldTable := .field level .nil
  { ident := "Gauge", name := "Gauge", fields, zero := fields.zero {} }

theorem derived_gauge : gauge.Derived where
  handles := by decide +kernel
  shape := FieldTable.fits_zero {} gauge.fields

/-- A request with a level. -/
def levelRequest (level : String) : Exchange :=
  { request := { target := { query := some ("level=" ++ level) } } }

/-- The level is all that a gauge takes from a request. -/
theorem gauge_params (registered : (({} : Registry).register {}
      { mapper := id, decoder := fun _ => none } none gauge).1 = .ok api) {param : ParamDescriptor}
    (own : param ∈ api.params) :
    param.name = "level" ∧ (∀ other ∈ api.params, other = param) ∧
      ∀ raw n, Numeral.readInt .int64 raw.toList = .ok n →
        (KeySource.ofForm (Exchange.query (levelRequest raw)).1 api.maxIndex).firstValue?
          "level".toList = some raw →
        api.Supplies param [] (levelRequest raw).request .int64 n := by
  have made : (({} : Registry).register {} { mapper := id, decoder := fun _ => none } none
      gauge).1.toOption.any (fun api => api.params.length == 1 &&
        api.params.all fun param => param.position == .query && param.name == "level") = true := by
    decide +kernel
  rw [registered] at made
  obtain ⟨single, described⟩ := Bool.and_eq_true_iff.mp made
  obtain ⟨position, name⟩ := Bool.and_eq_true_iff.mp (List.all_eq_true.mp described param own)
  refine ⟨beq_iff_eq.mp name, fun other member => ?_, fun raw n read given =>
    ⟨.ofForm (Exchange.query (levelRequest raw)).1 api.maxIndex, raw, ?_, ?_, read⟩⟩
  · obtain ⟨only, same⟩ := List.length_eq_one_iff.mp (beq_iff_eq.mp single)
    rw [same] at own member
    exact (List.mem_singleton.mp member).trans (List.mem_singleton.mp own).symm
  · rw [ParamsApi.source, beq_iff_eq.mp position]
    rfl
  · rw [beq_iff_eq.mp name]
    exact given

/-- The level 7 is accepted, and a level below zero is not. -/
theorem bindNew_integer_range_gauge :
    let registration := ({} : Registry).register {} { mapper := id, decoder := fun _ => none } none
      gauge
    ∃ api, registration.1 = .ok api ∧
      (∃ v, (registration.2.1.bindNew {} gauge [] (levelRequest "7")).1 = .ok v ∧
        v.part? [0] = some (.int 7)) ∧
      ∃ param, (registration.2.1.bindNew {} gauge [] (levelRequest "-1")).1 =
        .error (api.failure param (.validation ⟨"level", .tooSmall, "smaller than 0: -1"⟩)) := by
  intro registration
  have zero : IntKind.int64.holds 0 := by decide +kernel
  have limit : IntKind.int64.holds 9007199254740992 := by decide +kernel
  obtain ⟨registers, binds, apart⟩ := bindNew_integer_range zero limit (by decide)
  obtain ⟨⟨api, registered⟩, ranged⟩ := registers {} {} { mapper := id, decoder := fun _ => none }
    none gauge _ .query rfl rfl (by decide) ⟨rfl, rfl, rfl, by decide +kernel⟩
  obtain ⟨param, own, path, decides⟩ := binds {} registration.2.1 {} _ none gauge api api.maxMemory
    derived_gauge registered (find?_register registered) _ List.mem_cons_self
    (ranged _ List.mem_cons_self)
  obtain ⟨name, only, supplies⟩ := gauge_params registered own
  have inside := decides [] (levelRequest "7") 7 (supplies "7" 7 rfl rfl)
    fun other member different => absurd (only other member) different
  have below := decides [] (levelRequest "-1") (-1) (supplies "-1" (-1) rfl rfl)
    fun other member different => absurd (only other member) different
  obtain ⟨v, bound⟩ := inside.binds.mpr
    ⟨(apart 7 0 (by decide +kernel) zero (.inl (by decide))).not.mpr (by decide),
      (apart _ 7 limit (by decide +kernel) (.inr (by decide))).not.mpr (by decide)⟩
  have small := below.small
    ((apart (-1) 0 (by decide +kernel) zero (.inl (by decide))).mpr (by decide))
  rw [name] at small
  have place : param.path = [0] := path
  exact ⟨api, registered, ⟨v, bound, place ▸ inside.holds v bound⟩, param, small⟩

/-- A level above the greatest one is accepted when both have the same float. -/
theorem bindNew_gauge_beyond :
    let registration := ({} : Registry).register {} { mapper := id, decoder := fun _ => none } none
      gauge
    let bound := (registration.2.1.bindNew {} gauge [] (levelRequest "9007199254740993")).1
    (9007199254740992 : Int) < 9007199254740993 ∧
      ∃ v, bound = .ok v ∧ v.part? [0] = some (.int 9007199254740993) := by
  intro registration bound
  obtain ⟨⟨api, registered⟩, ranged⟩ : (∃ api, registration.1 = .ok api) ∧
      ∀ leaf ∈ gauge.fields.leaves, leaf.Ranged .int64 0 9007199254740992 :=
    register_ranged (by decide) (by decide) rfl rfl (by decide) ⟨rfl, rfl, rfl, by decide +kernel⟩
  obtain ⟨param, own, path, decides⟩ := bindNew_ranged (by decide +kernel) (by decide +kernel)
    (by decide) derived_gauge registered (find?_register registered) List.mem_cons_self
    (ranged _ List.mem_cons_self)
  obtain ⟨-, only, supplies⟩ := gauge_params registered own
  have confines := decides [] (levelRequest "9007199254740993") 9007199254740993
    (supplies _ _ (by decide +kernel) rfl)
    fun other member different => absurd (only other member) different
  have same : Float.ofInt 9007199254740992 = Float.ofInt 9007199254740993 :=
    (Rounding.ofInt_eq_iff (by decide) (by decide)).mpr (by decide +kernel)
  obtain ⟨v, accepted⟩ := confines.binds.mpr
    ⟨fun sees => absurd sees.1 (by decide), fun sees => sees.2 same⟩
  have place : param.path = [0] := path
  exact ⟨by decide, v, accepted, place ▸ confines.holds v accepted⟩

end Registry

end RequestBinding
