import RequestBinding.Proofs.Command.TagReport

/-!
# Tags that some field can carry

The command line checks a tag without a field. Registration checks it for the field of some type,
and there are tags that no type can carry: the cap on the form must be a positive number; a range is
for numbers, a length and a pattern are for texts or octets, so they exclude each other; and a body
has none of them (`Tag.Carriable`). The command line reads the position and the constraints one by
one and looks at neither the cap nor what goes together. So it accepts `<in:query> <maxmb:0>`, which
no field can carry (`Command.inspectTag_cap_zero`), and of the tags that it accepts exactly the
carriable ones can be registered with a field of some type (`Command.registers_iff_carriable`).
-/

namespace RequestBinding

/-- There are types whose fields can have what the tag and the pattern beside it demand. -/
structure Tag.Carriable (tags : TagMap) (pattern : Option String) : Prop where
  cap : tags.get? Tag.capKey = none ∨ ∃ n, tags.cap? = some (n + 1)
  range : tags.contains Tag.rangeKey = true →
    tags.contains Tag.lengthKey = false ∧ pattern.or (tags.get? Tag.patternKey) = none
  body : tags.get? Tag.positionKey = some Position.body.name →
    tags.contains Tag.rangeKey = false ∧ tags.contains Tag.lengthKey = false ∧
      pattern.or (tags.get? Tag.patternKey) = none

/-- A record with one field, which takes values of the type. -/
def Record.lone (recs : Records) (ident name : String) (f : Field) (type : WireType) : Record :=
  let fields : FieldTable := .field { f with role := .bound type } .nil
  { ident, name, fields, zero := fields.zero recs }

theorem Record.hasSingle_lone {f : Field} {tag : String} (recs : Records) (ident name : String)
    (type : WireType) (tagged : f.tag = some tag) (taken : Tag.isIgnored tag = false) :
    (Record.lone recs ident name f type).HasSingle { f with role := .bound type } type tag :=
  ⟨rfl, rfl, tagged, taken⟩

/-! ## What a descriptor carries -/

namespace ParamDescriptor.Lawful

variable {d : ParamDescriptor} (lawful : d.Lawful)

include lawful

/-- The kind of a field with a range has neither a length nor a pattern. -/
theorem range_alone (ranged : d.tags.contains Tag.rangeKey = true) :
    d.tags.contains Tag.lengthKey = false ∧ d.tags.contains Tag.patternKey = false := by
  rcases lawful.range ranged with ⟨c, numeric, kind⟩
  have other : c ≠ .text := by
    rintro rfl
    simp at numeric
  constructor
  · refine Bool.eq_false_iff.mpr fun long => ?_
    rcases kind with kind | kind <;> simpa [kind, other] using lawful.length long
  · refine Bool.eq_false_iff.mpr fun patterned => ?_
    rcases kind with kind | kind <;> simpa [kind, other] using lawful.pattern patterned

/-- A body has no constraint on its value. -/
theorem body_free (body : d.position = .body) :
    d.tags.contains Tag.rangeKey = false ∧ d.tags.contains Tag.lengthKey = false ∧
      d.tags.contains Tag.patternKey = false := by
  rcases lawful.body.mpr body with ⟨target, kind⟩
  refine ⟨Bool.eq_false_iff.mpr fun ranged => ?_, Bool.eq_false_iff.mpr fun long => ?_,
    Bool.eq_false_iff.mpr fun patterned => ?_⟩
  · rcases lawful.range ranged with ⟨c, -, same⟩
    simp [kind] at same
  · simpa [kind] using lawful.length long
  · simpa [kind] using lawful.pattern patterned

end ParamDescriptor.Lawful

namespace Schema

section

variable {mapper : NameMapper} {api tag : String} {kind : Kind} {leaf : Leaf} {d : ParamDescriptor}

/-- Completing the tag of a field changes nothing about the cap and the constraints, and enters the
pattern beside it. -/
theorem declared_placedTags (position : Position) (f : Field) (tag : String) :
    let completed := placedTags position (fieldTags f tag)
    completed.get? Tag.capKey = (Tag.parse tag).get? Tag.capKey ∧
      completed.contains Tag.rangeKey = (Tag.parse tag).contains Tag.rangeKey ∧
      completed.contains Tag.lengthKey = (Tag.parse tag).contains Tag.lengthKey ∧
      completed.get? Tag.patternKey = f.pattern.or ((Tag.parse tag).get? Tag.patternKey) := by
  refine ⟨get?_placedTags_of_ne _ _ _ _ rfl rfl rfl, ?_, ?_, ?_⟩
  · exact congrArg Option.isSome (get?_placedTags_of_ne _ _ _ _ rfl rfl rfl)
  · exact congrArg Option.isSome (get?_placedTags_of_ne _ _ _ _ rfl rfl rfl)
  · rw [get?_placedTags _ _ _ rfl rfl, if_pos BEq.rfl]

/-- A tag that a field has been described with is carriable. -/
theorem Describes.carriable [Pattern.Engine] (described : Describes mapper api kind leaf tag d) :
    Tag.Carriable (Tag.parse tag) leaf.field.pattern := by
  rcases declared_placedTags d.position leaf.field tag with ⟨cap, range, length, pattern⟩
  rw [← described.tagged] at cap range length pattern
  have lawful := described.lawful
  have free : d.tags.contains Tag.patternKey = false →
      leaf.field.pattern.or ((Tag.parse tag).get? Tag.patternKey) = none := by
    intro absent
    rw [← pattern]
    exact Option.not_isSome_iff_eq_none.mp (Bool.eq_false_iff.mp absent)
  refine ⟨?_, fun ranged => ?_, fun body => ?_⟩
  · have capped := described.capped
    rw [TagMap.cap?, cap] at capped
    exact capped
  · rcases lawful.range_alone (range.trans ranged) with ⟨long, patterned⟩
    exact ⟨length.symm.trans long, free patterned⟩
  · have position : readPosition (Tag.parse tag) = .ok .body := by
      rw [readPosition, body]
      rfl
    have read := described.positioned
    rw [readPosition_fieldTags, position] at read
    rcases lawful.body_free (Except.ok.inj read).symm with ⟨ranged, long, patterned⟩
    exact ⟨range.symm.trans ranged, length.symm.trans long, free patterned⟩

end

/-! ## A type for every carriable tag -/

/-- A type whose fields can have what a carriable tag demands. -/
def carrier (position : Position) (tags : TagMap) : WireType :=
  if position = .body then .body ⟨"", .any⟩
  else if tags.contains Tag.rangeKey then .scalar (.int .int64) else .scalar .text

variable {tags : TagMap} {pattern : Option String} {position : Position}

theorem checkKind_scalar {c : ScalarClass} (other : position ≠ .body) :
    checkKind (.scalar c) position = .ok () := by
  simp only [checkKind, Except.bind_eq_ok_iff, demand_eq_ok_iff, exists_const]
  simp [Kind.isFile, Kind.isBody, Kind.isCompound, other]

theorem checkKind_carrier (recs : Records) (position : Position) (tags : TagMap) :
    checkKind (recs.kindOf (carrier position tags)) position = .ok () := by
  unfold carrier
  split
  · rename_i body
    rw [body]
    rfl
  · rename_i other
    split
    · exact checkKind_scalar other
    · exact checkKind_scalar other

/-- The carrier of a tag can have the constraints of its carriable tag, as registration completes
it. -/
theorem checkConstraints_carrier (recs : Records) {completed : TagMap}
    (carriable : Tag.Carriable tags pattern)
    (body : position = .body → tags.get? Tag.positionKey = some Position.body.name)
    (range : completed.contains Tag.rangeKey = tags.contains Tag.rangeKey)
    (length : completed.contains Tag.lengthKey = tags.contains Tag.lengthKey)
    (patterned : completed.get? Tag.patternKey = pattern.or (tags.get? Tag.patternKey)) :
    checkConstraints (recs.kindOf (carrier position tags)) completed = .ok () := by
  have free : pattern.or (tags.get? Tag.patternKey) = none →
      completed.contains Tag.patternKey = false := by
    intro absent
    rw [TagMap.contains, patterned, absent, Option.isSome_none]
  simp only [checkConstraints, Except.bind_eq_ok_iff, demand_eq_ok_iff, exists_const, range, length]
  unfold carrier
  split
  · rename_i isBody
    rcases carriable.body (body isBody) with ⟨noRange, noLength, noPattern⟩
    simp [noRange, noLength, free noPattern]
  · split
    · rename_i ranged
      rcases carriable.range ranged with ⟨noLength, noPattern⟩
      simp only [noLength, free noPattern]
      exact ⟨rfl, Bool.or_true _, rfl⟩
    · rename_i noRange
      rw [Bool.eq_false_iff.mpr noRange]
      have text : (recs.kindOf (.scalar .text)).constrained.isText = true := rfl
      simp [text]

/-- A position that is read is named. -/
theorem get?_of_readPosition (read : readPosition tags = .ok position) :
    tags.get? Tag.positionKey = some position.name := by
  unfold readPosition at read
  split at read
  · rename_i named
    cases read
    cases declared : tags.get? Tag.positionKey with
    | none =>
      have nameless : Position.ofName? "" = none := by decide
      rw [declared, Option.getD_none, nameless] at named
      cases named
    | some name =>
      rw [declared, Option.getD_some] at named
      have same := List.find?_some (p := fun q : Position => q.name == name) named
      rw [beq_iff_eq.mp same]
  · cases read

/-- A field of the carrier's type can be described with a carriable tag whose position and
constraints can be read. -/
theorem exists_describes_carrier [Pattern.Engine] {f : Field} {tag : String} {v : Validator}
    (recs : Records) (mapper : NameMapper) (api : String) (exported : f.exported = true)
    (carriable : Tag.Carriable (Tag.parse tag) f.pattern)
    (read : readPosition (Tag.parse tag) = .ok position)
    (compiled : Validator.compile (Tag.parse tag) f.pattern = .ok v) :
    ∃ d, Describes mapper api (recs.kindOf (carrier position (Tag.parse tag)))
      ⟨[0], f, carrier position (Tag.parse tag)⟩ tag d := by
  have kindFits := checkKind_carrier recs position (Tag.parse tag)
  have notPointer : (recs.kindOf (carrier position (Tag.parse tag))).isPointer = false := by
    unfold carrier
    split
    · rfl
    · split <;> rfl
  rcases declared_placedTags position f tag with ⟨cap, range, length, pattern⟩
  have body : position = .body →
      (Tag.parse tag).get? Tag.positionKey = some Position.body.name := by
    rintro rfl
    exact get?_of_readPosition read
  have constraintsFit := checkConstraints_carrier recs carriable body range length pattern
  have capped := carriable.cap
  rw [TagMap.cap?, ← cap] at capped
  rw [← readPosition_fieldTags f tag] at read
  rw [← compile_placedTags position f tag] at compiled
  generalize recs.kindOf (carrier position (Tag.parse tag)) = kind at *
  exact ⟨{ api, position, tags := placedTags position (fieldTags f tag), validator := v, kind
           name := wireName mapper f (placedTags position (fieldTags f tag)) position
           field := f.name
           required := isRequired (placedTags position (fieldTags f tag))
           isFile := kind.isFile
           path := [0]
           customError := (placedTags position (fieldTags f tag)).get? Tag.errorKey },
    notPointer, exported, read, kindFits, rfl, constraintsFit, capped, compiled, rfl⟩

end Schema

namespace Command

/-- A tag names a position for the command line exactly when it does for registration. -/
theorem positionOf_eq_ok_iff {tags : TagMap} {position : Position} :
    positionOf tags = .ok position ↔ Schema.readPosition tags = .ok position := by
  refine ⟨fun found => ?_, positionOf_of_readPosition⟩
  unfold positionOf at found
  cases declared : tags.get? Tag.positionKey with
  | none =>
    rw [declared] at found
    cases found
  | some name =>
    simp only [declared] at found
    split at found
    · rename_i named
      cases found
      simp only [Schema.readPosition, declared, Option.getD_some, named]
    · cases found

/-- What the command line has checked when it accepts a tag that is not ignored. -/
theorem inspectTag_eq_ok [Pattern.Engine] {tag : String} {pattern : Option String} {report : Json}
    (inspected : inspectTag tag pattern = .ok report) (counts : report.member? "ignored" = none) :
    Tag.isIgnored tag = false ∧
      (∃ position, Schema.readPosition (Tag.parse tag) = .ok position) ∧
      ∃ v, Validator.compile (Tag.parse tag) pattern = .ok v := by
  unfold inspectTag at inspected
  split at inspected
  · cases inspected
    rw [Json.member?_ofMembers] at counts
    cases counts
  · rename_i taken
    simp only [Except.bind_eq_ok_iff, Except.mapError_eq_ok_iff] at inspected
    rcases inspected with ⟨position, found, v, compiled, -⟩
    exact ⟨Bool.eq_false_iff.mpr taken, ⟨position, positionOf_eq_ok_iff.mp found⟩, v, compiled⟩

/-- Let the command line accept a tag with a pattern beside it, and not report it as ignored. Then
there is a type with which any exported field that has the tag and the pattern can be registered,
as the one field of a record, exactly when the tag is carriable. -/
theorem registers_iff_carriable [Pattern.Engine] {tag : String} {pattern : Option String}
    {report : Json} (inspected : inspectTag tag pattern = .ok report)
    (counts : report.member? "ignored" = none) {f : Field} (tagged : f.tag = some tag)
    (beside : f.pattern = pattern) (exported : f.exported = true) (registry : Registry)
    (recs : Records) (options : RegisterOptions) (template : Option Value) (ident name : String) :
    (∃ type api, (registry.register recs options template
        (Record.lone recs ident name f type)).1 = .ok api) ↔
      Tag.Carriable (Tag.parse tag) pattern := by
  subst beside
  rcases inspectTag_eq_ok inspected counts with ⟨taken, ⟨position, read⟩, v, compiled⟩
  constructor
  · rintro ⟨type, api, registered⟩
    have single := Record.hasSingle_lone recs ident name type tagged taken
    rcases (Registry.register_single_eq_ok_iff single).mp registered with ⟨d, described, -⟩
    exact described.carriable
  · intro carriable
    let type := Schema.carrier position (Tag.parse tag)
    have single := Record.hasSingle_lone recs ident name type tagged taken
    rcases Schema.exists_describes_carrier (f := { f with role := .bound type }) recs
      options.mapper name exported carriable read compiled with ⟨d, described⟩
    exact ⟨type, _, (Registry.register_single_eq_ok_iff single).mpr ⟨d, described, rfl⟩⟩

theorem exists_report_of_accepts [Pattern.Engine] {tag : String} {pattern : Option String}
    (accepts : (inspectTag tag pattern).toOption.any (fun report =>
      (report.member? "ignored").isNone) = true) :
    ∃ report, inspectTag tag pattern = .ok report ∧ report.member? "ignored" = none := by
  cases inspected : inspectTag tag pattern with
  | error failure =>
    rw [inspected] at accepts
    cases accepts
  | ok report =>
    rw [inspected] at accepts
    exact ⟨report, rfl, Option.isNone_iff_eq_none.mp accepts⟩

/-- A short word from a header, in a record with a cap. -/
theorem registers_iff_carriable_word :
    let tag := "<in:header> <len:1:8> <maxmb:2>"
    let f : Field := { name := "word", tag := some tag, role := .unbound none }
    (∃ report, inspectTag tag none = .ok report ∧ report.member? "ignored" = none) ∧
      ∃ type api, (({} : Registry).register {} { mapper := id, decoder := fun _ => none } none
        (Record.lone {} "Word" "Word" f type)).1 = .ok api := by
  intro tag f
  have inspected : ∃ report, inspectTag tag none = .ok report ∧ report.member? "ignored" = none :=
    exists_report_of_accepts (by decide +kernel)
  have carriable : Tag.Carriable (Tag.parse tag) none := by
    refine ⟨.inr ⟨1, by decide +kernel⟩, fun ranged => ?_, fun body => ?_⟩
    · exact absurd ranged (by decide +kernel)
    · exact absurd body (by decide +kernel)
  rcases inspected with ⟨report, inspected, counts⟩
  exact ⟨⟨report, inspected, counts⟩, (registers_iff_carriable inspected counts (f := f) rfl rfl rfl
    {} {} _ none "Word" "Word").mpr carriable⟩

/-- The command line accepts a tag whose cap is no positive number, and does not report it as
ignored, though no field of any type can be registered with it. -/
theorem inspectTag_cap_zero :
    let tag := "<in:query> <maxmb:0>"
    (∃ report, inspectTag tag none = .ok report ∧ report.member? "ignored" = none) ∧
      ∀ (registry : Registry) (recs : Records) (options : RegisterOptions)
        (template : Option Value) (r : Record) (f : Field) (type : WireType),
        r.HasSingle f type tag → f.pattern = none →
          ∀ api, (registry.register recs options template r).1 ≠ .ok api := by
  intro tag
  refine ⟨exists_report_of_accepts (by decide +kernel), ?_⟩
  intro registry recs options template r f type single beside api registered
  rcases (Registry.register_single_eq_ok_iff single).mp registered with ⟨d, described, -⟩
  rcases described.carriable.cap with absent | ⟨n, cap⟩
  · exact absurd absent (by decide +kernel)
  · have zero : (Tag.parse tag).cap? = some 0 := by decide +kernel
    cases zero.symm.trans cap

end Command

end RequestBinding
