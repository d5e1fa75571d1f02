import RequestBinding.Command.Inspect
import RequestBinding.Pattern.Dialect
import RequestBinding.Proofs.Json.Members
import RequestBinding.Proofs.Schema.Constraints
import RequestBinding.Proofs.Schema.SingleField

/-!
# The report on a tag

The command line reads a tag by itself and checks it as registration does. Registration first
completes the tag: it enters the pattern and the error text that stand beside it and, for a path,
the demand for a value. None of this changes what the tag says about its position
(`Schema.readPosition_fieldTags`), its constraints (`Schema.compile_placedTags`) or about being
required, but for the path, which the command line takes into account as well
(`Schema.isRequired_placedTags`). So the report on a tag with which a field has been registered says
what has been registered (`Command.inspectTag_of_registered`).
-/

namespace RequestBinding

namespace Command

/-- A tag that names a position for registration does so for the command line. -/
theorem positionOf_of_readPosition {tags : TagMap} {position : Position}
    (read : Schema.readPosition tags = .ok position) : positionOf tags = .ok position := by
  unfold Schema.readPosition at read
  split at read
  · rename_i named
    cases read
    unfold positionOf
    cases declared : tags.get? Tag.positionKey with
    | none =>
      have nameless : Position.ofName? "" = none := by decide
      rw [declared, Option.getD_none, nameless] at named
      cases named
    | some name =>
      rw [declared, Option.getD_some] at named
      simp only [named]
  · cases read

/-- Whatever the field of a record with one field may be: when the record has been registered, the
command line accepts the tag with the pattern beside it. It shows the position that has been
registered, whether a value must be supplied, and whether there is a constraint. -/
theorem inspectTag_of_registered [Pattern.Engine] {registry : Registry} {recs : Records}
    {options : RegisterOptions} {template : Option Value} {r : Record} {f : Field} {type : WireType}
    {tag : String} {api : ParamsApi} (single : r.HasSingle f type tag)
    (registered : (registry.register recs options template r).1 = .ok api) :
    ∃ param report, api.params = [param] ∧ inspectTag tag f.pattern = .ok report ∧
      report.member? "position" = some (.text param.position.name) ∧
      report.member? "required" = some (.bool param.required) ∧
      report.member? "constrained" = some (.bool !param.validator.isEmpty) := by
  obtain ⟨d, described, rfl⟩ := (Registry.register_single_eq_ok_iff single).mp registered
  obtain ⟨sample, params⟩ : ∃ sample,
      (Registry.assemble recs registry.settings options template r ⟨[d], d.tags.cap?⟩).params =
        [{ d with sample }] := by
    cases template with
    | none => exact ⟨d.sample, rfl⟩
    | some v => exact ⟨Registry.sampleOf recs r v d, rfl⟩
  have position : positionOf (Tag.parse tag) = .ok d.position :=
    positionOf_of_readPosition (Schema.readPosition_fieldTags f tag ▸ described.positioned)
  have compiled : Validator.compile (Tag.parse tag) f.pattern = .ok d.validator := by
    rw [← Schema.compile_placedTags d.position, ← described.tagged]
    exact described.compiled
  have required : d.required = (d.position == .path || Schema.isRequired (Tag.parse tag)) := by
    rw [described.made, ← Schema.isRequired_placedTags d.position f tag, ← described.tagged]
  obtain ⟨tags, name, reported⟩ : ∃ tags name, inspectTag tag f.pattern = .ok (.ofMembers
      [("tags", tags), ("position", .text d.position.name), ("name", name),
        ("required", .bool d.required), ("constrained", .bool !d.validator.isEmpty)]) := by
    rw [inspectTag, single.taken, if_neg Bool.false_ne_true]
    simp only [position, compiled, required]
    exact ⟨_, _, rfl⟩
  refine ⟨{ d with sample }, _, params, reported, ?_⟩
  simp only [Json.member?_ofMembers]
  exact ⟨rfl, rfl, rfl⟩

/-- A page, found by a name of small letters. -/
def page : Record :=
  let name : Field :=
    { name := "slug", tag := some "<in:path> <len:2:>", pattern := some "[a-z]+"
      role := .bound (.scalar .text) }
  { ident := "Page", name := "Page", fields := .field name .nil, zero := [.text ""] }

theorem inspectTag_of_registered_page :
    ∃ report, inspectTag "<in:path> <len:2:>" (some "[a-z]+") = .ok report ∧
      report.member? "position" = some (.text "path") ∧
      report.member? "required" = some (.bool true) ∧
      report.member? "constrained" = some (.bool true) := by
  have single : page.HasSingle _ (.scalar .text) "<in:path> <len:2:>" := ⟨rfl, rfl, rfl, by decide⟩
  let registration := ({} : Registry).register {} { mapper := id, decoder := fun _ => none } none
    page
  have made : registration.1.toOption.any (fun api => api.params.all fun param =>
      param.position == .path && param.required && !param.validator.isEmpty) = true := by
    decide +kernel
  cases registered : registration.1 with
  | error e =>
    rw [registered] at made
    cases made
  | ok api =>
    obtain ⟨param, report, params, reported, position, required, constrained⟩ :=
      inspectTag_of_registered single registered
    rw [registered, Except.toOption, Option.any_some, params, List.all_cons, List.all_nil,
      Bool.and_true] at made
    simp only [Bool.and_eq_true, beq_iff_eq] at made
    rw [made.1.1] at position
    rw [made.1.2] at required
    rw [made.2] at constrained
    exact ⟨report, reported, position, required, constrained⟩

end Command

end RequestBinding
