import RequestBinding.Proofs.Schema.Registration

/-!
# Records with one field

A record with one field that takes part is registered exactly when the field can be described alone
(`Registry.register_single_eq_ok_iff`): there is nothing that its position could clash with.
-/

namespace RequestBinding

/-- The record has one field, which takes values of the type as the tag says. -/
structure Record.HasSingle (r : Record) (f : Field) (type : WireType) (tag : String) : Prop where
  fields : r.fields = .field f .nil
  role : f.role = .bound type
  tagged : f.tag = some tag
  taken : Tag.isIgnored tag = false

namespace Record.HasSingle

variable {r : Record} {f : Field} {type : WireType} {tag : String} (single : r.HasSingle f type tag)

include single

theorem leaves : r.fields.leaves = [⟨[0], f, type⟩] := by
  rw [single.fields]
  simp only [FieldTable.leaves, FieldTable.leavesFrom, single.role, List.nil_append]

theorem takenTag? : Schema.takenTag? ⟨[0], f, type⟩ = some tag := by
  simp only [Schema.takenTag?, single.tagged, Option.filter_some, single.taken, Bool.not_false,
    if_true]

end Record.HasSingle

namespace Registry

variable [Pattern.Engine] {registry : Registry} {recs : Records} {options : RegisterOptions}
  {template : Option Value} {r : Record} {api : ParamsApi}

/-- What has been walked without fault is registered. -/
theorem register_of_walked {params : List ParamDescriptor} {claims : Schema.Claims}
    (walked : Schema.walkRecord recs options.mapper r = (params, .ok claims)) :
    (registry.register recs options template r).1 =
      .ok (assemble recs registry.settings options template r ⟨params, claims.cap⟩) := by
  unfold register Schema.build
  rw [walked]
  rfl

/-- A record with one field is registered when the field can be described. -/
theorem register_single_eq_ok_iff {f : Field} {type : WireType} {tag : String}
    (single : r.HasSingle f type tag) :
    (registry.register recs options template r).1 = .ok api ↔
      ∃ d, Schema.Describes options.mapper r.name (recs.kindOf type) ⟨[0], f, type⟩ tag d ∧
        api = assemble recs registry.settings options template r ⟨[d], d.tags.cap?⟩ := by
  have taken : Schema.taken r.fields.leaves = [⟨[0], f, type⟩] := by
    rw [single.leaves, Schema.taken_cons_of_some single.takenTag?]
    rfl
  constructor
  · intro registered
    obtain ⟨params, claims, walked, rfl⟩ := register_eq_ok registered
    obtain ⟨represented, -, rfl⟩ := Schema.walkRecord_eq_ok_iff.mp walked
    rw [taken] at represented
    obtain ⟨d, _, first, none, rfl⟩ := List.forall₂_cons_left_iff.mp represented
    obtain rfl := List.forall₂_nil_left_iff.mp none
    obtain ⟨own, takes, described⟩ := first
    obtain rfl := Option.some.inj (takes.symm.trans single.takenTag?)
    refine ⟨d, described, ?_⟩
    simp only [List.foldl_cons, List.foldl_nil, Schema.Claims.join, Schema.Claims.ofParam,
      Option.merge_none_left]
  · rintro ⟨d, described, rfl⟩
    have represented : List.Forall₂ (Schema.Represents recs options.mapper r.name)
        (Schema.taken r.fields.leaves) [d] := by
      rw [taken]
      exact .cons ⟨tag, single.takenTag?, described⟩ .nil
    have walked := Schema.walkRecord_eq_ok_iff.mpr
      ⟨represented, List.pairwise_singleton _ d, rfl⟩
    rw [register_of_walked walked]
    simp only [List.foldl_cons, List.foldl_nil, Schema.Claims.join, Schema.Claims.ofParam,
      Option.merge_none_left]

end Registry

end RequestBinding
