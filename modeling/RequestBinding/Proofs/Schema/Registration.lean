import RequestBinding.Proofs.Record.FieldPaths
import RequestBinding.Proofs.Schema.Walk
import RequestBinding.Schema.Registry

/-!
# What registration promises

A record that has been registered is found as it was registered (`Registry.find?_register`). Each
of its descriptors describes a leaf of the record (`Registry.registered_represents`). The
descriptors stand for the handles of the record, one by one, and take nothing from each other
(`Registry.registered_paired`).
-/

namespace RequestBinding

/-- What a derivation promises of a record: the fields that take part, and no others, have handles,
and the record begins with values of its own shape. -/
structure Record.Derived (r : Record) : Prop where
  handles : ∀ leaf ∈ r.fields.leaves, leaf.field.handled = (Schema.takenTag? leaf).isSome
  shape : r.fields.Fits r.zero

/-- Lists with the same images agree place by place. -/
theorem eq_of_mem_zip_of_map_eq {α β γ : Type} {f : α → γ} {g : β → γ} {l : List α} {m : List β}
    (same : l.map f = m.map g) : ∀ p ∈ l.zip m, f p.1 = g p.2 := by
  induction l generalizing m with
  | nil => exact fun _ none => absurd none List.not_mem_nil
  | cons a l ih =>
    cases m with
    | nil => cases same
    | cons b m =>
      rw [List.map_cons, List.map_cons, List.cons.injEq] at same
      intro p member
      rcases List.mem_cons.mp member with rfl | later
      · exact same.1
      · exact ih same.2 p later

namespace Registry

variable {registry : Registry} {recs : Records} {options : RegisterOptions}
  {template : Option Value} {r : Record} {api : ParamsApi}

/-- A template changes nothing about the descriptors but their examples. -/
theorem assemble_params {α : Type} {g : ParamDescriptor → α}
    (blind : ∀ d sample, g { d with sample } = g d) (settings : Settings) (built : Schema.Built) :
    (assemble recs settings options template r built).params.map g = built.params.map g := by
  cases template with
  | none => rfl
  | some v =>
    show (built.params.map fun d => { d with sample := sampleOf recs r v d }).map g = _
    rw [List.map_map]
    exact List.map_congr_left fun d _ => blind d _

theorem find?_put (api : ParamsApi) (apis : List ParamsApi) :
    (put api apis).find? (·.ident == api.ident) = some api := by
  induction apis with
  | nil =>
    have own : (api.ident == api.ident) = true := BEq.rfl
    rw [put, List.find?_cons, own]
  | cons other rest ih =>
    by_cases same : (other.ident == api.ident) = true
    · have own : (api.ident == api.ident) = true := BEq.rfl
      rw [put, if_pos same, List.find?_cons, own]
    · have passed : (other.ident == api.ident) = false := Bool.eq_false_iff.mpr same
      rw [put, if_neg same, List.find?_cons, passed]
      exact ih

variable [Pattern.Engine]

theorem register_eq_ok (registered : (registry.register recs options template r).1 = .ok api) :
    ∃ params claims, Schema.walkRecord recs options.mapper r = (params, .ok claims) ∧
      api = assemble recs registry.settings options template r ⟨params, claims.cap⟩ := by
  unfold register Schema.build at registered
  rcases walked : Schema.walkRecord recs options.mapper r with ⟨params, outcome⟩
  cases outcome with
  | error e =>
    simp only [walked] at registered
    cases registered
  | ok claims =>
    simp only [walked] at registered
    cases registered
    exact ⟨params, claims, rfl, rfl⟩

/-- The descriptors of a registered record are those of the walk, but for their examples. -/
theorem registered_walked (registered : (registry.register recs options template r).1 = .ok api) :
    ∃ params claims, Schema.walkRecord recs options.mapper r = (params, .ok claims) ∧
      api.params.map (fun d => { d with sample := none }) = params := by
  obtain ⟨params, claims, walked, rfl⟩ := register_eq_ok registered
  refine ⟨params, claims, walked, ?_⟩
  rw [assemble_params (fun _ _ => rfl)]
  refine (List.map_congr_left fun d there => ?_).trans (List.map_id params)
  obtain ⟨leaf, _, tag, _, described⟩ := Schema.exists_mem_leaves walked there
  rw [described.made]
  rfl

/-- Every descriptor of a registered record stands for a leaf that takes part. Its example is all
that it may have besides. -/
theorem registered_represents (registered : (registry.register recs options template r).1 = .ok api)
    {param : ParamDescriptor} (own : param ∈ api.params) :
    ∃ leaf ∈ r.fields.leaves,
      Schema.Represents recs options.mapper r.name leaf { param with sample := none } := by
  obtain ⟨params, claims, walked, rfl⟩ := registered_walked registered
  exact Schema.exists_mem_leaves walked (List.mem_map_of_mem own)

/-- Every leaf that takes part in a registered record has a descriptor that stands for it. -/
theorem registered_describes (registered : (registry.register recs options template r).1 = .ok api)
    {leaf : Leaf} (member : leaf ∈ r.fields.leaves) {tag : String}
    (taken : Schema.takenTag? leaf = some tag) :
    ∃ param ∈ api.params, Schema.Describes options.mapper r.name (recs.kindOf leaf.type) leaf tag
      { param with sample := none } := by
  obtain ⟨params, claims, walked, rfl⟩ := registered_walked registered
  obtain ⟨d, there, tag', takes, described⟩ :=
    Schema.exists_mem_params walked member (Option.isSome_iff_exists.mpr ⟨tag, taken⟩)
  obtain rfl := Option.some.inj (taken.symm.trans takes)
  obtain ⟨param, own, rfl⟩ := List.mem_map.mp there
  exact ⟨param, own, described⟩

/-- The descriptors of a registered record belong to its handles, one by one. -/
theorem registered_paths (derived : r.Derived)
    (registered : (registry.register recs options template r).1 = .ok api) :
    api.params.map (·.path) = r.fields.handles.map (·.path) := by
  obtain ⟨params, claims, walked, rfl⟩ := register_eq_ok registered
  have taken : r.fields.handles =
      r.fields.leaves.filter fun leaf => (Schema.takenTag? leaf).isSome :=
    (r.fields.handles_eq).trans (List.filter_congr derived.handles)
  rw [assemble_params (fun _ _ => rfl), taken]
  exact Schema.walkRecord_paths walked

/-- The descriptors of a registered record take nothing from each other. -/
theorem registered_compatible
    (registered : (registry.register recs options template r).1 = .ok api) :
    api.params.Pairwise fun d e => ¬ d.position.Clash e.position := by
  obtain ⟨params, claims, walked, rfl⟩ := register_eq_ok registered
  have compatible := (Schema.walkRecord_eq_ok_iff.mp walked).2.1
  have positions : (assemble recs registry.settings options template r
      ⟨params, claims.cap⟩).params.map (·.position) = params.map (·.position) :=
    assemble_params (fun _ _ => rfl) _ _
  rw [← List.pairwise_map (R := fun p q => ¬ Position.Clash p q)] at compatible ⊢
  rw [positions]
  exact compatible

/-- A record is found as it has been registered. -/
theorem find?_register (registered : (registry.register recs options template r).1 = .ok api) :
    (registry.register recs options template r).2.1.find? r.ident = some api := by
  obtain ⟨params, claims, walked, rfl⟩ := register_eq_ok registered
  unfold register Schema.build
  rw [walked]
  exact find?_put (assemble recs registry.settings options template r ⟨params, claims.cap⟩)
    registry.apis

theorem registered_name (registered : (registry.register recs options template r).1 = .ok api) :
    api.name = r.name := by
  obtain ⟨params, claims, _, rfl⟩ := register_eq_ok registered
  rfl

/-- The descriptors of a registered record with the leaves of their fields. -/
structure Paired (r : Record) (params : List ParamDescriptor)
    (todo : List (ParamDescriptor × Leaf)) : Prop where
  params : todo.map (·.1) = params
  path : ∀ p ∈ todo, p.1.path = p.2.path
  placed : ∀ p ∈ todo, r.fields.HasField p.2.path p.2.field
  typed : ∀ p ∈ todo, r.fields.typeAt? p.1.path = some p.2.type
  distinct : (todo.map (·.2.path)).Nodup
  compatible : todo.Pairwise fun p q => ¬ p.1.position.Clash q.1.position

theorem registered_counted (derived : r.Derived)
    (registered : (registry.register recs options template r).1 = .ok api) :
    r.fields.handles.length = api.params.length := by
  have lengths := congrArg List.length (registered_paths derived registered)
  rw [List.length_map, List.length_map] at lengths
  exact lengths.symm

theorem registered_paired (derived : r.Derived)
    (registered : (registry.register recs options template r).1 = .ok api) :
    Paired r api.params (api.params.zip r.fields.handles) := by
  have counted := registered_counted derived registered
  have params : (api.params.zip r.fields.handles).map (·.1) = api.params :=
    List.map_fst_zip (Nat.le_of_eq counted.symm)
  have handles : (api.params.zip r.fields.handles).map (·.2) = r.fields.handles :=
    List.map_snd_zip (Nat.le_of_eq counted)
  have path := eq_of_mem_zip_of_map_eq (registered_paths derived registered)
  have leaf : ∀ p ∈ api.params.zip r.fields.handles,
      r.fields.HasField p.2.path p.2.field ∧ p.2.field.role = .bound p.2.type := by
    intro p member
    have handle : p.2 ∈ r.fields.handles := handles ▸ List.mem_map_of_mem member
    rw [FieldTable.handles_eq] at handle
    exact FieldTable.hasField_of_mem_leaves (List.mem_filter.mp handle).1
  refine ⟨params, path, fun p member => (leaf p member).1, ?_, ?_, ?_⟩
  · intro p member
    obtain ⟨has, role⟩ := leaf p member
    rw [path p member, has.typeAt?, Field.boundType?, role]
  · have split : (api.params.zip r.fields.handles).map (·.2.path) =
        r.fields.handles.map (·.path) := by
      have paths := congrArg (List.map (·.path)) handles
      rwa [List.map_map] at paths
    rw [split]
    have kept : (r.fields.handles.map (·.path)).Sublist (r.fields.leaves.map (·.path)) := by
      rw [FieldTable.handles_eq]
      exact List.filter_sublist.map _
    exact kept.nodup r.fields.nodup_paths
  · have compatible := registered_compatible registered
    rw [← params, List.pairwise_map] at compatible
    exact compatible

end Registry

end RequestBinding
