import Mathlib.Data.List.Perm.Basic
import RequestBinding.Pattern.Dialect
import RequestBinding.Proofs.Record.FieldPaths
import RequestBinding.Proofs.Schema.Walk

/-!
# The arrangement of fields

Registration looks at the fields of a record one after the other, those of flattened records where
the record stands, and each field is tested against those before it only. `Schema.build_arrangement`
says that the arrangement matters no more than it should: a flattened record can be replaced by its
fields without any difference but in the paths (`FieldTable.Splices`), and whether a record is
accepted, with which descriptors and which cap, does not depend on the order of its fields or on
which of them stand in flattened records.

For the first part, the path of a leaf goes into its descriptor and nowhere else
(`Schema.walkLeaves_unplaced`). For the second, a walk that succeeds has tested every pair of
positions, and positions clash in both directions (`Schema.walkLeaves_perm`).
-/

namespace RequestBinding

/-! ## Tables with the same fields -/

namespace FieldTable

/-- The fields of one table before those of another. -/
def append : FieldTable → FieldTable → FieldTable
  | .nil, back => back
  | .field f rest, back => .field f (rest.append back)
  | .flattened name ident inner rest, back => .flattened name ident inner (rest.append back)

/-- The second table is the first with the fields of one flattened record in its place. -/
inductive Splices : FieldTable → FieldTable → Prop
  | here (name ident : String) (inner rest : FieldTable) :
    Splices (.flattened name ident inner rest) (inner.append rest)
  | later {f : Field} {rest spliced : FieldTable} (splices : Splices rest spliced) :
    Splices (.field f rest) (.field f spliced)
  | inside {name ident : String} {inner spliced rest : FieldTable}
    (splices : Splices inner spliced) :
    Splices (.flattened name ident inner rest) (.flattened name ident spliced rest)
  | past {name ident : String} {inner rest spliced : FieldTable} (splices : Splices rest spliced) :
    Splices (.flattened name ident inner rest) (.flattened name ident inner spliced)

/-- The fields that take values, in order, wherever they stand. -/
def takers : FieldTable → List Field
  | .nil => []
  | .field f rest =>
    match f.role with
    | .bound _ => f :: rest.takers
    | .unbound _ => rest.takers
  | .flattened _ _ inner rest => inner.takers ++ rest.takers

theorem map_field_leavesFrom (table : FieldTable) (lead : FieldPath) (index : Nat) :
    (table.leavesFrom lead index).map (·.field) = table.takers := by
  induction table generalizing lead index with
  | nil => rfl
  | field f rest ih =>
    unfold leavesFrom takers
    cases f.role with
    | bound type => exact congrArg (f :: ·) (ih lead (index + 1))
    | unbound type? => exact ih lead (index + 1)
  | flattened name ident inner rest ihInner ihRest =>
    rw [leavesFrom, takers, List.map_append, ihInner, ihRest]

theorem map_field_leaves (table : FieldTable) : table.leaves.map (·.field) = table.takers :=
  map_field_leavesFrom table [] 0

theorem takers_append (front back : FieldTable) :
    (front.append back).takers = front.takers ++ back.takers := by
  induction front with
  | nil => rfl
  | field f rest ih =>
    rw [append, takers, takers]
    cases f.role with
    | bound type => exact congrArg (f :: ·) ih
    | unbound type? => exact ih
  | flattened name ident inner rest _ ih =>
    rw [append, takers, takers, ih, List.append_assoc]

/-- A flattened record contributes the fields that stand in its place when it is spliced in. -/
theorem Splices.takers_eq {table spliced : FieldTable} (splices : table.Splices spliced) :
    spliced.takers = table.takers := by
  induction splices with
  | here name ident inner rest => exact takers_append inner rest
  | @later f rest spliced _ ih =>
    unfold takers
    rw [ih]
  | inside _ ih => rw [takers, takers, ih]
  | past _ ih => rw [takers, takers, ih]

end FieldTable

/-! ## Leaves without their paths -/

/-- The leaf without its path. -/
def Leaf.unplaced (leaf : Leaf) : Leaf :=
  { leaf with path := [] }

/-- The descriptor without its path. -/
def ParamDescriptor.unplaced (d : ParamDescriptor) : ParamDescriptor :=
  { d with path := [] }

/-- The unplaced leaf of a field that takes values. -/
def Field.leaf? (f : Field) : Option Leaf :=
  f.boundType?.map fun type => ⟨[], f, type⟩

/-- What is left of the leaves without their paths is in the fields. -/
theorem FieldTable.map_unplaced_leaves (table : FieldTable) :
    table.leaves.map Leaf.unplaced = (table.leaves.map (·.field)).filterMap Field.leaf? := by
  rw [List.filterMap_map, ← List.filterMap_eq_map]
  refine List.filterMap_congr fun leaf member => ?_
  obtain ⟨_, role⟩ := hasField_of_mem_leaves member
  simp only [Function.comp_apply, Field.leaf?, Field.boundType?, role, Option.map_some]
  rfl

namespace Schema

/-- What a walk comes to, without the paths. -/
def Walked.unplaced (walked : Walked) : Walked :=
  (walked.1.map ParamDescriptor.unplaced, walked.2)

/-- A built record without the paths of its descriptors. -/
def Built.unplaced (built : Built) : Built :=
  { built with params := built.params.map ParamDescriptor.unplaced }

variable {recs : Records} {mapper : NameMapper} {api : String}

theorem Walked.unplaced_andThen {next next' : Claims → Walked} (walked : Walked)
    (alike : ∀ claims, (next claims).unplaced = next' claims) :
    (walked.andThen next).unplaced = walked.unplaced.andThen next' := by
  obtain ⟨params, outcome⟩ := walked
  cases outcome with
  | error e => rfl
  | ok claims =>
    show ((params ++ (next claims).1).map ParamDescriptor.unplaced, (next claims).2) =
      (params.map ParamDescriptor.unplaced ++ (next' claims).1, (next' claims).2)
    rw [← alike claims, List.map_append]
    rfl

section

variable [Pattern.Engine]

/-- The path of a leaf goes into its descriptor and decides nothing. -/
theorem describe_unplaced (kind : Kind) (leaf : Leaf) (tag : String) (claims : Claims) :
    describe mapper api kind leaf.unplaced tag claims =
      (describe mapper api kind leaf tag claims).map fun made => (made.1.unplaced, made.2) := by
  unfold describe
  simp only [Except.map_bind]
  rfl

theorem walkLeaf_unplaced (leaf : Leaf) (claims : Claims) :
    walkLeaf recs mapper api leaf.unplaced claims =
      (walkLeaf recs mapper api leaf claims).unplaced := by
  have sameTag : takenTag? leaf.unplaced = takenTag? leaf := rfl
  have sameType : leaf.unplaced.type = leaf.type := rfl
  unfold walkLeaf
  rw [sameTag, sameType]
  cases takenTag? leaf with
  | none => rfl
  | some tag =>
    simp only [describe_unplaced]
    cases describe mapper api (recs.kindOf leaf.type) leaf tag claims with
    | error fault => rfl
    | ok made => rfl

theorem walkLeaves_unplaced (leaves : List Leaf) (claims : Claims) :
    walkLeaves recs mapper api (leaves.map Leaf.unplaced) claims =
      (walkLeaves recs mapper api leaves claims).unplaced := by
  induction leaves generalizing claims with
  | nil => rfl
  | cons leaf rest ih =>
    rw [List.map_cons, walkLeaves, walkLeaves, walkLeaf_unplaced]
    exact (Walked.unplaced_andThen _ fun claims => (ih claims).symm).symm

/-- What a record is built to, up to paths, is decided by its fields that take values. -/
theorem build_unplaced (recs : Records) (mapper : NameMapper) (r : Record) :
    (build recs mapper r).map Built.unplaced =
      let walked := walkLeaves recs mapper r.name (r.fields.takers.filterMap Field.leaf?) {}
      walked.2.map fun claims => ⟨walked.1, claims.cap⟩ := by
  rw [← FieldTable.map_field_leaves, ← FieldTable.map_unplaced_leaves, walkLeaves_unplaced]
  unfold build
  rw [walkRecord_eq]
  rcases walkLeaves recs mapper r.name r.fields.leaves {} with ⟨params, outcome⟩
  cases outcome with
  | error e => rfl
  | ok claims => rfl

end

/-! ## Leaves in another order -/

instance : RightCommutative fun (c : Claims) (d : ParamDescriptor) => c.join (.ofParam d) where
  right_comm claims d e := Claims.join_right_comm claims (.ofParam d) (.ofParam e)

section

variable [Pattern.Engine]

/-- Leaves that can be walked can be walked in every order, to the same descriptors in another
order and the same claims. -/
theorem walkLeaves_perm {leaves others : List Leaf} {claims final : Claims}
    {params : List ParamDescriptor} (reordered : others.Perm leaves)
    (walked : walkLeaves recs mapper api leaves claims = (params, .ok final)) :
    ∃ params', params'.Perm params ∧
      walkLeaves recs mapper api others claims = (params', .ok final) := by
  obtain ⟨represented, allowed, compatible, joined⟩ := walkLeaves_eq_ok_iff.mp walked
  have takenReordered : (taken others).Perm (taken leaves) := reordered.filter _
  obtain ⟨params', represented', reorderedParams⟩ :=
    List.perm_comp_forall₂ takenReordered represented
  refine ⟨params', reorderedParams, walkLeaves_eq_ok_iff.mpr ⟨represented', ?_, ?_, ?_⟩⟩
  · exact fun d member => allowed d (reorderedParams.mem_iff.mp member)
  · exact (reorderedParams.pairwise_iff (fun apart clash => apart clash.symm)).mpr compatible
  · rw [joined, reorderedParams.foldl_eq]

theorem build_perm (r r' : Record) {built : Built} (sameName : r'.name = r.name)
    (rearranged : r'.fields.takers.Perm r.fields.takers)
    (success : build recs mapper r = .ok built) :
    ∃ built', build recs mapper r' = .ok built' ∧
      (built'.params.map ParamDescriptor.unplaced).Perm
        (built.params.map ParamDescriptor.unplaced) ∧ built'.cap = built.cap := by
  have unplaced := build_unplaced recs mapper r
  have unplaced' := build_unplaced recs mapper r'
  rw [success] at unplaced
  rw [sameName] at unplaced'
  rcases walked : walkLeaves recs mapper r.name (r.fields.takers.filterMap Field.leaf?) {}
    with ⟨params, outcome⟩
  rw [walked] at unplaced
  cases outcome with
  | error e => cases unplaced
  | ok final =>
    obtain ⟨params', reordered, walked'⟩ := walkLeaves_perm (rearranged.filterMap _) walked
    rw [walked'] at unplaced'
    obtain ⟨built', success', same'⟩ := Except.map_eq_ok_iff.mp unplaced'
    obtain ⟨rfl, cap⟩ := Built.mk.inj (Except.ok.inj unplaced)
    obtain ⟨rfl, cap'⟩ := Built.mk.inj same'
    exact ⟨built', success', reordered, cap'.trans cap.symm⟩

/-- Flattening is transparent, and the order of fields decides nothing. With a flattened record
replaced by its fields, a record is built to the same error or to the same descriptors, except for
their paths, and the same cap. With its fields in any other arrangement it is accepted where it was
accepted before, with the same descriptors up to their order and paths and with the same cap. -/
theorem build_arrangement (recs : Records) (mapper : NameMapper) (r : Record) (table : FieldTable) :
    (r.fields.Splices table →
      (build recs mapper { r with fields := table }).map Built.unplaced =
        (build recs mapper r).map Built.unplaced) ∧
    ((table.leaves.map (·.field)).Perm (r.fields.leaves.map (·.field)) →
      ((build recs mapper { r with fields := table }).isOk = (build recs mapper r).isOk) ∧
      ∀ built built', build recs mapper r = .ok built →
        build recs mapper { r with fields := table } = .ok built' →
        (built'.params.map ParamDescriptor.unplaced).Perm
          (built.params.map ParamDescriptor.unplaced) ∧ built'.cap = built.cap) := by
  constructor
  · intro splices
    rw [build_unplaced, build_unplaced, splices.takers_eq]
  · intro rearranged
    rw [FieldTable.map_field_leaves, FieldTable.map_field_leaves] at rearranged
    have forward : ∀ built, build recs mapper r = .ok built → _ := fun built =>
      build_perm r { r with fields := table } rfl rearranged
    have backward : ∀ built', build recs mapper { r with fields := table } = .ok built' → _ :=
      fun built' => build_perm { r with fields := table } r rfl rearranged.symm
    constructor
    · cases first : build recs mapper r with
      | ok built =>
        obtain ⟨built', success', _⟩ := forward built first
        rw [success']
        rfl
      | error e =>
        cases second : build recs mapper { r with fields := table } with
        | error e' => rfl
        | ok built' =>
          obtain ⟨built, success, _⟩ := backward built' second
          cases first.symm.trans success
    · intro built built' success success'
      obtain ⟨other, another, same⟩ := forward built success
      obtain rfl := Except.ok.inj (success'.symm.trans another)
      exact same

end

/-- A complaint: its number, a flattened statement with a photo, and a signature. -/
def complaint : Record :=
  let statement : FieldTable :=
    .field (.annotated "text" (.scalar .text) "<in:formData> <len:1:>")
      (.field (.annotated "photo" .file "<in:formData> <maxmb:8>") .nil)
  let fields : FieldTable :=
    .field (.annotated "number" (.scalar (.int .uint32)) "<in:path>")
      (.flattened "statement" "Statement" statement
        (.field (.annotated "signature" .file "<in:formData> <maxmb:1>") .nil))
  { ident := "Complaint", name := "Complaint", fields, zero := fields.zero {} }

/-- The complaint with the statement spliced in. -/
def complaintSpliced : FieldTable :=
  .field (.annotated "number" (.scalar (.int .uint32)) "<in:path>")
    (.field (.annotated "text" (.scalar .text) "<in:formData> <len:1:>")
      (.field (.annotated "photo" .file "<in:formData> <maxmb:8>")
        (.field (.annotated "signature" .file "<in:formData> <maxmb:1>") .nil)))

/-- The complaint with its files first, in a flattened record of their own. -/
def complaintRegrouped : FieldTable :=
  let files : FieldTable :=
    .field (.annotated "signature" .file "<in:formData> <maxmb:1>")
      (.field (.annotated "photo" .file "<in:formData> <maxmb:8>") .nil)
  .flattened "files" "Files" files
    (.field (.annotated "text" (.scalar .text) "<in:formData> <len:1:>")
      (.field (.annotated "number" (.scalar (.int .uint32)) "<in:path>") .nil))

theorem build_arrangement_complaint :
    (build {} id { complaint with fields := complaintSpliced }).map Built.unplaced =
        (build {} id complaint).map Built.unplaced ∧
      ∃ built built', build {} id complaint = .ok built ∧
        build {} id { complaint with fields := complaintRegrouped } = .ok built' ∧
        built.params.length = 4 ∧ built'.cap = some 8 ∧
        (built'.params.map ParamDescriptor.unplaced).Perm
          (built.params.map ParamDescriptor.unplaced) ∧ built'.cap = built.cap := by
  have spliced : complaint.fields.Splices complaintSpliced := .later (.here _ _ _ _)
  have regrouped : (complaintRegrouped.leaves.map (·.field)).Perm
      (complaint.fields.leaves.map (·.field)) := by
    have reversed : complaintRegrouped.leaves.map (·.field) =
        (complaint.fields.leaves.map (·.field)).reverse := rfl
    rw [reversed]
    exact List.reverse_perm _
  obtain ⟨built, success, counted⟩ :
      ∃ built, build {} id complaint = .ok built ∧ built.params.length = 4 := ⟨_, rfl, rfl⟩
  obtain ⟨built', success', cap⟩ :
      ∃ built', build {} id { complaint with fields := complaintRegrouped } = .ok built' ∧
        built'.cap = some 8 := ⟨_, rfl, rfl⟩
  have same := (build_arrangement {} id complaint complaintRegrouped).2 regrouped
  exact ⟨(build_arrangement {} id complaint complaintSpliced).1 spliced, built, built', success,
    success', counted, cap, same.2 built built' success success'⟩

end Schema

end RequestBinding
