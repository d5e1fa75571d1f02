import Mathlib.Data.List.Forall2
import RequestBinding.Proofs.Schema.Description

/-!
# What a successful walk has checked

The walk over a table comes to the same as one along the list of its leaves
(`Schema.walkRecord_eq`). It succeeds exactly when every field that takes part can be described
alone and no two fields have positions that take something from each other; its claims are then
those of all fields together (`Schema.walkLeaves_eq_ok_iff`). The induction is on the leaves. The
claims so far are its invariant: they allow every position that is still to come.

Every field that takes part becomes one descriptor with the path of the field
(`Schema.walkRecord_paths`).
-/

namespace RequestBinding

/-- Every member of the one of two related lists is related to a member of the other. -/
theorem exists_of_mem_of_forall₂ {α β : Type} {R : α → β → Prop} {l : List α} {m : List β}
    (related : List.Forall₂ R l m) {a : α} (member : a ∈ l) : ∃ b ∈ m, R a b := by
  induction related with
  | nil => cases member
  | @cons _ b _ _ first _ ih =>
    rcases List.mem_cons.mp member with rfl | member
    · exact ⟨b, List.mem_cons_self, first⟩
    · obtain ⟨c, there, holds⟩ := ih member
      exact ⟨c, List.mem_cons_of_mem b there, holds⟩

namespace Schema

/-- The leaves that take part. -/
def taken (leaves : List Leaf) : List Leaf :=
  leaves.filter fun leaf => (takenTag? leaf).isSome

variable {recs : Records} {mapper : NameMapper} {api : String} {claims final : Claims}
  {leaf : Leaf} {rest leaves : List Leaf} {params : List ParamDescriptor}

theorem taken_cons_of_none (skipped : takenTag? leaf = none) :
    taken (leaf :: rest) = taken rest := by
  rw [taken, List.filter_cons, skipped]
  rfl

theorem taken_cons_of_some {tag : String} (takes : takenTag? leaf = some tag) :
    taken (leaf :: rest) = leaf :: taken rest := by
  rw [taken, List.filter_cons, takes]
  rfl

theorem Walked.andThen_assoc (walked : Walked) (next later : Claims → Walked) :
    (walked.andThen next).andThen later = walked.andThen fun c => (next c).andThen later := by
  obtain ⟨params, outcome⟩ := walked
  cases outcome with
  | error e => rfl
  | ok claims =>
    simp only [andThen]
    rcases next claims with ⟨others, outcome⟩
    cases outcome with
    | error e => rfl
    | ok claims => simp only [List.append_assoc]

variable [Pattern.Engine]

/-- The leaf takes part, and the descriptor describes it. -/
def Represents (recs : Records) (mapper : NameMapper) (api : String) (leaf : Leaf)
    (d : ParamDescriptor) : Prop :=
  ∃ tag, takenTag? leaf = some tag ∧ Describes mapper api (recs.kindOf leaf.type) leaf tag d

/-! ## Along the leaves -/

/-- Describes leaves in order. -/
def walkLeaves (recs : Records) (mapper : NameMapper) (api : String) :
    List Leaf → Claims → Walked
  | [], claims => ([], .ok claims)
  | leaf :: rest, claims =>
    (walkLeaf recs mapper api leaf claims).andThen (walkLeaves recs mapper api rest)

theorem walkLeaves_append (front back : List Leaf) (claims : Claims) :
    walkLeaves recs mapper api (front ++ back) claims =
      (walkLeaves recs mapper api front claims).andThen (walkLeaves recs mapper api back) := by
  induction front generalizing claims with
  | nil => rfl
  | cons leaf rest ih =>
    simp only [List.cons_append, walkLeaves, Walked.andThen_assoc]
    exact congrArg _ (funext ih)

theorem walk_eq (table : FieldTable) (lead : FieldPath) (index : Nat) (claims : Claims) :
    walk recs mapper api lead index table claims =
      walkLeaves recs mapper api (table.leavesFrom lead index) claims := by
  induction table generalizing lead index claims with
  | nil => rfl
  | field f rest ih =>
    unfold walk FieldTable.leavesFrom
    cases f.role with
    | bound type =>
      exact congrArg (Walked.andThen _) (funext (ih lead (index + 1)))
    | unbound type? => exact ih lead (index + 1) claims
  | flattened name ident inner rest ihInner ihRest =>
    rw [walk, FieldTable.leavesFrom, walkLeaves_append, ihInner]
    exact congrArg _ (funext (ihRest lead (index + 1)))

/-- The walk over a record describes its leaves in order. -/
theorem walkRecord_eq (r : Record) :
    walkRecord recs mapper r = walkLeaves recs mapper r.name r.fields.leaves {} :=
  walk_eq r.fields [] 0 {}

/-! ## Success -/

theorem walkLeaf_of_none (skipped : takenTag? leaf = none) :
    walkLeaf recs mapper api leaf claims = ([], .ok claims) := by
  unfold walkLeaf
  rw [skipped]

theorem walkLeaves_cons_of_none (skipped : takenTag? leaf = none) :
    walkLeaves recs mapper api (leaf :: rest) claims = walkLeaves recs mapper api rest claims := by
  rw [walkLeaves, walkLeaf_of_none skipped]
  rfl

/-- A leaf that takes part is described first, and the walk goes on with its claims. -/
theorem walkLeaves_cons_eq_ok_iff {tag : String} (takes : takenTag? leaf = some tag) :
    walkLeaves recs mapper api (leaf :: rest) claims = (params, .ok final) ↔
      ∃ d others, params = d :: others ∧ Describes mapper api (recs.kindOf leaf.type) leaf tag d ∧
        claims.Allows d.position ∧
        walkLeaves recs mapper api rest (claims.join (.ofParam d)) = (others, .ok final) := by
  rw [walkLeaves, walkLeaf]
  simp only [takes]
  constructor
  · intro walked
    cases described : describe mapper api (recs.kindOf leaf.type) leaf tag claims with
    | error fault =>
      simp only [described] at walked
      cases walked
    | ok made =>
      obtain ⟨d, claims'⟩ := made
      simp only [described, Walked.andThen] at walked
      obtain ⟨alone, allowed, rfl⟩ := describe_eq_ok_iff.mp described
      obtain ⟨rfl, done⟩ := Prod.mk.inj walked
      exact ⟨d, _, rfl, alone, allowed, Prod.ext rfl done⟩
  · rintro ⟨d, others, rfl, alone, allowed, later⟩
    simp only [describe_eq_ok_iff.mpr ⟨alone, allowed, rfl⟩, Walked.andThen]
    rw [later]
    rfl

/-- A walk succeeds exactly when every leaf that takes part can be described alone, no position
clashes with the claims before or with an earlier position, and then the claims are joined in
order. -/
theorem walkLeaves_eq_ok_iff :
    walkLeaves recs mapper api leaves claims = (params, .ok final) ↔
      List.Forall₂ (Represents recs mapper api) (taken leaves) params ∧
        (∀ d ∈ params, claims.Allows d.position) ∧
        (params.Pairwise fun d e => ¬ d.position.Clash e.position) ∧
        final = params.foldl (fun c d => c.join (.ofParam d)) claims := by
  induction leaves generalizing claims params with
  | nil =>
    constructor
    · intro walked
      cases walked
      exact ⟨.nil, fun _ none => absurd none List.not_mem_nil, .nil, rfl⟩
    · rintro ⟨represented, _, _, rfl⟩
      cases represented
      rfl
  | cons leaf rest ih =>
    cases takes : takenTag? leaf with
    | none => rw [taken_cons_of_none takes, walkLeaves_cons_of_none takes, ih]
    | some tag =>
      rw [taken_cons_of_some takes, walkLeaves_cons_eq_ok_iff takes]
      constructor
      · rintro ⟨d, others, rfl, alone, allowed, later⟩
        obtain ⟨represented, allowedOthers, compatible, rfl⟩ := ih.mp later
        have apart := fun e member => Claims.allows_join_iff.mp (allowedOthers e member)
        refine ⟨.cons ⟨tag, takes, alone⟩ represented, ?_,
          .cons (fun e member => (apart e member).2) compatible, rfl⟩
        intro e member
        rcases List.mem_cons.mp member with rfl | member
        · exact allowed
        · exact (apart e member).1
      · rintro ⟨represented, allowed, compatible, rfl⟩
        cases represented with
        | @cons _ d _ others first represented =>
          obtain ⟨_, sameTag, alone⟩ := first
          obtain rfl := Option.some.inj (takes.symm.trans sameTag)
          obtain ⟨apart, compatible⟩ := List.pairwise_cons.mp compatible
          refine ⟨d, others, rfl, alone, allowed d List.mem_cons_self,
            ih.mpr ⟨represented, fun e member => ?_, compatible, rfl⟩⟩
          exact Claims.allows_join_iff.mpr
            ⟨allowed e (List.mem_cons_of_mem d member), apart e member⟩

section

variable {r : Record}

/-- A record is walked without fault exactly when every field that takes part can be described
alone and no two of the descriptors clash. -/
theorem walkRecord_eq_ok_iff :
    walkRecord recs mapper r = (params, .ok final) ↔
      List.Forall₂ (Represents recs mapper r.name) (taken r.fields.leaves) params ∧
        (params.Pairwise fun d e => ¬ d.position.Clash e.position) ∧
        final = params.foldl (fun c d => c.join (.ofParam d)) {} := by
  rw [walkRecord_eq, walkLeaves_eq_ok_iff]
  exact and_congr_right fun _ => and_iff_right fun d _ => Claims.allows_initial d.position

/-- The descriptors stand for the fields that take part, in order. -/
theorem walkRecord_paths (walked : walkRecord recs mapper r = (params, .ok final)) :
    params.map (·.path) = (taken r.fields.leaves).map (·.path) := by
  have represented := (walkRecord_eq_ok_iff.mp walked).1
  have paths : List.Forall₂ (· = ·) (params.map (·.path))
      ((taken r.fields.leaves).map (·.path)) := by
    rw [List.forall₂_map_left_iff, List.forall₂_map_right_iff]
    refine (List.Forall₂.flip represented).imp fun d leaf represents => ?_
    obtain ⟨tag, _, alone⟩ := represents
    rw [alone.made]
  rwa [List.forall₂_eq_eq_eq] at paths

/-- Every leaf that takes part has a descriptor. -/
theorem exists_mem_params (walked : walkRecord recs mapper r = (params, .ok final))
    (member : leaf ∈ r.fields.leaves) (takes : (takenTag? leaf).isSome = true) :
    ∃ d ∈ params, Represents recs mapper r.name leaf d :=
  exists_of_mem_of_forall₂ (walkRecord_eq_ok_iff.mp walked).1 (List.mem_filter.mpr ⟨member, takes⟩)

/-- Every descriptor stands for a leaf. -/
theorem exists_mem_leaves (walked : walkRecord recs mapper r = (params, .ok final))
    {d : ParamDescriptor} (member : d ∈ params) :
    ∃ leaf ∈ r.fields.leaves, Represents recs mapper r.name leaf d := by
  have represented := (walkRecord_eq_ok_iff.mp walked).1
  obtain ⟨leaf, own, represents⟩ := exists_of_mem_of_forall₂ (List.Forall₂.flip represented) member
  exact ⟨leaf, (List.mem_filter.mp own).1, represents⟩

end

end Schema

end RequestBinding
