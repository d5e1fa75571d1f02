import Mathlib.Data.List.Pairwise
import RequestBinding.Pattern.Dialect
import RequestBinding.Proofs.Schema.Walk

/-!
# What a built record promises

The checks of a record are spread over its fields, and some look at all fields together.
`Schema.build_params_lawful` says what they come to for the whole list of descriptors: each
descriptor stands for a field that can be bound and keeps the rules for descriptors by themselves
(`ParamDescriptor.Lawful`), at most one takes the body and none does beside the form, and the cap of
the form is the largest that any field declares.
-/

namespace RequestBinding

/-- The rules for a descriptor by itself: its position has values of its kind, its constraints are
about its kind, its cap is a positive number, and it is required where a constraint could not hold
without a value. -/
structure ParamDescriptor.Lawful (d : ParamDescriptor) : Prop where
  file : d.kind = .file ∨ d.kind = .seq .file → d.position = .formData
  cookie : d.kind = .cookie → d.position = .cookie
  body : (∃ target, d.kind = .body target) ↔ d.position = .body
  compound : (∃ name, d.kind = .record name) ∨ (∃ key value, d.kind = .map key value) →
    d.position = .query ∨ d.position = .formData
  length : d.tags.contains Tag.lengthKey = true →
    d.kind = .scalar .text ∨ d.kind = .seq (.scalar .text) ∨ d.kind = .bytes
  pattern : d.tags.contains Tag.patternKey = true →
    d.kind = .scalar .text ∨ d.kind = .seq (.scalar .text)
  range : d.tags.contains Tag.rangeKey = true →
    ∃ c ∈ [ScalarClass.int, .uint, .float], d.kind = .scalar c ∨ d.kind = .seq (.scalar c)
  cap : d.tags.contains Tag.capKey = true → ∃ n, d.tags.cap? = some n ∧ 0 < n
  required : d.position = .path ∨ d.tags.contains Tag.nonzeroKey = true ∨
    d.tags.contains Tag.rangeKey = true → d.required = true

namespace Kind

theorem constrained_isText_iff {k : Kind} :
    k.constrained.isText = true ↔ k = .scalar .text ∨ k = .seq (.scalar .text) := by
  have text : ∀ k : Kind, k.isText = true ↔ k = .scalar .text := by
    intro k
    cases k with
    | scalar c => cases c <;> simp [isText]
    | _ => simp [isText]
  cases k with
  | seq item => simp [constrained, item?, text]
  | _ => simp [constrained, item?, text]

theorem constrained_isNumeric_iff {k : Kind} :
    k.constrained.isNumeric = true ↔
      ∃ c ∈ [ScalarClass.int, .uint, .float], k = .scalar c ∨ k = .seq (.scalar c) := by
  have numeric : ∀ k : Kind, k.isNumeric = true ↔
      ∃ c ∈ [ScalarClass.int, .uint, .float], k = .scalar c := by
    intro k
    cases k with
    | scalar c => cases c <;> simp [isNumeric]
    | _ => simp [isNumeric]
  cases k with
  | seq item => simp [constrained, item?, numeric]
  | _ => simp [constrained, item?, numeric]

end Kind

namespace Schema

/-- A range is never declared by an empty text. -/
theorem range_nonempty_of_compile [Pattern.Engine] {tags : TagMap} {pattern : Option String}
    {v : Validator} (compiled : Validator.compile tags pattern = .ok v)
    (declared : tags.contains Tag.rangeKey = true) :
    (tags.get? Tag.rangeKey).any (!·.isEmpty) = true := by
  obtain ⟨tuple, found⟩ := Option.isSome_iff_exists.mp declared
  unfold Validator.compile at compiled
  simp only [Except.bind_eq_ok_iff] at compiled
  obtain ⟨bounds, read, _⟩ := compiled
  rw [Validator.readBounds, found] at read
  rw [found, Option.any_some, Bool.not_eq_true']
  by_contra blank
  obtain rfl : tuple = "" := by simpa using blank
  cases read

variable {recs : Records} {mapper : NameMapper}

/-- The positions of a kind that has values there. -/
theorem checkKind_eq_ok {kind : Kind} {p : Position} (fits : checkKind kind p = .ok ()) :
    (kind = .file ∨ kind = .seq .file → p = .formData) ∧ (kind = .cookie → p = .cookie) ∧
      ((∃ target, kind = .body target) ↔ p = .body) ∧
      ((∃ name, kind = .record name) ∨ (∃ key value, kind = .map key value) →
        p = .query ∨ p = .formData) := by
  simp only [checkKind, Except.bind_eq_ok_iff, demand_eq_ok_iff, Bool.or_eq_true, Bool.not_eq_true',
    beq_iff_eq, bne_iff_ne] at fits
  obtain ⟨_, file, _, cookie, _, body, compound⟩ := fits
  refine ⟨?_, fun same => cookie.resolve_left (fun other => other same), ?_, ?_⟩
  · rintro (rfl | rfl)
    · exact file.resolve_left Bool.noConfusion
    · exact file.resolve_left Bool.noConfusion
  · rw [← beq_iff_eq, ← body]
    cases kind <;> simp [Kind.isBody]
  · rintro (⟨name, rfl⟩ | ⟨key, value, rfl⟩)
    · exact compound.imp_left (·.resolve_left Bool.noConfusion)
    · exact compound.imp_left (·.resolve_left Bool.noConfusion)

/-- A field that can be described has a lawful descriptor. -/
theorem Describes.lawful [Pattern.Engine] {api : String} {kind : Kind} {leaf : Leaf}
    {tag : String} {d : ParamDescriptor} (described : Describes mapper api kind leaf tag d) :
    d.Lawful := by
  obtain rfl : kind = d.kind := by rw [described.made]
  obtain ⟨file, cookie, body, compound⟩ := checkKind_eq_ok described.kindFits
  have constraints := described.constraintsFit
  simp only [checkConstraints, Except.bind_eq_ok_iff, demand_eq_ok_iff, Bool.or_eq_true,
    Bool.not_eq_true', beq_iff_eq] at constraints
  obtain ⟨_, length, _, range, pattern⟩ := constraints
  have required : d.required = isRequired d.tags := by rw [described.made]
  refine ⟨file, cookie, body, compound, fun declared => ?_, fun declared => ?_, fun declared => ?_,
    fun declared => ?_, ?_⟩
  · rcases length with (absent | text) | bytes
    · exact absurd declared (Bool.eq_false_iff.mp absent)
    · exact (Kind.constrained_isText_iff.mp text).imp_right .inl
    · exact .inr (.inr bytes)
  · rcases pattern with absent | text
    · exact absurd declared (Bool.eq_false_iff.mp absent)
    · exact Kind.constrained_isText_iff.mp text
  · rcases range with absent | numeric
    · exact absurd declared (Bool.eq_false_iff.mp absent)
    · exact Kind.constrained_isNumeric_iff.mp numeric
  · rcases described.capped with absent | ⟨n, cap⟩
    · rw [TagMap.contains, absent] at declared
      cases declared
    · exact ⟨n + 1, cap, n.succ_pos⟩
  · rw [required, isRequired]
    rintro (position | nonzero | range)
    · have present : d.tags.contains Tag.requiredKey = true := by
        rw [described.tagged, placedTags, position]
        exact TagMap.contains_insert_self _ _ _
      rw [present, Bool.true_or, Bool.true_or]
    · rw [nonzero, Bool.or_true, Bool.true_or]
    · rw [range_nonempty_of_compile described.compiled range, Bool.or_true]

/-- The cap of joined claims is the largest of their caps. -/
theorem cap_foldl_join (params : List ParamDescriptor) (claims : Claims) :
    (params.foldl (fun c d => c.join (.ofParam d)) claims).cap =
      (claims.cap.toList ++ params.filterMap (·.tags.cap?)).max? := by
  induction params generalizing claims with
  | nil =>
    rw [List.foldl_nil]
    cases claims.cap <;> rfl
  | cons d rest ih =>
    rw [List.foldl_cons, ih]
    show ((claims.cap.merge max d.tags.cap?).toList ++ rest.filterMap (·.tags.cap?)).max? = _
    rw [List.filterMap_cons]
    cases d.tags.cap? with
    | none => rw [Option.merge_none_right]
    | some n =>
      cases claims.cap with
      | none => rfl
      | some m => rfl

/-- Of descriptors whose positions do not clash at most one takes the body. -/
theorem length_filter_body_le {params : List ParamDescriptor}
    (compatible : params.Pairwise fun d e => ¬ d.position.Clash e.position) :
    (params.filter (·.position == .body)).length ≤ 1 := by
  induction params with
  | nil => exact Nat.zero_le 1
  | cons d rest ih =>
    obtain ⟨apart, compatible⟩ := List.pairwise_cons.mp compatible
    rw [List.filter_cons]
    split
    · rename_i body
      have others : rest.filter (·.position == .body) = [] := by
        rw [List.filter_eq_nil_iff]
        intro e member body'
        have clash := apart e member
        rw [beq_iff_eq.mp body, beq_iff_eq.mp body'] at clash
        exact clash trivial
      rw [others]
      exact Nat.le_refl 1
    · exact ih compatible

theorem build_eq_ok_iff [Pattern.Engine] {r : Record} {built : Built} :
    build recs mapper r = .ok built ↔
      ∃ final, walkRecord recs mapper r = (built.params, .ok final) ∧
        built.cap = final.cap := by
  unfold build
  rcases walkRecord recs mapper r with ⟨params, outcome⟩
  simp only [Except.map_eq_ok_iff, Prod.mk.injEq]
  constructor
  · rintro ⟨final, rfl, rfl⟩
    exact ⟨final, ⟨rfl, rfl⟩, rfl⟩
  · rintro ⟨final, ⟨rfl, rfl⟩, cap⟩
    exact ⟨final, rfl, by rw [← cap]⟩

/-- A record that has been built has descriptors for fields that can be bound, with the kinds and
tags of these; each keeps the rules for descriptors by themselves. At most one takes the body, and
none does beside one that takes the form. The cap of the form is the largest that any of them
declares. -/
theorem build_params_lawful [Pattern.Engine] {r : Record} {built : Built}
    (success : build recs mapper r = .ok built) :
    (built.params.filter (·.position == .body)).length ≤ 1 ∧
      (∀ d ∈ built.params, ∀ e ∈ built.params, d.position = .body → e.position ≠ .formData) ∧
      (∀ d ∈ built.params, ∃ leaf ∈ r.fields.leaves, ∃ tag, takenTag? leaf = some tag ∧
        d.path = leaf.path ∧ d.field = leaf.field.name ∧ d.kind = recs.kindOf leaf.type ∧
        d.tags = placedTags d.position (fieldTags leaf.field tag) ∧
        leaf.field.exported = true ∧ ∀ inner, d.kind ≠ .pointer inner) ∧
      (∀ d ∈ built.params, d.Lawful) ∧
      built.cap = (built.params.filterMap (·.tags.cap?)).max? := by
  obtain ⟨final, walked, cap⟩ := build_eq_ok_iff.mp success
  obtain ⟨_, compatible, joined⟩ := walkRecord_eq_ok_iff.mp walked
  refine ⟨?_, ?_, fun d member => ?_, fun d member => ?_, ?_⟩
  · exact length_filter_body_le compatible
  · intro d memberD e memberE body form
    have different : d ≠ e := by
      rintro rfl
      cases body.symm.trans form
    have apart := compatible.forall memberD memberE different
    rw [body, form] at apart
    exact apart trivial
  · obtain ⟨leaf, own, tag, takes, described⟩ := exists_mem_leaves walked member
    refine ⟨leaf, own, tag, takes, ?_, ?_, ?_, described.tagged, described.exported, ?_⟩
    · rw [described.made]
    · rw [described.made]
    · rw [described.made]
    · intro inner same
      have pointer := described.notPointer
      rw [described.made] at same
      rw [show recs.kindOf leaf.type = .pointer inner from same] at pointer
      cases pointer
  · obtain ⟨_, _, _, _, described⟩ := exists_mem_leaves walked member
    exact described.lawful
  · rw [cap, joined, cap_foldl_join]
    rfl

/-- An upload: a picture for a member, and a caption that is a flattened record of its own. -/
def upload : Record :=
  let caption : FieldTable :=
    .field (.annotated "lines" (.seq (.scalar .text)) "<in:formData> <len:1:80> <maxmb:1>") .nil
  let fields : FieldTable :=
    .field (.annotated "member" (.scalar (.int .uint32)) "<in:path> <range:1:>")
      (.flattened "caption" "Caption" caption
        (.field (.annotated "picture" .file "<in:formData> <maxmb:8>") .nil))
  { ident := "Upload", name := "Upload", fields, zero := fields.zero {} }

theorem build_params_lawful_upload :
    ∃ built, build {} id upload = .ok built ∧ built.params.length = 3 ∧
      (∀ d ∈ built.params, d.Lawful) ∧
      (∀ d ∈ built.params, ∀ e ∈ built.params, d.position = .body → e.position ≠ .formData) ∧
      built.cap = (built.params.filterMap (·.tags.cap?)).max? ∧ built.cap = some 8 := by
  obtain ⟨built, success, counted, cap⟩ : ∃ built, build {} id upload = .ok built ∧
      built.params.length = 3 ∧ built.cap = some 8 := ⟨_, rfl, rfl, rfl⟩
  obtain ⟨_, exclusive, _, lawful, largest⟩ := build_params_lawful success
  exact ⟨built, success, counted, lawful, exclusive, largest, cap⟩

end Schema

end RequestBinding
