import RequestBinding.Proofs.Outcome
import RequestBinding.Proofs.Request.Readings
import RequestBinding.Proofs.Tag.Map
import RequestBinding.Schema.Build

/-!
# The description of single fields

When a field can be described, and how. A field is judged by itself (`Schema.Describes`), except
that its position must be allowed by the claims of the fields before it (`Claims.Allows`); what it
claims is then joined to theirs (`Schema.describe_eq_ok_iff`). It does not matter in which order
claims are joined (`Claims.join_right_comm`).
-/

namespace RequestBinding

/-! ## Tags -/

/-- The cap on the form payload that a tag declares, in mebibytes. -/
def TagMap.cap? (tags : TagMap) : Option Nat :=
  (tags.get? Tag.capKey).bind fun raw => Numeral.readWord? (Text.trimChars raw.toList)

theorem Position.Clash.symm {p q : Position} (clash : p.Clash q) : q.Clash p := by
  cases p with
  | body =>
    cases q with
    | body | formData => trivial
    | path | query | header | cookie => exact clash
  | formData =>
    cases q with
    | body => trivial
    | path | query | formData | header | cookie => exact clash
  | path | query | header | cookie => exact clash.elim

/-- Whether two descriptors take something from each other does not depend on their order. -/
instance : Std.Symm fun d e : ParamDescriptor => ¬ d.position.Clash e.position where
  symm _ _ apart clash := apart clash.symm

namespace Schema

/-! ## Claims -/

namespace Claims

/-- The claims so far allow a position. -/
structure Allows (claims : Claims) (p : Position) : Prop where
  beside_body : claims.body = true → ¬ Position.body.Clash p
  beside_form : claims.form = true → ¬ Position.formData.Clash p

/-- What two lots of fields have laid claim to together. -/
def join (a b : Claims) : Claims where
  form := a.form || b.form
  body := a.body || b.body
  cap := a.cap.merge max b.cap

/-- What a position lays claim to. -/
def ofPosition (p : Position) : Claims where
  form := p == .formData
  body := p == .body

/-- What the field of a descriptor lays claim to. -/
def ofParam (d : ParamDescriptor) : Claims :=
  { ofPosition d.position with cap := d.tags.cap? }

theorem join_right_comm (a b c : Claims) : (a.join b).join c = (a.join c).join b := by
  simp only [join, mk.injEq]
  exact ⟨by ac_rfl, by ac_rfl, by ac_rfl⟩

theorem allows_initial (p : Position) : Allows {} p where
  beside_body claimed := nomatch claimed
  beside_form claimed := nomatch claimed

theorem allows_formData_iff {claims : Claims} : claims.Allows .formData ↔ claims.body = false := by
  constructor
  · intro allowed
    exact Bool.eq_false_iff.mpr fun claimed => allowed.beside_body claimed trivial
  · intro free
    exact ⟨fun claimed => absurd (free.symm.trans claimed) Bool.false_ne_true,
      fun _ clash => clash⟩

theorem allows_body_iff {claims : Claims} :
    claims.Allows .body ↔ claims.form = false ∧ claims.body = false := by
  constructor
  · intro allowed
    exact ⟨Bool.eq_false_iff.mpr fun claimed => allowed.beside_form claimed trivial,
      Bool.eq_false_iff.mpr fun claimed => allowed.beside_body claimed trivial⟩
  · rintro ⟨noForm, noBody⟩
    exact ⟨fun claimed => absurd (noBody.symm.trans claimed) Bool.false_ne_true,
      fun claimed => absurd (noForm.symm.trans claimed) Bool.false_ne_true⟩

/-- Claims that the field of a descriptor has joined allow what they allowed before and what does
not clash with the descriptor's position. -/
theorem allows_join_iff {claims : Claims} {d : ParamDescriptor} {q : Position} :
    (claims.join (ofParam d)).Allows q ↔ claims.Allows q ∧ ¬ d.position.Clash q := by
  have bodies : (claims.join (ofParam d)).body = true ↔
      claims.body = true ∨ d.position = .body := by
    simp [join, ofParam, ofPosition]
  have forms : (claims.join (ofParam d)).form = true ↔
      claims.form = true ∨ d.position = .formData := by
    simp [join, ofParam, ofPosition]
  constructor
  · rintro ⟨besideBody, besideForm⟩
    refine ⟨⟨fun claimed => besideBody (bodies.mpr (.inl claimed)),
      fun claimed => besideForm (forms.mpr (.inl claimed))⟩, ?_⟩
    cases position : d.position with
    | body => exact besideBody (bodies.mpr (.inr position))
    | formData => exact besideForm (forms.mpr (.inr position))
    | path | query | header | cookie => exact fun clash => clash
  · rintro ⟨⟨besideBody, besideForm⟩, apart⟩
    constructor
    · intro claimed
      rcases bodies.mp claimed with claimed | position
      · exact besideBody claimed
      · exact position ▸ apart
    · intro claimed
      rcases forms.mp claimed with claimed | position
      · exact besideForm claimed
      · exact position ▸ apart

end Claims

theorem demand_eq_ok_iff {holds : Bool} {fault : Fault} {u : Unit} :
    demand holds fault = .ok u ↔ holds = true := by
  unfold demand
  split
  · rename_i met
    exact iff_of_true rfl met
  · rename_i broken
    exact iff_of_false (fun done => nomatch done) broken

theorem Claims.take_eq_ok_iff {claims taken : Claims} {p : Position} :
    claims.take p = .ok taken ↔ claims.Allows p ∧ taken = claims.join (ofPosition p) := by
  obtain ⟨form, body, cap⟩ := claims
  have joined : join ⟨form, body, cap⟩ (ofPosition p) =
      ⟨form || p == .formData, body || p == .body, cap⟩ := by
    simp only [join, ofPosition, Option.merge_none_right]
  rw [joined]
  cases p with
  | formData =>
    simp only [take, Except.bind_eq_ok_iff, demand_eq_ok_iff, allows_formData_iff,
      Bool.not_eq_true']
    constructor
    · rintro ⟨_, noBody, done⟩
      cases done
      exact ⟨noBody, by simp⟩
    · rintro ⟨noBody, rfl⟩
      exact ⟨(), noBody, by simp [pure, Except.pure]⟩
  | body =>
    simp only [take, Except.bind_eq_ok_iff, demand_eq_ok_iff, allows_body_iff, Bool.not_eq_true']
    constructor
    · rintro ⟨_, noForm, _, noBody, done⟩
      cases done
      exact ⟨⟨noForm, noBody⟩, by simp⟩
    · rintro ⟨⟨noForm, noBody⟩, rfl⟩
      exact ⟨(), noForm, (), noBody, by simp [pure, Except.pure]⟩
  | path | query | header | cookie =>
    constructor
    · intro done
      cases done
      exact ⟨⟨fun _ clash => clash, fun _ clash => clash⟩, by simp⟩
    · rintro ⟨_, rfl⟩
      simp [take]

theorem Claims.addCap_eq_ok_iff {claims noted : Claims} {tags : TagMap} :
    claims.addCap tags = .ok noted ↔
      (tags.get? Tag.capKey = none ∨ ∃ n, tags.cap? = some (n + 1)) ∧
        noted = claims.join { cap := tags.cap? } := by
  obtain ⟨form, body, cap⟩ := claims
  unfold addCap TagMap.cap?
  cases declared : tags.get? Tag.capKey with
  | none =>
    simp [join, eq_comm]
  | some raw =>
    simp only [Option.bind_some]
    cases read : Numeral.readWord? (Text.trimChars raw.toList) with
    | none => simp
    | some n =>
      cases n with
      | zero => simp
      | succ n =>
        cases cap <;> simp [join, eq_comm, Nat.max_comm]

/-! ## Fields -/

/-- The tags of a field at its position: a value from the path is always required. -/
def placedTags (position : Position) (tags : TagMap) : TagMap :=
  if position == .path then tags.insert Tag.requiredKey Tag.requiredKey else tags

variable [Pattern.Engine]

/-- The field of a leaf can be described by the descriptor, as far as the field alone decides
that. -/
structure Describes (mapper : NameMapper) (api : String) (kind : Kind) (leaf : Leaf) (tag : String)
    (d : ParamDescriptor) : Prop where
  notPointer : kind.isPointer = false
  exported : leaf.field.exported = true
  positioned : readPosition (fieldTags leaf.field tag) = .ok d.position
  kindFits : checkKind kind d.position = .ok ()
  tagged : d.tags = placedTags d.position (fieldTags leaf.field tag)
  constraintsFit : checkConstraints kind d.tags = .ok ()
  capped : d.tags.get? Tag.capKey = none ∨ ∃ n, d.tags.cap? = some (n + 1)
  compiled : Validator.compile d.tags leaf.field.pattern = .ok d.validator
  made : d =
    { api, position := d.position, tags := d.tags, validator := d.validator, kind
      name := wireName mapper leaf.field d.tags d.position
      field := leaf.field.name
      required := isRequired d.tags
      isFile := kind.isFile
      path := leaf.path
      customError := d.tags.get? Tag.errorKey }

/-- A field is described when it can be described alone and the claims so far allow its
position. -/
theorem describe_eq_ok_iff {mapper : NameMapper} {api : String} {kind : Kind} {leaf : Leaf}
    {tag : String} {claims claims' : Claims} {d : ParamDescriptor} :
    describe mapper api kind leaf tag claims = .ok (d, claims') ↔
      Describes mapper api kind leaf tag d ∧ claims.Allows d.position ∧
        claims' = claims.join (.ofParam d) := by
  have joined : (claims.join (.ofPosition d.position)).join { cap := d.tags.cap? } =
      claims.join (.ofParam d) := by
    simp [Claims.join, Claims.ofParam, Claims.ofPosition]
  unfold describe
  simp only [Except.bind_eq_ok_iff, demand_eq_ok_iff, Claims.take_eq_ok_iff,
    Claims.addCap_eq_ok_iff, Except.mapError_eq_ok_iff]
  constructor
  · rintro ⟨_, notPointer, _, exported, position, read, _, kindFits, taken, ⟨allowed, rfl⟩, _,
      constraintsFit, capped, ⟨declared, rfl⟩, validator, compiled, done⟩
    cases done
    exact ⟨⟨by simpa using notPointer, exported, read, kindFits, rfl, constraintsFit, declared,
      compiled, rfl⟩, allowed, joined⟩
  · rintro ⟨⟨notPointer, exported, read, kindFits, tagged, constraintsFit, declared, compiled,
      made⟩, allowed, rfl⟩
    have sameTags : (if d.position == .path
        then (fieldTags leaf.field tag).insert Tag.requiredKey Tag.requiredKey
        else fieldTags leaf.field tag) = d.tags := tagged.symm
    refine ⟨(), by simpa using notPointer, (), exported, d.position, read, (), kindFits, _,
      ⟨allowed, rfl⟩, (), ?_, _, ⟨?_, rfl⟩, d.validator, ?_, ?_⟩
    · rw [sameTags]
      exact constraintsFit
    · rw [sameTags]
      exact declared
    · rw [sameTags]
      exact compiled
    · rw [sameTags, joined]
      exact congrArg (fun e => Except.ok (e, claims.join (.ofParam d))) made.symm

end Schema

end RequestBinding
