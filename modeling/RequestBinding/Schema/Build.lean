import RequestBinding.Schema.Descriptor
import RequestBinding.Schema.Fault
import RequestBinding.Log.Event
import RequestBinding.WireName

/-!
# Building descriptors

A record is checked and described field by field, the fields of flattened records where the record
stands. Some rules are about all fields together: the form and the body exclude each other, and
there is one body at most. The first broken rule ends the walk.
-/

namespace RequestBinding

/-- Makes the wire name of a field that does not declare one. -/
abbrev NameMapper := String → String

namespace Schema

/-- What the fields seen so far have laid claim to. -/
structure Claims where
  form : Bool := false
  body : Bool := false
  /-- The largest cap on the form payload, in mebibytes. -/
  cap : Option Nat := none
  deriving DecidableEq, Repr

/-- Demands that something holds. -/
def demand (holds : Bool) (fault : Fault) : Except Fault Unit :=
  if holds then .ok () else .error fault

/-- The tag of a field together with what is declared beside it. -/
def fieldTags (f : Field) (tag : String) : TagMap :=
  let tags := Tag.parse tag
  let tags := f.pattern.elim tags (tags.insert Tag.patternKey)
  f.errorText.elim tags (tags.insert Tag.errorKey)

/-- The position that a tag declares. -/
def readPosition (tags : TagMap) : Except Fault Position :=
  match Position.ofName? ((tags.get? Tag.positionKey).getD "") with
  | some position => .ok position
  | none => .error .unknownPosition

/-- The kinds that a position can give values for. -/
def checkKind (kind : Kind) (position : Position) : Except Fault Unit := do
  demand (!kind.isFile || position == .formData) (.fileOutsideForm kind)
  demand (kind != .cookie || position == .cookie) .cookieOutsideCookies
  demand (kind.isBody == (position == .body)) .bodyMismatch
  demand (!kind.isCompound || position == .query || position == .formData) (.compoundPosition kind)

/-- Lays claim to a position. -/
def Claims.take (claims : Claims) : Position → Except Fault Claims
  | .formData => do
    demand (!claims.body) .formAndBody
    return { claims with form := true }
  | .body => do
    demand (!claims.form) .formAndBody
    demand (!claims.body) .secondBody
    return { claims with body := true }
  | .path => .ok claims
  | .query => .ok claims
  | .header => .ok claims
  | .cookie => .ok claims

/-- The constraints that a kind can have. -/
def checkConstraints (kind : Kind) (tags : TagMap) : Except Fault Unit := do
  demand (!tags.contains Tag.lengthKey || kind.constrained.isText || kind == .bytes) .lengthOfOther
  demand (!tags.contains Tag.rangeKey || kind.constrained.isNumeric) .rangeOfOther
  demand (!tags.contains Tag.patternKey || kind.constrained.isText) .patternOfOther

/-- Takes note of the cap that a tag declares. -/
def Claims.addCap (claims : Claims) (tags : TagMap) : Except Fault Claims :=
  match tags.get? Tag.capKey with
  | none => .ok claims
  | some raw =>
    match Numeral.readWord? (Text.trimChars raw.toList) with
    | some (n + 1) => .ok { claims with cap := some (claims.cap.elim (n + 1) (max (n + 1))) }
    | _ => .error .invalidCap

/-- The wire name of a field. -/
def wireName (mapper : NameMapper) (f : Field) (tags : TagMap) (position : Position) : String :=
  let name :=
    match tags.get? Tag.nameKey with
    | some name => if name.isEmpty then mapper f.name else name
    | none => mapper f.name
  if position == .header then WireName.canonicalHeader name else name

/-- A value must be supplied: the tag says so, or a constraint could not hold without one. -/
def isRequired (tags : TagMap) : Bool :=
  tags.contains Tag.requiredKey || tags.contains Tag.nonzeroKey
    || (tags.get? Tag.rangeKey).any (!·.isEmpty)

/-- Checks and describes the field of a leaf. -/
def describe [Pattern.Engine] (mapper : NameMapper) (api : String) (kind : Kind) (leaf : Leaf)
    (tag : String) (claims : Claims) : Except Fault (ParamDescriptor × Claims) := do
  demand (!kind.isPointer) .pointer
  demand leaf.field.exported .hidden
  let tags := fieldTags leaf.field tag
  let position ← readPosition tags
  checkKind kind position
  let claims ← claims.take position
  let tags :=
    if position == .path then tags.insert Tag.requiredKey Tag.requiredKey else tags
  checkConstraints kind tags
  let claims ← claims.addCap tags
  let validator ← (Validator.compile tags leaf.field.pattern).mapError .constraint
  let descriptor : ParamDescriptor :=
    { api, position, tags, validator, kind
      name := wireName mapper leaf.field tags position
      field := leaf.field.name
      required := isRequired tags
      isFile := kind.isFile
      path := leaf.path
      customError := tags.get? Tag.errorKey }
  return (descriptor, claims)

/-- The tag of a leaf that takes part. -/
def takenTag? (leaf : Leaf) : Option String :=
  leaf.field.tag.filter (!Tag.isIgnored ·)

/-- What a walk comes to: the descriptors up to the first fault, and the claims of all fields or
that fault. -/
abbrev Walked := List ParamDescriptor × Except RegistrationError Claims

/-- Goes on with the claims of what has been walked, unless there was a fault. -/
def Walked.andThen (walked : Walked) (next : Claims → Walked) : Walked :=
  match walked with
  | (params, .error e) => (params, .error e)
  | (params, .ok claims) =>
    let (others, outcome) := next claims
    (params ++ others, outcome)

/-- Describes a leaf if it takes part. -/
def walkLeaf [Pattern.Engine] (recs : Records) (mapper : NameMapper) (api : String) (leaf : Leaf)
    (claims : Claims) : Walked :=
  match takenTag? leaf with
  | none => ([], .ok claims)
  | some tag =>
    match describe mapper api (recs.kindOf leaf.type) leaf tag claims with
    | .error fault => ([], .error ⟨api, leaf.field.name, fault⟩)
    | .ok (descriptor, claims) => ([descriptor], .ok claims)

/-- Describes the fields of a table whose first field has the place `index` below `lead`. The fields
of a flattened record add to the claims of the fields before it, and those after it to theirs. -/
def walk [Pattern.Engine] (recs : Records) (mapper : NameMapper) (api : String) (lead : FieldPath) :
    (index : Nat) → FieldTable → Claims → Walked
  | _, .nil, claims => ([], .ok claims)
  | index, .field f rest, claims =>
    match f.role with
    | .unbound _ => walk recs mapper api lead (index + 1) rest claims
    | .bound type =>
      (walkLeaf recs mapper api ⟨lead ++ [index], f, type⟩ claims).andThen
        (walk recs mapper api lead (index + 1) rest)
  | index, .flattened _ _ inner rest, claims =>
    (walk recs mapper api (lead ++ [index]) 0 inner claims).andThen
      (walk recs mapper api lead (index + 1) rest)

/-- The descriptors of a record, and the largest cap that its fields declare. -/
structure Built where
  params : List ParamDescriptor
  cap : Option Nat

/-- Walks the fields of a record. -/
def walkRecord [Pattern.Engine] (recs : Records) (mapper : NameMapper) (r : Record) : Walked :=
  walk recs mapper r.name [] 0 r.fields {}

/-- Checks and describes a record. -/
def build [Pattern.Engine] (recs : Records) (mapper : NameMapper) (r : Record) :
    Except RegistrationError Built :=
  let (params, outcome) := walkRecord recs mapper r
  outcome.map fun claims => ⟨params, claims.cap⟩

/-- The report of a descriptor. -/
def builtEvent (d : ParamDescriptor) : Event :=
  { level := .debug, source := .build, message := "Param descriptor built"
    fields :=
      [("api", .text d.api), ("param", .text d.name), ("position", .text d.position.name),
        ("required", .flag d.required)] }

end Schema

end RequestBinding
