import RequestBinding.Bind.AdHoc
import RequestBinding.Record.Example
import RequestBinding.Schema.Build

/-!
# Inspecting tags and queries

What the command line shows: the meaning of a tag, checked as registration checks it, and the value
that one key of a query binds to.
-/

namespace RequestBinding.Command

/-- Why a command fails. -/
inductive Failure where
  /-- The tag names no position at all. -/
  | missingPosition
  /-- The tag names something that is no position. -/
  | unknownPosition (name : String)
  /-- The constraints of the tag cannot be used. -/
  | constraint (e : ConstraintError)
  /-- The value cannot be bound. -/
  | bind (e : BindError)
  deriving DecidableEq, Repr

/-- The wordings of the failure and of what caused it, the outermost first. -/
def Failure.messages : Failure → List String
  | missingPosition => ["missing `" ++ Tag.positionKey ++ "` token"]
  | unknownPosition name => [Position.unknownMessage name]
  | constraint e => ["invalid constraint", e.message]
  | bind e => [e.message]

/-- The text of the failure ends within the report on a pattern. -/
def Failure.isCut : Failure → Bool
  | constraint (.invalidPattern _) => true
  | _ => false

/-- The position that a tag names. -/
def positionOf (tags : TagMap) : Except Failure Position :=
  match tags.get? Tag.positionKey with
  | none => .error .missingPosition
  | some name =>
    match Position.ofName? name with
    | some position => .ok position
    | none => .error (.unknownPosition name)

/-- Shows what a tag says; `pattern` is declared beside it. -/
def inspectTag [Pattern.Engine] (tag : String) (pattern : Option String) :
    Except Failure Json :=
  if Tag.isIgnored tag then .ok (.ofMembers [("ignored", .bool true)])
  else do
    let tags := Tag.parse tag
    let position ← positionOf tags
    let validator ← (Validator.compile tags pattern).mapError .constraint
    return .ofMembers
      [("tags", .ofMembers (tags.entries.map fun (key, value) => (key, .text value))),
        ("position", .text position.name), ("name", .ofText? (tags.get? Tag.nameKey)),
        ("required", .bool (position == .path || Schema.isRequired tags)),
        ("constrained", .bool !validator.isEmpty)]

/-- The type that a key of a query is bound to: texts, or a map between texts. -/
def queryType (asMap : Bool) : WireType :=
  if asMap then .map true (.scalar .text) (.scalar .text) else .seq (.scalar .text)

/-- Shows what a key of a query binds to, and what was reported on the way. Where the key does not
occur this is an empty list or map. -/
def bindQuery (query key : String) (asMap : Bool) (settings : Settings) :
    Except Failure Json × List Event :=
  let type := queryType asMap
  let src := KeySource.ofForm (.parse query) settings.maxIndex
  let outcome := AdHoc.bindFrom {} src type key (type.zero {})
  (match outcome.result with
    | .ok _ => .ok (outcome.held.example {} type)
    | .error e => .error (.bind e),
    outcome.events)

end RequestBinding.Command
