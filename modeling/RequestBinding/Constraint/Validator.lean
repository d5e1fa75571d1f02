import RequestBinding.Constraint.Bounds
import RequestBinding.Constraint.Violation
import RequestBinding.Pattern.FullMatch
import RequestBinding.Tag
import RequestBinding.Value.View

/-!
# Validators

The constraints of one field, made from its tag once and applied to every value. A sequence is
checked item by item, and every single value is checked against the range, then for being zero,
then against the length, then against the pattern; the first violation in this order is reported.
-/

namespace RequestBinding

/-- The constraints of a field. -/
structure Validator where
  range : Option (Bounds Float) := none
  nonzero : Bool := false
  length : Option (Bounds Nat) := none
  pattern : Option FullMatch := none

/-- Why the constraints of a tag cannot be used. -/
inductive ConstraintError where
  /-- The bounds under a key are malformed. -/
  | invalidBounds (key tuple : String)
  /-- The pattern is malformed. -/
  | invalidPattern (source : String)
  deriving DecidableEq, Repr

/-- The wording of the error. What is wrong with a pattern is not told. -/
def ConstraintError.message : ConstraintError → String
  | invalidBounds key tuple => "invalid " ++ key ++ " tuple `" ++ tuple ++ "`"
  | invalidPattern source => "invalid regexp `" ++ source ++ "`"

namespace Validator

/-! ## Making a validator -/

/-- Reads the bounds that a tag may have under a key. -/
def readBounds {α : Type} (read : String → Option (Bounds α)) (tags : TagMap) (key : String) :
    Except ConstraintError (Option (Bounds α)) :=
  match tags.get? key with
  | none => .ok none
  | some tuple =>
    match read tuple with
    | some bounds => .ok (some bounds)
    | none => .error (.invalidBounds key tuple)

/-- Reads the pattern; one that stands beside the tag comes before one in the tag. -/
def readPattern [Pattern.Engine] (tags : TagMap) (pattern : Option String) :
    Except ConstraintError (Option FullMatch) :=
  match pattern.or (tags.get? Tag.patternKey) with
  | none => .ok none
  | some source =>
    match FullMatch.compile? source with
    | some compiled => .ok (some compiled)
    | none => .error (.invalidPattern source)

/-- The validator of a tag and of a pattern beside it. -/
def compile [Pattern.Engine] (tags : TagMap) (pattern : Option String) :
    Except ConstraintError Validator := do
  let range ← readBounds Bounds.ofNumbers? tags Tag.rangeKey
  let length ← readBounds Bounds.ofLengths? tags Tag.lengthKey
  let pattern ← readPattern tags pattern
  return { range, nonzero := tags.contains Tag.nonzeroKey, length, pattern }

/-- There is no constraint. -/
def isEmpty (v : Validator) : Bool :=
  v.range.isNone && !v.nonzero && v.length.isNone && v.pattern.isNone

/-! ## Single rules -/

/-- How far a number may lie outside of its bounds. -/
def accuracy : Float := 0.0000001

/-- What the range says about a value. A number that is undefined lies below every bound. -/
def checkRange (bounds : Bounds Float) : View → Option (ViolationKind × String)
  | .number x =>
    if x.isNaN then some (.tooSmall, "not a number: " ++ floatText x)
    else if let some least := bounds.least.filter fun a => x < a && a - x > accuracy then
      some (.tooSmall, "smaller than " ++ floatText least ++ ": " ++ floatText x)
    else if let some most := bounds.most.filter fun b => x > b && x - b > accuracy then
      some (.tooBig, "bigger than " ++ floatText most ++ ": " ++ floatText x)
    else none
  | _ => none

/-- A zero value counts as not set. -/
def checkNonzero (view : View) : Option (ViolationKind × String) :=
  if view.isZero then some (.notSet, "not set") else none

/-- The length of a value that has one: characters of a text, octets of bytes. -/
def lengthOf? : View → Option Nat
  | .text s => some s.length
  | .bytes octets => some octets.length
  | _ => none

/-- What the bounds on the length say about a value. -/
def checkLength (bounds : Bounds Nat) (view : View) : Option (ViolationKind × String) :=
  match lengthOf? view with
  | none => none
  | some n =>
    if let some least := bounds.least.filter fun least => n < least then
      some (.tooShort, "shorter than " ++ toString least ++ ": " ++ view.display)
    else if let some most := bounds.most.filter fun most => n > most then
      some (.tooLong, "longer than " ++ toString most ++ ": " ++ view.display)
    else none

/-- What the pattern says about a value. -/
def checkPattern (pattern : FullMatch) : View → Option (ViolationKind × String)
  | .text s =>
    if pattern.accepts s then none
    else some (.notMatching, "not match " ++ pattern.source ++ ": " ++ s)
  | _ => none

/-! ## All rules -/

/-- The first rule that a single value breaks. -/
def checkSingle (v : Validator) (view : View) : Option (ViolationKind × String) :=
  (v.range.bind (checkRange · view)).or <|
    (if v.nonzero then checkNonzero view else none).or <|
      (v.length.bind (checkLength · view)).or (v.pattern.bind (checkPattern · view))

mutual

/-- The first rule that a value breaks. An empty sequence counts as not set. -/
def check (v : Validator) : View → Option (ViolationKind × String)
  | .seq items =>
    if v.nonzero && items.isEmpty then some (.notSet, "not set") else v.checkItems items
  | .number x => v.checkSingle (.number x)
  | .bool b => v.checkSingle (.bool b)
  | .text s => v.checkSingle (.text s)
  | .bytes octets => v.checkSingle (.bytes octets)
  | .absent => v.checkSingle .absent
  | .sealed zero => v.checkSingle (.sealed zero)

/-- The first rule that an item breaks. -/
def checkItems (v : Validator) : List View → Option (ViolationKind × String)
  | [] => none
  | item :: rest => (v.check item).or (v.checkItems rest)

end

/-- Checks the value of a field. -/
def validate (v : Validator) (field : String) (view : View) : Except Violation Unit :=
  match v.check view with
  | none => .ok ()
  | some (kind, detail) => .error ⟨field, kind, detail⟩

end Validator

end RequestBinding
