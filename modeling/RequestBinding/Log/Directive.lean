import RequestBinding.Log.Event
import RequestBinding.Number.Integer
import RequestBinding.Text.Blank
import RequestBinding.Text.Letters
import RequestBinding.Text.Split

/-!
# Filter directives

A directive says how detailed the reports of a part of the library may be: `target=level`, or a
target or a level alone. Behind a target may stand a span in square brackets; such a directive
speaks about what happens within the span only.
-/

namespace RequestBinding

/-- The most detailed level that passes, or `none` when nothing does. -/
abbrev LevelLimit := Option LogLevel

namespace LevelLimit

/-- The levels from nothing to everything. -/
def all : List LevelLimit :=
  [none, some .error, some .warn, some .info, some .debug, some .trace]

/-- The name of the limit. -/
def name : LevelLimit → String
  | none => "off"
  | some level => level.name

/-- The limit lets a level pass. -/
def passes (limit : LevelLimit) (level : LogLevel) : Bool :=
  limit.any fun most => level.rank ≤ most.rank

/-- Reads a limit: its place among all as a number, or its name in any case. -/
def read? (cs : List Char) : Option LevelLimit :=
  ((Numeral.readWord? cs).bind (all[·]?)).or
    (all.find? fun limit => Text.eqIgnoringAsciiCase cs limit.name.toList)

end LevelLimit

/-- A filter directive. -/
structure Directive where
  target : Option String := none
  /-- What stands between square brackets. -/
  span : Option String := none
  limit : LevelLimit := some .trace
  deriving DecidableEq, Repr

namespace Directive

/-- Characters that a directive may begin with, besides letters and digits. -/
def opens (c : Char) : Bool :=
  c == '-' || c == ':' || c == '_' || Text.isAlphanumeric c

/-- Reads the limit behind an equals sign; nothing there means everything. -/
def readLimit (d : Directive) (cs : List Char) : Option Directive :=
  if cs.isEmpty then some d
  else (LevelLimit.read? cs).map fun limit => { d with limit }

/-- Fields within a span are closed and not empty. -/
def spanOk (span : List Char) : Bool :=
  match Text.cutAt '\x7b' span with
  | none => true
  | some (_, fields) =>
    match Text.cutAt '\x7d' fields with
    | some (inner, after) => !inner.isEmpty && after.isEmpty
    | none => false

/-- Reads a span up to its closing bracket and what follows it. -/
def readSpan (d : Directive) (cs : List Char) : Option Directive :=
  match Text.cutAt ']' cs with
  | none => none
  | some (span, rest) =>
    if !spanOk span then none
    else
      let d := { d with span := some (String.ofList span) }
      match rest with
      | [] => some d
      | '=' :: limit => d.readLimit limit
      | _ => none

/-- The end of a target. -/
def endsTarget (c : Char) : Bool :=
  c == '=' || c == '['

/-- Reads a directive. -/
def parse? (text : String) : Option Directive :=
  match Text.trimChars text.toList with
  | [] => none
  | '[' :: rest => ({} : Directive).readSpan rest
  | c :: rest =>
    if !opens c then none
    else
      let word := (c :: rest).takeWhile (!endsTarget ·)
      match (c :: rest).dropWhile (!endsTarget ·) with
      | '=' :: limit => ({ target := some (String.ofList word) } : Directive).readLimit limit
      | '[' :: span => ({ target := some (String.ofList word) } : Directive).readSpan span
      | _ =>
        match LevelLimit.read? word with
        | some limit => some { limit }
        | none => some { target := some (String.ofList word) }

/-- The text of the directive. -/
def text (d : Directive) : String :=
  let place := d.target.getD "" ++ d.span.elim "" fun span => "[" ++ span ++ "]"
  (if place.isEmpty then "" else place ++ "=") ++ d.limit.name

/-- What the directive speaks about, apart from the limit. -/
def place (d : Directive) : Option String × Option String :=
  (d.target, d.span)

/-- The length of the target; no target is less than the empty one. -/
def weight (d : Directive) : Nat :=
  d.target.elim 0 fun target => target.utf8ByteSize + 1

/-- The first directive speaks about less than the second and comes before it. Between targets of
one length the order is that of the texts, the last one first. -/
def before (a b : Directive) : Bool :=
  if a.weight != b.weight then b.weight < a.weight
  else if a.span.isSome != b.span.isSome then a.span.isSome
  else if a.target != b.target then (b.target.getD "") < (a.target.getD "")
  else (b.span.getD "") < (a.span.getD "")

/-- Puts a directive in its place among others, instead of one about the same. -/
def insert (d : Directive) : List Directive → List Directive
  | [] => [d]
  | other :: rest =>
    if d.place == other.place then d :: rest
    else if d.before other then d :: other :: rest
    else other :: insert d rest

end Directive

/-- A filter: its directives, the most special ones first. Those about spans come behind. -/
structure LogFilter where
  plain : List Directive := []
  spans : List Directive := []
  deriving DecidableEq, Repr

namespace LogFilter

/-- The filter with one more directive. -/
def add (filter : LogFilter) (d : Directive) : LogFilter :=
  if d.span.isSome then { filter with spans := d.insert filter.spans }
  else { filter with plain := d.insert filter.plain }

/-- The filter of a list of directives; one of none at all lets errors pass. -/
def ofDirectives (ds : List Directive) : LogFilter :=
  if ds.isEmpty then ({} : LogFilter).add { limit := some .error } else ds.foldl add {}

/-- Reads a filter; one directive that cannot be read spoils it. -/
def parse? (text : String) : Option LogFilter :=
  let pieces := (text.toList.splitOn ',').filter (!·.isEmpty)
  (pieces.mapM fun piece => Directive.parse? (String.ofList piece)).map ofDirectives

/-- The text of the filter. -/
def text (filter : LogFilter) : String :=
  ",".intercalate ((filter.plain ++ filter.spans).map Directive.text)

/-- The directive speaks about the target. -/
def covers (target : String) (d : Directive) : Bool :=
  d.target.all fun lead => (Text.dropLead? lead.toList target.toList).isSome

/-- The filter lets an event pass: the most special directive about its target decides. -/
def passes (filter : LogFilter) (e : Event) : Bool :=
  (filter.plain.find? (covers e.source.target)).any fun d => d.limit.passes e.level

end LogFilter

end RequestBinding
