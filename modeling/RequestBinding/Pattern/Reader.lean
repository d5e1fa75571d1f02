import RequestBinding.Pattern.Token

/-!
# Reading patterns

The expression that a sequence of tokens denotes. Groups are kept on a stack while they are open;
the lowest place of the stack is the pattern itself and is never closed by a bracket. Flags hold
until the end of the group in which they are switched.
-/

namespace RequestBinding.Pattern

/-- The flags in force. -/
structure Flags where
  ignoreCase : Bool := false
  multiLine : Bool := false
  dotAll : Bool := false
  deriving DecidableEq, Repr

namespace Flags

/-- The flags after a change. Which match is preferred does not matter here. -/
def change (flags : Flags) : Flag × Bool → Flags
  | (.ignoreCase, on) => { flags with ignoreCase := on }
  | (.multiLine, on) => { flags with multiLine := on }
  | (.dotAll, on) => { flags with dotAll := on }
  | (.swapGreed, _) => flags

/-- The flags after several changes. -/
def changeAll (flags : Flags) (changes : FlagChanges) : Flags :=
  changes.foldl change flags

end Flags

/-- The sequence of expressions. -/
def Regex.sequence : List Regex → Regex
  | [] => .empty
  | [r] => r
  | r :: rest => .seq r (sequence rest)

/-- The choice between expressions. -/
def Regex.choice : List Regex → Regex
  | [] => .empty
  | [r] => r
  | r :: rest => .alt r (choice rest)

/-- A group that is open: the flags in force, the branches before the last bar, and what the branch
in reading has, each with the last one first. A switch of flags takes a place in a branch, but has
no expression. -/
structure Group where
  flags : Flags
  branches : List Regex := []
  branch : List (Option Regex) := []
  deriving DecidableEq, Repr

namespace Group

/-- The expression of the branch in reading. -/
def branchRegex (g : Group) : Regex :=
  .sequence (g.branch.reverse.filterMap id)

/-- The expression of the whole group. -/
def regex (g : Group) : Regex :=
  .choice (g.branchRegex :: g.branches).reverse

/-- Adds an expression to the branch. -/
def push (g : Group) (r : Regex) : Group :=
  { g with branch := some r :: g.branch }

/-- Begins the next branch. -/
def nextBranch (g : Group) : Group :=
  { g with branches := g.branchRegex :: g.branches, branch := [] }

/-- Repeats the last expression of the branch; there has to be one. -/
def quantify? (g : Group) (least : Nat) (most : Option Nat) : Option Group :=
  match g.branch with
  | some r :: rest => some { g with branch := some (.repeated r least most) :: rest }
  | _ => none

end Group

namespace Reader

/-- What a reader of tokens has: the innermost open group, the groups around it, and the names of
groups so far. -/
structure State where
  inner : Group
  outer : List Group := []
  names : List String := []
  deriving DecidableEq, Repr

/-- The expression that a token denotes under the flags in force, for the tokens that denote one. -/
def atom? (flags : Flags) : Token → Option Regex
  | .char c => some (.set flags.ignoreCase (.bracket false (.single c)))
  | .dot => some (.set false (if flags.dotAll then .any else .bracket true (.single '\n')))
  | .set s => some (.set flags.ignoreCase s)
  | .caret => some (.assertion (if flags.multiLine then .lineStart else .textStart))
  | .dollar => some (.assertion (if flags.multiLine then .lineEnd else .textEnd))
  | .assertion a => some (.assertion a)
  | _ => none

/-- Takes one token. Refused are a closing bracket without a group, a quantifier without an
expression, and a second group of the same name. -/
def step (s : State) (t : Token) : Option State :=
  match atom? s.inner.flags t with
  | some r => some { s with inner := s.inner.push r }
  | none =>
    match t with
    | .opening name changes =>
      if name.any s.names.contains then none
      else
        some { inner := { flags := s.inner.flags.changeAll changes }
               outer := s.inner :: s.outer
               names := name.toList ++ s.names }
    | .flags changes =>
      let flags := s.inner.flags.changeAll changes
      some { s with inner := { s.inner with flags, branch := none :: s.inner.branch } }
    | .closing =>
      match s.outer with
      | [] => none
      | g :: outer => some { s with inner := g.push s.inner.regex, outer }
    | .bar => some { s with inner := s.inner.nextBranch }
    | .quantifier least most =>
      (s.inner.quantify? least most).map fun g => { s with inner := g }
    | _ => some s

/-- Takes tokens one after the other. -/
def steps (s : State) : List Token → Option State
  | [] => some s
  | t :: rest => (step s t).bind (steps · rest)

/-- A pattern before its first token. -/
def start : State :=
  { inner := { flags := {} } }

/-- The expression of a pattern whose groups are all closed. -/
def finish (s : State) : Option Regex :=
  if s.outer.isEmpty then some s.inner.regex else none

end Reader

/-- The expression that a pattern denotes; nothing when the pattern is malformed. -/
def Regex.parse? (pattern : List Char) : Option Regex :=
  (Token.tokens? pattern).bind fun ts => (Reader.steps Reader.start ts).bind Reader.finish

end RequestBinding.Pattern
