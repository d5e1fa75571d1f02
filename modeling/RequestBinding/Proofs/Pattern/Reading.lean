import Mathlib.Logic.Relation
import RequestBinding.Pattern.Reader
import RequestBinding.Proofs.Pattern.Matching
import RequestBinding.Proofs.Pattern.Tokens

/-!
# Reading a pattern step by step

A pattern is read by taking its tokens one after the other, where each changes the innermost group,
opens a group or closes one (`Reader.Stepped`). The text that is left and the state of the reader
determine all that follows, so a pattern is read when the reader gets from its start to the end of
the text with all groups closed (`Reader.parse?_eq_some_iff`).

Along the way repetitions are only written with bounds that fit, so the expression of a pattern is
one that the matcher decides (`Regex.bounded_of_parse?`).
-/

namespace RequestBinding.Pattern

variable {g : Group} {cs rest : List Char} {r : Regex} {t : Token}

/-! ## Steps -/

/-- What a token makes of the group it stands in, when it neither begins nor ends one. -/
def Group.take? (g : Group) (t : Token) : Option Group :=
  match Reader.atom? g.flags t with
  | some r => some (g.push r)
  | none =>
    match t with
    | .flags changes =>
      some { g with flags := g.flags.changeAll changes, branch := none :: g.branch }
    | .bar => some g.nextBranch
    | .quantifier least most => g.quantify? least most
    | _ => none

namespace Reader

variable {s s' : State}

/-- What a step does: it changes the innermost group, or opens a group, or closes one. -/
inductive Stepped (s : State) : Token → State → Prop where
  | inside {t : Token} {inner : Group} : s.inner.take? t = some inner →
      Stepped s t { s with inner }
  | opening {name : Option String} {changes : FlagChanges} :
      name.any s.names.contains = false →
      Stepped s (.opening name changes)
        { inner := { flags := s.inner.flags.changeAll changes }
          outer := s.inner :: s.outer
          names := name.toList ++ s.names }
  | closing {g : Group} {outer : List Group} : s.outer = g :: outer →
      Stepped s .closing { s with inner := g.push s.inner.regex, outer }

theorem step_opening (name : Option String) (changes : FlagChanges) :
    Reader.step s (.opening name changes) =
      if name.any s.names.contains then none
      else
        some { inner := { flags := s.inner.flags.changeAll changes }
               outer := s.inner :: s.outer
               names := name.toList ++ s.names } := rfl

theorem step_closing :
    Reader.step s .closing =
      match s.outer with
      | [] => none
      | g :: outer => some { s with inner := g.push s.inner.regex, outer } := rfl

theorem step_eq_some_iff : Reader.step s t = some s' ↔ Stepped s t s' := by
  constructor
  · intro step
    cases t with
    | opening name changes =>
      rw [step_opening] at step
      split at step
      · cases step
      · rename_i fresh
        cases step
        exact .opening (Bool.eq_false_iff.mpr fresh)
    | closing =>
      rw [step_closing] at step
      split at step
      · cases step
      · rename_i outer
        cases step
        exact .closing outer
    | quantifier least most =>
      rcases Option.map_eq_some_iff.mp step with ⟨inner, taken, rfl⟩
      exact .inside taken
    | _ =>
      cases step
      exact .inside rfl
  · intro stepped
    cases stepped with
    | @inside t inner taken =>
      cases t with
      | opening | closing => cases taken
      | quantifier least most => exact congrArg (Option.map _) taken
      | _ =>
        cases taken
        rfl
    | opening fresh => rw [step_opening, fresh, if_neg Bool.false_ne_true]
    | closing outer => rw [step_closing, outer]

/-! ## Steps through a text -/

/-- A reader with the text that it has still to read. -/
structure Conf where
  state : State
  text : List Char

/-- The reader takes the first token of its text. -/
inductive Takes : Conf → Conf → Prop where
  | token {s s' : State} {t : Token} {cs rest : List Char} :
      Token.read cs = some (t, rest) → Stepped s t s' → Takes ⟨s, cs⟩ ⟨s', rest⟩

/-- The reader takes some tokens one after the other. -/
abbrev Reads : Conf → Conf → Prop :=
  Relation.ReflTransGen Takes

variable {a b c : Conf}

theorem Takes.unique (first : Takes a b) (second : Takes a c) : b = c := by
  cases first with
  | token read step =>
    cases second with
    | token read' step' =>
      rcases Prod.mk.inj (Option.some.inj (read.symm.trans read')) with ⟨rfl, rfl⟩
      have same := (step_eq_some_iff.mpr step).symm.trans (step_eq_some_iff.mpr step')
      rw [Option.some.inj same]

theorem Takes.suffix (taken : Takes a b) : b.text <:+ a.text := by
  cases taken with
  | token read => exact (Token.takenFrom_of_read read).behind.suffix

theorem Reads.suffix (run : Reads a b) : b.text <:+ a.text := by
  induction run with
  | refl => exact List.suffix_rfl
  | tail _ taken ih => exact taken.suffix.trans ih

theorem not_takes_nil : ¬ Takes ⟨s, []⟩ c := nofun

theorem Reads.eq_of_stuck (run : Reads a b) (stuck : ∀ d, ¬ Takes a d) : a = b := by
  rcases Relation.ReflTransGen.cases_head run with same | ⟨d, taken, -⟩
  · exact same
  · exact absurd taken (stuck d)

theorem reads_nil_iff : Reads ⟨s, []⟩ ⟨s', []⟩ ↔ s = s' := by
  constructor
  · intro run
    exact congrArg Conf.state (run.eq_of_stuck fun _ => not_takes_nil)
  · intro same
    rw [same]

/-- The first step does not change where the end of the text is reached. -/
theorem Takes.reads_iff (taken : Takes a b) : Reads a ⟨s, []⟩ ↔ Reads b ⟨s, []⟩ := by
  constructor
  · intro run
    rcases Relation.ReflTransGen.cases_head run with rfl | ⟨b', first, later⟩
    · exact absurd taken not_takes_nil
    · rw [taken.unique first]
      exact later
  · exact Relation.ReflTransGen.head taken

/-- Reading all tokens and then taking them is the same as taking each when it is read. -/
theorem steps_readAll_iff {fuel : Nat} (enough : cs.length ≤ fuel) :
    (∃ ts, Token.readAll fuel cs = some ts ∧ steps s ts = some s') ↔ Reads ⟨s, cs⟩ ⟨s', []⟩ := by
  induction fuel generalizing cs s with
  | zero =>
    rw [List.length_eq_zero_iff.mp (Nat.le_zero.mp enough), reads_nil_iff]
    simp [Token.readAll, steps]
  | succ fuel ih =>
    cases cs with
    | nil =>
      rw [reads_nil_iff]
      simp [Token.readAll, steps]
    | cons c cs =>
      have short : ∀ {t rest}, Token.read (c :: cs) = some (t, rest) → rest.length ≤ fuel :=
        fun read => Nat.le_of_lt_succ <|
          Nat.lt_of_lt_of_le (Token.takenFrom_of_read read).behind.length_lt enough
      constructor
      · intro found
        rcases found with ⟨ts, all, run⟩
        rw [Token.readAll] at all
        split at all
        · cases all
        · rename_i t rest read
          rcases Option.map_eq_some_iff.mp all with ⟨later, tokens, rfl⟩
          rcases Option.bind_eq_some_iff.mp run with ⟨s₁, step, run⟩
          exact Relation.ReflTransGen.head (.token read (step_eq_some_iff.mp step))
            ((ih (short read)).mp ⟨later, tokens, run⟩)
      · intro run
        rcases Relation.ReflTransGen.cases_head run with same | ⟨d, taken, later⟩
        · cases congrArg Conf.text same
        · cases taken with
          | token read step =>
            rename_i s₁ t rest
            rcases (ih (short read)).mpr later with ⟨ts, tokens, run⟩
            refine ⟨t :: ts, ?_, ?_⟩
            · rw [Token.readAll, read]
              exact congrArg (Option.map (t :: ·)) tokens
            · rw [steps, step_eq_some_iff.mpr step]
              exact run

/-- The expression of a pattern is that of its state after the last character. -/
theorem parse?_eq_some_iff :
    Regex.parse? cs = some r ↔
      ∃ s, Reads ⟨start, cs⟩ ⟨s, []⟩ ∧ s.outer = [] ∧ s.inner.regex = r := by
  have finished : ∀ s, finish s = some r ↔ s.outer = [] ∧ s.inner.regex = r := by
    intro s
    rw [finish]
    cases s.outer <;> simp
  rw [Regex.parse?, Option.bind_eq_some_iff]
  constructor
  · intro found
    rcases found with ⟨ts, tokens, run⟩
    rcases Option.bind_eq_some_iff.mp run with ⟨s, run, last⟩
    exact ⟨s, (steps_readAll_iff (Nat.le_refl _)).mp ⟨ts, tokens, run⟩, (finished s).mp last⟩
  · intro found
    rcases found with ⟨s, run, last⟩
    rcases (steps_readAll_iff (Nat.le_refl _)).mpr run with ⟨ts, tokens, run⟩
    exact ⟨ts, tokens, Option.bind_eq_some_iff.mpr ⟨s, run, (finished s).mpr last⟩⟩

end Reader

/-! ## Repetitions -/

theorem Regex.bounded_sequence {rs : List Regex} (each : ∀ r ∈ rs, r.Bounded) :
    (sequence rs).Bounded := by
  induction rs with
  | nil => exact trivial
  | cons r rest ih =>
    rcases List.forall_mem_cons.mp each with ⟨first, later⟩
    cases rest with
    | nil => exact first
    | cons r' rest => exact ⟨first, ih later⟩

theorem Regex.bounded_choice {rs : List Regex} (each : ∀ r ∈ rs, r.Bounded) :
    (choice rs).Bounded := by
  induction rs with
  | nil => exact trivial
  | cons r rest ih =>
    rcases List.forall_mem_cons.mp each with ⟨first, later⟩
    cases rest with
    | nil => exact first
    | cons r' rest => exact ⟨first, ih later⟩

theorem Reader.bounded_atom {flags : Flags} (known : atom? flags t = some r) : r.Bounded := by
  cases t with
  | opening | flags | closing | bar | quantifier => cases known
  | _ =>
    cases known
    exact trivial

namespace Group

/-- The expressions of a group ask for no repetition that they do not allow. -/
structure Bounded (g : Group) : Prop where
  branches : ∀ r ∈ g.branches, r.Bounded
  branch : ∀ r, some r ∈ g.branch → r.Bounded

namespace Bounded

variable {inner : Group}

theorem branchRegex (bounded : g.Bounded) : g.branchRegex.Bounded := by
  refine Regex.bounded_sequence fun r member => ?_
  rcases List.mem_filterMap.mp member with ⟨o, within, rfl⟩
  exact bounded.branch r (List.mem_reverse.mp within)

theorem regex (bounded : g.Bounded) : g.regex.Bounded := by
  refine Regex.bounded_choice fun r member => ?_
  rcases List.mem_cons.mp (List.mem_reverse.mp member) with rfl | before
  · exact bounded.branchRegex
  · exact bounded.branches r before

theorem push (bounded : g.Bounded) (added : r.Bounded) : (g.push r).Bounded where
  branches := bounded.branches
  branch r' member := by
    rcases List.mem_cons.mp member with same | before
    · rcases Option.some.inj same with rfl
      exact added
    · exact bounded.branch r' before

theorem nextBranch (bounded : g.Bounded) : g.nextBranch.Bounded where
  branches r member := by
    rcases List.mem_cons.mp member with rfl | before
    · exact bounded.branchRegex
    · exact bounded.branches r before
  branch _ := nofun

theorem skip (bounded : g.Bounded) (flags : Flags) :
    Bounded { g with flags, branch := none :: g.branch } where
  branches := bounded.branches
  branch r member := bounded.branch r ((List.mem_cons.mp member).resolve_left nofun)

theorem quantify {least : Nat} {most : Option Nat} (bounded : g.Bounded)
    (fits : ∀ m, most = some m → least ≤ m) (taken : g.quantify? least most = some inner) :
    inner.Bounded := by
  unfold quantify? at taken
  split at taken
  · rename_i r rest last
    cases taken
    have each : ∀ r', some r' ∈ some r :: rest → r'.Bounded := last ▸ bounded.branch
    refine ⟨bounded.branches, fun r' member => ?_⟩
    rcases List.mem_cons.mp member with same | before
    · rcases Option.some.inj same with rfl
      exact ⟨each r List.mem_cons_self, fits⟩
    · exact each r' (List.mem_cons_of_mem _ before)
  · cases taken

theorem take (bounded : g.Bounded)
    (rounds : ∀ least most, t = .quantifier least (some most) → least ≤ most)
    (taken : g.take? t = some inner) : inner.Bounded := by
  unfold take? at taken
  split at taken
  · rename_i r atom
    cases taken
    exact bounded.push (Reader.bounded_atom atom)
  · split at taken
    · cases taken
      exact bounded.skip _
    · cases taken
      exact bounded.nextBranch
    · rename_i least most _
      refine bounded.quantify (fun m same => rounds least m ?_) taken
      rw [same]
    · cases taken

end Bounded

end Group

namespace Reader

variable {s s' : State} {a b : Conf}

/-- The expressions of all groups ask for no repetition that they do not allow. -/
def State.Bounded (s : State) : Prop :=
  ∀ g ∈ s.inner :: s.outer, g.Bounded

theorem Stepped.bounded (stepped : Stepped s t s') (bounded : s.Bounded)
    (rounds : ∀ least most, t = .quantifier least (some most) → least ≤ most) : s'.Bounded := by
  rcases List.forall_mem_cons.mp bounded with ⟨inner, outer⟩
  cases stepped with
  | inside taken => exact List.forall_mem_cons.mpr ⟨inner.take rounds taken, outer⟩
  | opening => exact List.forall_mem_cons.mpr ⟨⟨nofun, nofun⟩, bounded⟩
  | closing opened =>
    rw [opened] at outer
    rcases List.forall_mem_cons.mp outer with ⟨around, others⟩
    exact List.forall_mem_cons.mpr ⟨around.push inner.regex, others⟩

theorem Reads.bounded (run : Reads a b) (bounded : a.state.Bounded) : b.state.Bounded := by
  induction run with
  | refl => exact bounded
  | tail _ taken ih =>
    cases taken with
    | token read step => exact step.bounded ih (Token.takenFrom_of_read read).rounds

end Reader

/-- The expression of a pattern is one that the matcher decides. -/
theorem Regex.bounded_of_parse? (parsed : parse? cs = some r) : r.Bounded := by
  rcases Reader.parse?_eq_some_iff.mp parsed with ⟨s, run, -, rfl⟩
  have empty : Reader.start.Bounded := List.forall_mem_singleton.mpr ⟨nofun, nofun⟩
  exact (run.bounded empty s.inner List.mem_cons_self).regex

end RequestBinding.Pattern
