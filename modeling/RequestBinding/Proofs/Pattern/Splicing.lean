import RequestBinding.Pattern.Dialect
import RequestBinding.Proofs.Pattern.Laws
import RequestBinding.Proofs.Pattern.Reading

/-!
# Patterns between brackets

The dialect keeps the laws of an engine (`lawful_dialect`). What they ask of its reader is about
patterns in a group that is written around them. As long as a pattern leaves the group open, the
reader does inside of the group what it would do by itself (`Reader.State.within`), and reads the
same from the text with the closing bracket behind it as from the text alone
(`Reader.Conf.follow`). The first closing bracket that is taken while nothing else is open ends the
group.

So a pattern that can be read by itself is read whole inside of the group, and the result is its
expression (`Regex.parse?_grouped`), between the two anchors if they are there
(`Regex.parse?_anchored`). And whenever a group is closed, what stands in it can be read by itself
(`exists_cut_of_parse?`).
-/

namespace RequestBinding

namespace Pattern

variable {s s' : Reader.State} {g : Group} {cs rest more : List Char} {r : Regex} {t : Token}

namespace Reader

variable {a b c : Conf}

/-! ## A closing bracket behind the text -/

/-- The same reader with a closing bracket and more behind its text. -/
def Conf.follow (c : Conf) (more : List Char) : Conf :=
  ⟨c.state, c.text ++ ')' :: more⟩

theorem Takes.follow (taken : Takes a b) (more : List Char) :
    Takes (a.follow more) (b.follow more) := by
  cases taken with
  | token read step => exact .token ((Token.local_read _ _ more _).mpr read) step

theorem Reads.follow (run : Reads a b) (more : List Char) :
    Reads (a.follow more) (b.follow more) :=
  Relation.ReflTransGen.lift (Conf.follow · more) (fun _ _ taken => taken.follow more) _ _ run

/-- Up to the closing bracket behind its text the reader does what it does without it. -/
theorem Reads.of_follow (run : Reads (a.follow more) c) :
    (∃ b, c = b.follow more ∧ Reads a b) ∨ c.text <:+ more := by
  induction run with
  | refl => exact Or.inl ⟨a, rfl, .refl⟩
  | tail _ taken ih =>
    rcases ih with ⟨b, rfl, before⟩ | beyond
    · rcases Token.suffix_cases taken.suffix with ⟨rest, same⟩ | beyond
      · rcases taken with ⟨read, step⟩
        subst same
        have own := (Token.local_read _ _ _ _).mp read
        exact Or.inl ⟨⟨_, rest⟩, rfl, before.tail (.token own step)⟩
      · exact Or.inr beyond
    · exact Or.inr (taken.suffix.trans beyond)

theorem reads_follow_iff :
    Reads ⟨s, cs ++ ')' :: more⟩ ⟨s', rest ++ ')' :: more⟩ ↔ Reads ⟨s, cs⟩ ⟨s', rest⟩ := by
  constructor
  · intro run
    have framed : Reads (Conf.follow ⟨s, cs⟩ more) ⟨s', rest ++ ')' :: more⟩ := run
    rcases framed.of_follow with ⟨b, same, before⟩ | beyond
    · rcases Conf.mk.inj same with ⟨rfl, texts⟩
      rw [List.append_left_inj] at texts
      rw [texts]
      exact before
    · have lengths := beyond.length_le
      simp only [List.length_append, List.length_cons] at lengths
      omega
  · intro run
    exact run.follow more

/-! ## Inside of a group -/

/-- The same reader inside of one more group, below all that are open. -/
def State.within (s : State) (g : Group) : State :=
  { s with outer := s.outer ++ [g] }

/-- The reader that has closed the only open group. -/
def State.leave (s : State) (g : Group) : State :=
  { s with inner := g.push s.inner.regex, outer := [] }

/-- A step does not look at a group below the open ones. -/
theorem Stepped.within (stepped : Stepped s t s') (g : Group) :
    Stepped (s.within g) t (s'.within g) := by
  cases stepped with
  | inside taken => exact .inside taken
  | opening fresh => exact .opening fresh
  | closing outer =>
    refine .closing ?_
    rw [State.within, outer]
    rfl

/-- Inside of a group the reader takes a step that it takes by itself, or it leaves the group. -/
theorem Stepped.of_within (stepped : Stepped (s.within g) t s') :
    (∃ s₁, Stepped s t s₁ ∧ s' = s₁.within g) ∨
      t = .closing ∧ s.outer = [] ∧ s' = s.leave g := by
  cases stepped with
  | inside taken => exact Or.inl ⟨_, .inside taken, rfl⟩
  | opening fresh => exact Or.inl ⟨_, .opening fresh, rfl⟩
  | closing outer =>
    rename_i g' outer'
    cases own : s.outer with
    | nil =>
      have only : [g] = g' :: outer' := by
        rw [← outer, State.within, own]
        rfl
      rcases List.cons.inj only with ⟨rfl, rfl⟩
      exact Or.inr ⟨rfl, rfl, rfl⟩
    | cons first later =>
      have same : first :: (later ++ [g]) = g' :: outer' := by
        rw [← outer, State.within, own]
        rfl
      rcases List.cons.inj same with ⟨rfl, rfl⟩
      exact Or.inl ⟨_, .closing own, rfl⟩

/-- The same reader and text inside of one more group. -/
def Conf.within (c : Conf) (g : Group) : Conf :=
  ⟨c.state.within g, c.text⟩

theorem Takes.within (taken : Takes a b) (g : Group) : Takes (a.within g) (b.within g) := by
  cases taken with
  | token read step => exact .token read (step.within g)

theorem Reads.within (run : Reads a b) (g : Group) : Reads (a.within g) (b.within g) :=
  Relation.ReflTransGen.lift (Conf.within · g) (fun _ _ taken => taken.within g) _ _ run

/-- Inside of a group the reader does what it does by itself, up to the first closing bracket that
it takes when nothing else is open. -/
theorem Reads.of_within (run : Reads (a.within g) c) :
    (∃ b, c = b.within g ∧ Reads a b) ∨
      ∃ s after, Reads a ⟨s, ')' :: after⟩ ∧ s.outer = [] ∧ Reads ⟨s.leave g, after⟩ c := by
  induction run with
  | refl => exact Or.inl ⟨a, rfl, .refl⟩
  | tail _ taken ih =>
    rcases ih with ⟨b, rfl, before⟩ | ⟨s, after, before, closed, later⟩
    · rcases taken with ⟨read, step⟩
      rcases step.of_within with ⟨s, own, rfl⟩ | ⟨rfl, closed, rfl⟩
      · exact Or.inl ⟨⟨s, _⟩, rfl, before.tail (.token read own)⟩
      · have bracket : b = ⟨b.state, ')' :: _⟩ :=
          congrArg (Conf.mk b.state) ((Token.takenFrom_of_read read).bracket rfl)
        exact Or.inr ⟨b.state, _, bracket ▸ before, closed, .refl⟩
    · exact Or.inr ⟨s, after, before, closed, later.tail taken⟩

end Reader

/-! ## In a group and between the anchors -/

/-- The expression between the two anchors of a text. -/
def Regex.anchored (r : Regex) : Regex :=
  .seq (.assertion .textStart) (.seq r (.assertion .textEnd))

theorem Regex.matches_assertion_iff {a : Assertion} {before piece after : List Char} :
    Matches (.assertion a) before piece after ↔
      piece = [] ∧ a.holds before.getLast? after.head? = true := by
  constructor
  · intro found
    cases found with
    | assertion holds => exact ⟨rfl, holds⟩
  · intro both
    obtain ⟨rfl, holds⟩ := both
    exact .assertion holds

theorem Regex.matches_textStart : Matches (.assertion .textStart) = Meaning.start := by
  funext before piece after
  simp [matches_assertion_iff, Meaning.start, Assertion.holds, and_comm]

theorem Regex.matches_textEnd : Matches (.assertion .textEnd) = Meaning.finish := by
  funext before piece after
  simp [matches_assertion_iff, Meaning.finish, Assertion.holds]

theorem Regex.matches_seq {r₁ r₂ : Regex} :
    Matches (.seq r₁ r₂) = Meaning.seq (Matches r₁) (Matches r₂) := by
  funext before piece after
  exact propext matches_seq_iff

theorem Regex.matches_anchored :
    Matches r.anchored = Meaning.start.seq (Meaning.seq (Matches r) .finish) := by
  rw [anchored, matches_seq, matches_seq, matches_textStart, matches_textEnd]

namespace Reader

/-- A group in which nothing but expressions has been read. -/
def plain (branch : List (Option Regex)) : Group :=
  { flags := {}, branch }

/-- The reader gets into a group. -/
theorem takes_opening (branch : List (Option Regex)) (cs : List Char) :
    Takes ⟨{ inner := plain branch }, '(' :: '?' :: ':' :: cs⟩
      (Conf.within ⟨start, cs⟩ (plain branch)) :=
  .token rfl (.opening rfl)

/-- The first anchor takes the first place. -/
theorem takes_caret (cs : List Char) :
    Takes ⟨start, '^' :: cs⟩ ⟨{ inner := plain [some (.assertion .textStart)] }, cs⟩ :=
  .token rfl (.inside rfl)

/-- The reader leaves the group. -/
theorem takes_closing (closed : s.outer = []) (g : Group) (more : List Char) :
    Takes ⟨s.within g, ')' :: more⟩ ⟨s.leave g, more⟩ := by
  have only : (s.within g).outer = [g] := by
    rw [State.within, closed]
    rfl
  exact .token rfl (.closing only)

/-- A group around what is read whole is read whole. -/
theorem reads_grouped (run : Reads ⟨start, cs⟩ ⟨s, []⟩) (closed : s.outer = [])
    (branch : List (Option Regex)) (more : List Char) :
    Reads ⟨{ inner := plain branch }, '(' :: '?' :: ':' :: (cs ++ ')' :: more)⟩
      ⟨s.leave (plain branch), more⟩ := by
  have inside : Reads (Conf.within ⟨start, cs ++ ')' :: more⟩ (plain branch))
      ⟨s.within (plain branch), ')' :: more⟩ := (run.follow more).within _
  exact .head (takes_opening branch _) (inside.tail (takes_closing closed _ more))

end Reader

open Reader

/-- A group denotes what the pattern in it denotes. -/
theorem Regex.parse?_grouped {p : String} (parsed : parse? p.toList = some r) :
    parse? (grouped p).toList = some r := by
  rcases parse?_eq_some_iff.mp parsed with ⟨s, run, closed, rfl⟩
  have text : (grouped p).toList = '(' :: '?' :: ':' :: (p.toList ++ [')']) := by simp [grouped]
  rw [text]
  exact parse?_eq_some_iff.mpr ⟨s.leave (plain []), reads_grouped run closed [] [], rfl, rfl⟩

/-- The anchored form of a pattern has its expression between the anchors. -/
theorem Regex.parse?_anchored {p : String} (parsed : parse? p.toList = some r) :
    parse? ("^" ++ grouped p ++ "$").toList = some r.anchored := by
  rcases parse?_eq_some_iff.mp parsed with ⟨s, run, closed, rfl⟩
  have text : ("^" ++ grouped p ++ "$").toList =
      '^' :: '(' :: '?' :: ':' :: (p.toList ++ [')', '$']) := by simp [grouped]
  let left : State := s.leave (plain [some (.assertion .textStart)])
  have dollar : Takes ⟨left, ['$']⟩
      ⟨{ left with inner := left.inner.push (.assertion .textEnd) }, []⟩ :=
    .token rfl (.inside rfl)
  have whole := (reads_grouped run closed [some (.assertion .textStart)] ['$']).tail dollar
  rw [text]
  exact parse?_eq_some_iff.mpr ⟨_, .head (takes_caret _) whole, rfl, rfl⟩

/-- A group that is opened behind the first anchor is closed by a bracket, and what comes before it
can be read by itself. -/
theorem exists_cut_of_parse? (parsed : Regex.parse? ('^' :: '(' :: '?' :: ':' :: cs) = some r) :
    ∃ q rest, cs = q ++ ')' :: rest ∧ (Regex.parse? q).isSome := by
  rcases parse?_eq_some_iff.mp parsed with ⟨s, run, closed, -⟩
  rw [(takes_caret _).reads_iff, (takes_opening _ _).reads_iff] at run
  rcases run.of_within with ⟨b, same, -⟩ | ⟨s₁, rest, before, closed₁, -⟩
  · -- The group cannot be open at the end.
    rcases Conf.mk.inj same with ⟨rfl, -⟩
    cases List.append_eq_nil_iff.mp closed with
    | intro _ impossible => cases impossible
  · rcases before.suffix with ⟨q, rfl⟩
    have own : Reads ⟨start, q⟩ ⟨s₁, []⟩ := reads_follow_iff.mp before
    exact ⟨q, rest, rfl,
      Option.isSome_of_eq_some (parse?_eq_some_iff.mpr ⟨s₁, own, closed₁, rfl⟩)⟩

/-! ## The laws -/

/-- The meaning of a pattern is that of the expression that it denotes. -/
def dialectMeaning (pattern : String) : Meaning := fun before piece after =>
  ∃ r, Regex.parse? pattern.toList = some r ∧ r.Matches before piece after

theorem dialectMeaning_eq {p : String} (parsed : Regex.parse? p.toList = some r) :
    dialectMeaning p = r.Matches := by
  funext before piece after
  simp [dialectMeaning, parsed]

theorem isSome_read?_iff {p : String} :
    (Engine.read? p).isSome ↔ ∃ r, Regex.parse? p.toList = some r := by
  rw [Engine.read?, dialect, Option.isSome_map, Option.isSome_iff_exists]

/-- The dialect does what is documented of engines. -/
theorem lawful_dialect : Engine.Lawful dialectMeaning where
  search := by
    intro p finds read s
    rcases Option.map_eq_some_iff.mp read with ⟨r, parsed, rfl⟩
    rw [dialectMeaning_eq parsed]
    exact (Regex.bounded_of_parse? parsed).acceptsWithin_iff s.toList
  closes := by
    intro rest readable
    rcases isSome_read?_iff.mp readable with ⟨r, parsed⟩
    rw [String.toList_append] at parsed
    rcases exists_cut_of_parse? parsed with ⟨q, behind, same, front⟩
    refine ⟨.ofList q, .ofList behind, String.toList_injective (by simpa using same), ?_⟩
    rw [isSome_read?_iff, String.toList_ofList]
    exact Option.isSome_iff_exists.mp front
  group := by
    intro p readable _
    rcases isSome_read?_iff.mp readable with ⟨r, parsed⟩
    rw [dialectMeaning_eq parsed, dialectMeaning_eq (Regex.parse?_grouped parsed)]
  anchors := by
    intro p readable _
    rcases isSome_read?_iff.mp readable with ⟨r, parsed⟩
    have inside := Regex.parse?_grouped parsed
    refine ⟨isSome_read?_iff.mpr ⟨r, inside⟩, ?_⟩
    rw [dialectMeaning_eq (Regex.parse?_anchored parsed), dialectMeaning_eq inside,
      Regex.matches_anchored]

end Pattern

end RequestBinding
