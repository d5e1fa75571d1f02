import RequestBinding.Pattern.Matcher

/-!
# What the matcher accepts

The matcher keeps the expressions that are left of a pattern while it reads a text. It accepts a
text just when the pattern matches all of it (`Regex.Bounded.acceptsWhole_iff`), and with anything
around the pattern when it matches a piece of the text (`Regex.Bounded.acceptsWithin_iff`). Behind
that is the equation of derivatives: a piece that begins with a character is matched by an
expression when the rest of the piece is matched by one of the expressions that are left after the
character (`Regex.Derives`). Assertions see through it, since they ask for no more than the
characters on either side of a place.

A repetition that cannot be carried out, because it asks for more than it allows, would break this:
it takes the empty piece as often as it is owed. So repetitions have to be `Regex.Bounded`, which
holds of all that are read.
-/

namespace RequestBinding.Pattern.Regex

/-- No repetition inside asks for more rounds than it allows. -/
def Bounded : Regex → Prop
  | seq r₁ r₂ => r₁.Bounded ∧ r₂.Bounded
  | alt r₁ r₂ => r₁.Bounded ∧ r₂.Bounded
  | repeated r least most => r.Bounded ∧ ∀ m, most = some m → least ≤ m
  | _ => True

/-! ## Rounds of repetitions -/

/-- Pieces that follow one another, each matched by the expression where it stands. -/
inductive Rounds (r : Regex) : Nat → List Char → List Char → List Char → Prop where
  | none {before after} : Rounds r 0 before [] after
  | more {n before piece₁ piece₂ after} : Matches r before piece₁ (piece₂ ++ after) →
      Rounds r n (before ++ piece₁) piece₂ after →
      Rounds r (n + 1) before (piece₁ ++ piece₂) after

variable {r r₁ r₂ : Regex} {before piece after : List Char} {least n : Nat} {most : Option Nat}

/-- A number of rounds is within the bounds of a repetition. -/
def Within (least : Nat) (most : Option Nat) (n : Nat) : Prop :=
  least ≤ n ∧ ∀ m, most = some m → n ≤ m

theorem Rounds.matches (rounds : Rounds r n before piece after) (within : Within least most n) :
    Matches (.repeated r least most) before piece after := by
  induction rounds generalizing least most with
  | none =>
    rw [Nat.le_zero.mp within.1]
    exact .stop
  | more first _ ih =>
    have allowed : most ≠ some 0 := by
      rintro rfl
      exact Nat.not_succ_le_zero _ (within.2 0 rfl)
    refine .again allowed first (ih ⟨Nat.sub_le_iff_le_add.mpr within.1, fun m bound => ?_⟩)
    rcases Option.map_eq_some_iff.mp bound with ⟨m', rfl, rfl⟩
    exact Nat.le_sub_of_add_le (within.2 m' rfl)

/-- A repetition matches what some number of rounds within its bounds matches. -/
theorem matches_repeated_iff : Matches (.repeated r least most) before piece after ↔
    ∃ n, Within least most n ∧ Rounds r n before piece after := by
  constructor
  · intro found
    generalize whole : Regex.repeated r least most = repetition at found
    induction found generalizing least most with
    | stop =>
      cases whole
      exact ⟨0, ⟨Nat.le_refl 0, fun m _ => Nat.zero_le m⟩, .none⟩
    | @again _ _ _ _ _ _ _ allowed first _ _ ih =>
      cases whole
      rcases ih rfl with ⟨n, ⟨enough, few⟩, rounds⟩
      refine ⟨n + 1, ⟨Nat.le_add_of_sub_le enough, fun m bound => ?_⟩, .more first rounds⟩
      subst bound
      have positive : m ≠ 0 := fun zero => allowed (congrArg some zero)
      have := few (m - 1) rfl
      omega
    | empty | set | assertion | seq | first | second => cases whole
  · rintro ⟨n, within, rounds⟩
    exact rounds.matches within

/-- Where the expression matches nothing, it can do so in any number of rounds first. -/
theorem Rounds.pad (free : Matches r before [] (piece ++ after))
    (rounds : Rounds r n before piece after) (extra : Nat) :
    Rounds r (n + extra) before piece after := by
  induction extra with
  | zero => exact rounds
  | succ extra ih =>
    have again : Rounds r (n + extra) (before ++ []) piece after := by
      rw [List.append_nil]
      exact ih
    exact .more free again

/-- Rounds that match nothing are all made of such. -/
theorem Rounds.free (rounds : Rounds r n before piece after) (nothing : piece = [])
    (some : n ≠ 0) : Matches r before [] after := by
  cases rounds with
  | none => exact absurd rfl some
  | more first _ =>
    rcases List.append_eq_nil_iff.mp nothing with ⟨rfl, rfl⟩
    exact first

/-- A piece that begins with a character begins in some round. Fewer rounds are left after it, and
only one fewer unless a round before has matched nothing. -/
theorem Rounds.begin {c : Char} {rest : List Char} (rounds : Rounds r n before piece after)
    (begins : piece = c :: rest) :
    ∃ k piece₁ piece₂, k < n ∧ rest = piece₁ ++ piece₂ ∧
      Matches r before (c :: piece₁) (piece₂ ++ after) ∧
      Rounds r k (before ++ c :: piece₁) piece₂ after ∧
      (k + 1 = n ∨ Matches r before [] (c :: rest ++ after)) := by
  induction rounds with
  | none => cases begins
  | @more n before piece₁ piece₂ after first others ih =>
    cases piece₁ with
    | nil =>
      rcases ih begins with ⟨k, front, back, fewer, rfl, found, left, -⟩
      rw [List.append_nil] at found left
      refine ⟨k, front, back, Nat.lt_succ_of_lt fewer, rfl, found, left, Or.inr ?_⟩
      rw [← begins]
      exact first
    | cons d front =>
      rcases List.cons.inj begins with ⟨rfl, rfl⟩
      exact ⟨n, front, piece₂, Nat.lt_succ_self n, rfl, first, others, Or.inl rfl⟩

/-! ## The empty piece -/

theorem matches_seq_iff : Matches (.seq r₁ r₂) before piece after ↔
    ∃ piece₁ piece₂, piece = piece₁ ++ piece₂ ∧ Matches r₁ before piece₁ (piece₂ ++ after) ∧
      Matches r₂ (before ++ piece₁) piece₂ after := by
  constructor
  · intro found
    cases found with
    | seq first second => exact ⟨_, _, rfl, first, second⟩
  · rintro ⟨piece₁, piece₂, rfl, first, second⟩
    exact .seq first second

theorem matches_alt_iff : Matches (.alt r₁ r₂) before piece after ↔
    Matches r₁ before piece after ∨ Matches r₂ before piece after := by
  constructor
  · intro found
    cases found with
    | first found => exact Or.inl found
    | second found => exact Or.inr found
  · intro either
    rcases either with found | found
    · exact .first found
    · exact .second found

/-- What accepts the empty piece between two characters matches it there. -/
theorem Bounded.acceptsEmpty_iff (bounded : r.Bounded) :
    r.acceptsEmpty before.getLast? after.head? = true ↔ Matches r before [] after := by
  induction r generalizing before after with
  | empty => exact ⟨fun _ => .empty, fun _ => rfl⟩
  | set ignoreCase s =>
    constructor
    · nofun
    · nofun
  | assertion a =>
    constructor
    · exact .assertion
    · intro found
      cases found with
      | assertion holds => exact holds
  | seq r₁ r₂ first second =>
    rw [acceptsEmpty, Bool.and_eq_true, first bounded.1, second bounded.2, matches_seq_iff]
    constructor
    · rintro ⟨left, right⟩
      exact ⟨[], [], rfl, left, by rwa [List.append_nil]⟩
    · rintro ⟨piece₁, piece₂, nothing, left, right⟩
      rcases List.append_eq_nil_iff.mp nothing.symm with ⟨rfl, rfl⟩
      rw [List.append_nil] at right
      exact ⟨left, right⟩
  | alt r₁ r₂ first second =>
    rw [acceptsEmpty, Bool.or_eq_true, first bounded.1, second bounded.2, matches_alt_iff]
  | repeated r least most ih =>
    rw [acceptsEmpty, Bool.or_eq_true, beq_iff_eq, ih bounded.1, matches_repeated_iff]
    constructor
    · intro either
      rcases either with rfl | free
      · exact ⟨0, ⟨Nat.le_refl 0, fun m _ => Nat.zero_le m⟩, .none⟩
      · have owed : Rounds r (0 + least) before [] after := .pad free .none least
        rw [Nat.zero_add] at owed
        exact ⟨least, ⟨Nat.le_refl least, bounded.2⟩, owed⟩
    · rintro ⟨n, ⟨enough, -⟩, rounds⟩
      cases n with
      | zero => exact Or.inl (Nat.le_zero.mp enough)
      | succ n => exact Or.inr (rounds.free rfl (Nat.succ_ne_zero n))

theorem Bounded.acceptsEmpty_cons_iff (bounded : r.Bounded) {c : Char} :
    r.acceptsEmpty before.getLast? (some c) = true ↔ Matches r before [] (c :: after) := by
  have general : r.acceptsEmpty before.getLast? (c :: after).head? = true ↔ _ :=
    bounded.acceptsEmpty_iff
  exact general

theorem Bounded.acceptsEmpty_nil_iff (bounded : r.Bounded) :
    r.acceptsEmpty before.getLast? none = true ↔ Matches r before [] [] := by
  have general : r.acceptsEmpty before.getLast? [].head? = true ↔ _ := bounded.acceptsEmpty_iff
  exact general

/-! ## Derivatives -/

theorem matches_andThen_iff :
    Matches (r₁.andThen r₂) before piece after ↔ Matches (.seq r₁ r₂) before piece after := by
  cases r₁ with
  | empty =>
    rw [matches_seq_iff]
    constructor
    · intro found
      exact ⟨[], piece, rfl, .empty, by rwa [List.append_nil]⟩
    · rintro ⟨_, piece₂, rfl, first, second⟩
      cases first
      rwa [List.append_nil] at second
  | _ => exact Iff.rfl

theorem Bounded.andThen (first : r₁.Bounded) (second : r₂.Bounded) : (r₁.andThen r₂).Bounded := by
  cases r₁ with
  | empty => exact second
  | _ => exact ⟨first, second⟩

/-- What is left of an expression asks for no more than the expression. -/
theorem Bounded.derive (bounded : r.Bounded) (left : Option Char) (c : Char) :
    ∀ d ∈ r.derive left c, d.Bounded := by
  induction r with
  | empty | assertion => nofun
  | set ignoreCase s =>
    intro d member
    unfold Regex.derive at member
    split at member
    · rw [List.mem_singleton.mp member]
      trivial
    · cases member
  | seq r₁ r₂ first second =>
    intro d member
    rcases List.mem_append.mp member with early | late
    · rcases List.mem_map.mp early with ⟨d', member', rfl⟩
      exact (first bounded.1 d' member').andThen bounded.2
    · split at late
      · exact second bounded.2 d late
      · cases late
  | alt r₁ r₂ first second =>
    intro d member
    rcases List.mem_append.mp member with one | other
    · exact first bounded.1 d one
    · exact second bounded.2 d other
  | repeated r least most ih =>
    intro d member
    unfold Regex.derive at member
    split at member
    · cases member
    · rcases List.mem_map.mp member with ⟨d', member', rfl⟩
      refine (ih bounded.1 d' member').andThen ⟨bounded.1, fun m bound => ?_⟩
      rcases Option.map_eq_some_iff.mp bound with ⟨m', bound', rfl⟩
      have fits := bounded.2 m' bound'
      split <;> omega

/-- What comes first in a sequence goes on after a character. -/
theorem matches_andThen_of_begin {c : Char} {rest : Regex} {d : Regex} {piece₁ piece₂ : List Char}
    (first : Matches d (before ++ [c]) piece₁ (piece₂ ++ after))
    (second : Matches rest (before ++ c :: piece₁) piece₂ after) :
    Matches (d.andThen rest) (before ++ [c]) (piece₁ ++ piece₂) after := by
  refine matches_andThen_iff.mpr (.seq first ?_)
  rwa [List.append_assoc]

/-- The equation of derivatives for an expression: the rest of a piece is matched by one of the
expressions that are left after its first character. -/
def Derives (r : Regex) : Prop :=
  ∀ before piece after c, Matches r before (c :: piece) after ↔
    ∃ d ∈ r.derive before.getLast? c, Matches d (before ++ [c]) piece after

theorem derives_set (ignoreCase : Bool) (s : CharSet) : (set ignoreCase s).Derives := by
  intro before piece after c
  constructor
  · intro found
    cases found with
    | set holds => exact ⟨.empty, by simp [Regex.derive, holds], .empty⟩
  · rintro ⟨d, member, found⟩
    unfold Regex.derive at member
    split at member
    · rename_i holds
      rw [List.mem_singleton.mp member] at found
      cases found
      exact .set holds
    · cases member

theorem Derives.alt (first : r₁.Derives) (second : r₂.Derives) : (alt r₁ r₂).Derives := by
  intro before piece after c
  rw [matches_alt_iff, first before piece after c, second before piece after c]
  simp only [Regex.derive, List.mem_append, or_and_right, exists_or]

theorem Derives.seq (first : r₁.Derives) (second : r₂.Derives) (bounded : r₁.Bounded) :
    (seq r₁ r₂).Derives := by
  intro before piece after c
  have free : r₁.acceptsEmpty before.getLast? (some c) = true ↔
      Matches r₁ before [] (c :: piece ++ after) := bounded.acceptsEmpty_cons_iff
  rw [matches_seq_iff]
  constructor
  · rintro ⟨piece₁, piece₂, split, left, right⟩
    cases piece₁ with
    | nil =>
      obtain rfl : piece₂ = c :: piece := split.symm
      rw [List.append_nil] at right
      rcases (second _ _ _ _).mp right with ⟨d, member, found⟩
      refine ⟨d, List.mem_append_right _ ?_, found⟩
      rw [if_pos (free.mpr left)]
      exact member
    | cons c' front =>
      rcases List.cons.inj split with ⟨rfl, rfl⟩
      rcases (first _ _ _ _).mp left with ⟨d, member, found⟩
      exact ⟨d.andThen r₂, List.mem_append_left _ (List.mem_map_of_mem member),
        matches_andThen_of_begin found right⟩
  · rintro ⟨d, member, found⟩
    rcases List.mem_append.mp member with early | late
    · rcases List.mem_map.mp early with ⟨d', member', rfl⟩
      rcases matches_seq_iff.mp (matches_andThen_iff.mp found) with
        ⟨front, back, rfl, begun, right⟩
      rw [List.append_assoc] at right
      exact ⟨c :: front, back, rfl, (first _ _ _ _).mpr ⟨d', member', begun⟩, right⟩
    · split at late
      · rename_i nothing
        refine ⟨[], c :: piece, rfl, free.mp nothing, ?_⟩
        rw [List.append_nil]
        exact (second _ _ _ _).mpr ⟨d, late, found⟩
      · cases late

/-- The bounds of the rounds that come after the first one of those that match something. -/
theorem Within.rest {free : Prop} [Decidable free] {k : Nat} (within : Within least most n)
    (fewer : k < n) (owed : k + 1 = n ∨ free) :
    Within (if free then 0 else least - 1) (most.map (· - 1)) k := by
  rcases within with ⟨enough, few⟩
  constructor
  · split
    · exact Nat.zero_le k
    · rename_i occupied
      have exact := owed.resolve_right occupied
      omega
  · intro m bound
    rcases Option.map_eq_some_iff.mp bound with ⟨m', bound', rfl⟩
    have := few m' bound'
    omega

theorem Derives.begin_repeated (each : r.Derives) (bounded : r.Bounded) {c : Char}
    (found : Matches (.repeated r least most) before (c :: piece) after) :
    ∃ d ∈ (repeated r least most).derive before.getLast? c,
      Matches d (before ++ [c]) piece after := by
  have free : r.acceptsEmpty before.getLast? (some c) = true ↔
      Matches r before [] (c :: piece ++ after) := bounded.acceptsEmpty_cons_iff
  rcases matches_repeated_iff.mp found with ⟨n, within, rounds⟩
  rcases rounds.begin rfl with ⟨k, front, back, fewer, rfl, found, left, owed⟩
  have allowed : most ≠ some 0 := by
    rintro rfl
    exact Nat.not_lt_zero k (Nat.lt_of_lt_of_le fewer (within.2 0 rfl))
  rcases (each _ _ _ _).mp found with ⟨d, member, begun⟩
  have later := left.matches (within.rest fewer (owed.imp_right free.mpr))
  refine ⟨_, ?_, matches_andThen_of_begin begun later⟩
  rw [Regex.derive, if_neg (by simpa using allowed)]
  exact List.mem_map_of_mem member

theorem Derives.repeated_of_begin (each : r.Derives) (bounded : (repeated r least most).Bounded)
    {c : Char} {d : Regex} (member : d ∈ (repeated r least most).derive before.getLast? c)
    (found : Matches d (before ++ [c]) piece after) :
    Matches (.repeated r least most) before (c :: piece) after := by
  have free : r.acceptsEmpty before.getLast? (some c) = true ↔
      Matches r before [] (c :: piece ++ after) := bounded.1.acceptsEmpty_cons_iff
  unfold Regex.derive at member
  split at member
  · cases member
  · rename_i allowed
    rcases List.mem_map.mp member with ⟨d', member', rfl⟩
    rcases matches_seq_iff.mp (matches_andThen_iff.mp found) with ⟨front, back, rfl, begun, left⟩
    rw [List.append_assoc] at left
    rcases matches_repeated_iff.mp left with ⟨k, ⟨enough, few⟩, rounds⟩
    have all : Rounds r (k + 1) before (c :: front ++ back) after :=
      .more ((each _ _ _ _).mpr ⟨d', member', begun⟩) rounds
    have below : ∀ m, most = some m → k + 1 ≤ m := by
      rintro m rfl
      have := few (m - 1) rfl
      have : m ≠ 0 := by simpa using allowed
      omega
    split at enough
    · rename_i nothing
      -- The rounds that are owed match nothing before the first character.
      have padded := all.pad (free.mp nothing) (least - (k + 1))
      refine padded.matches ⟨by omega, fun m bound => ?_⟩
      have := bounded.2 m bound
      have := below m bound
      omega
    · exact all.matches ⟨by omega, below⟩

theorem Bounded.derives (bounded : r.Bounded) : r.Derives := by
  induction r with
  | empty | assertion =>
    intro before piece after c
    exact ⟨nofun, nofun⟩
  | set ignoreCase s => exact derives_set ignoreCase s
  | alt r₁ r₂ first second => exact (first bounded.1).alt (second bounded.2)
  | seq r₁ r₂ first second => exact (first bounded.1).seq (second bounded.2) bounded.1
  | repeated r least most ih =>
    intro before piece after c
    constructor
    · exact (ih bounded.1).begin_repeated bounded.1
    · rintro ⟨d, member, found⟩
      exact (ih bounded.1).repeated_of_begin bounded member found

/-! ## Runs -/

theorem mem_gather_iff {found rest : List Regex} :
    r ∈ gather found rest ↔ r ∈ found ∨ r ∈ rest := by
  induction rest generalizing found with
  | nil => simp [gather]
  | cons first rest ih =>
    rw [gather, ih, List.mem_cons]
    split
    · rename_i known
      have member := List.contains_iff_mem.mp known
      constructor
      · intro either
        exact either.imp_right Or.inr
      · intro either
        rcases either with old | rfl | later
        · exact Or.inl old
        · exact Or.inl member
        · exact Or.inr later
    · rw [List.mem_cons]
      exact or_assoc.trans or_left_comm

/-- The matcher goes on as long as one of the expressions that are left matches the rest. -/
theorem run_eq_true_iff {states : List Regex} (bounded : ∀ r ∈ states, r.Bounded)
    (text : List Char) :
    run before.getLast? states text = true ↔ ∃ r ∈ states, Matches r before text [] := by
  induction text generalizing before states with
  | nil =>
    rw [run, List.any_eq_true]
    exact exists_congr fun r =>
      and_congr_right fun member => (bounded r member).acceptsEmpty_nil_iff
  | cons c rest ih =>
    have left : ∀ d ∈ gather [] (states.flatMap (·.derive before.getLast? c)), d.Bounded := by
      intro d member
      rcases mem_gather_iff.mp member with none | later
      · cases none
      · rcases List.mem_flatMap.mp later with ⟨r, member, derived⟩
        exact (bounded r member).derive _ _ d derived
    have next : run (before ++ [c]).getLast? _ rest = true ↔ _ := ih left
    rw [List.getLast?_concat] at next
    rw [run, next]
    constructor
    · rintro ⟨d, member, found⟩
      rcases mem_gather_iff.mp member with none | later
      · cases none
      · rcases List.mem_flatMap.mp later with ⟨r, member, derived⟩
        exact ⟨r, member, ((bounded r member).derives _ _ _ _).mpr ⟨d, derived, found⟩⟩
    · rintro ⟨r, member, found⟩
      rcases ((bounded r member).derives _ _ _ _).mp found with ⟨d, derived, rest⟩
      exact ⟨d, mem_gather_iff.mpr (Or.inr (List.mem_flatMap.mpr ⟨r, member, derived⟩)), rest⟩

/-- The matcher accepts a text just when the expression matches all of it. -/
theorem Bounded.acceptsWhole_iff (bounded : r.Bounded) (text : List Char) :
    r.acceptsWhole text = true ↔ r.MatchesWhole text := by
  have each : ∀ s ∈ [r], s.Bounded := List.forall_mem_singleton.mpr bounded
  have whole : run [].getLast? [r] text = true ↔ _ := run_eq_true_iff each text
  rw [acceptsWhole, MatchesWhole]
  exact whole.trans (by simp)

theorem matches_anything (before piece after : List Char) :
    Matches anything before piece after := by
  refine matches_repeated_iff.mpr ⟨piece.length, ⟨Nat.zero_le _, nofun⟩, ?_⟩
  induction piece generalizing before with
  | nil => exact .none
  | cons c rest ih =>
    have one : Matches (.set false .any) before [c] (rest ++ after) := .set rfl
    exact .more one (ih _)

/-- The matcher finds the expression in a text just when it matches a piece of it. -/
theorem Bounded.acceptsWithin_iff (bounded : r.Bounded) (text : List Char) :
    r.acceptsWithin text = true ↔ r.MatchesWithin text := by
  have anywhere : anything.Bounded := ⟨trivial, nofun⟩
  have padded : (seq anything (seq r anything)).Bounded := ⟨anywhere, bounded, anywhere⟩
  rw [acceptsWithin, padded.acceptsWhole_iff, MatchesWhole, matches_seq_iff]
  constructor
  · rintro ⟨before, behind, rfl, -, found⟩
    rcases matches_seq_iff.mp found with ⟨piece, after, rfl, found, -⟩
    exact ⟨before, piece, after, by simp, by simpa using found⟩
  · rintro ⟨before, piece, after, rfl, found⟩
    refine ⟨before, piece ++ after, by simp, matches_anything _ _ _, ?_⟩
    exact .seq (by simpa using found) (matches_anything _ _ _)

end RequestBinding.Pattern.Regex
