import RequestBinding.Proofs.Pattern.Escapes

/-!
# Character sets in front of a closing bracket

Inside of the bracket of a set a closing bracket of a group is a character like others, so a set
that is not closed runs on into what follows it. One that is closed is the same set whatever comes
behind. It is compared piece by piece: a sign or a named set is complete in itself, and a member or
a range wants something behind it.
-/

namespace RequestBinding.Pattern.Token

variable {cs rest more : List Char}

/-- The names of the ASCII sets. -/
def setNames : List String :=
  ["alnum", "alpha", "ascii", "blank", "cntrl", "digit", "graph", "lower", "print", "punct",
    "space", "upper", "word", "xdigit"]

theorem named?_eq_none {name : List Char} (closing : ')' ∈ name) :
    CharSet.named? (String.ofList name) = none := by
  have plain : ∀ known ∈ setNames, ')' ∉ known.toList := by decide
  have unknown : String.ofList name ∉ setNames := by
    intro known
    have free := plain _ known
    rw [String.toList_ofList] at free
    exact free closing
  simp only [setNames, List.mem_cons, not_or] at unknown
  unfold CharSet.named?
  simp [unknown]

/-- The end of the name of an ASCII set. -/
def readSetName (negated : Bool) (cs : List Char) : Option (CharSet × List Char) :=
  match cs.dropWhile (· != ':') with
  | ':' :: ']' :: after =>
    (CharSet.named? (String.ofList (cs.takeWhile (· != ':')))).map fun s =>
      (.bracket negated s, after)
  | _ => none

theorem readSetName_of_closed {negated : Bool} {cs after : List Char}
    (closed : cs.dropWhile (· != ':') = ':' :: ']' :: after) :
    readSetName negated cs =
      (CharSet.named? (String.ofList (cs.takeWhile (· != ':')))).map fun s =>
        (.bracket negated s, after) := by
  simp only [readSetName, closed]

theorem readSetName_of_unclosed {negated : Bool} {cs : List Char}
    (unclosed : ∀ after, cs.dropWhile (· != ':') ≠ ':' :: ']' :: after) :
    readSetName negated cs = none := by
  unfold readSetName
  split
  · rename_i closed
    exact absurd closed (unclosed _)
  · rfl

theorem confined_readSetName (negated : Bool) : Confined (readSetName negated) := by
  intro cs more
  rcases takeWhile_cases (· != ':') rfl cs more with ⟨c, rest, left, name, kept⟩ | ⟨gone, closing⟩
  · by_cases closed : ∃ after, c :: rest = ':' :: ']' :: after
    · rcases closed with ⟨after, same⟩
      rcases List.cons.inj same with ⟨rfl, rfl⟩
      rw [readSetName_of_closed left, readSetName_of_closed kept, name]
      cases CharSet.named? (String.ofList (cs.takeWhile (· != ':'))) <;> rfl
    · have unclosed : ∀ after, c :: (rest ++ ')' :: more) ≠ ':' :: ']' :: after := by
        intro after same
        rcases List.cons.inj same with ⟨rfl, behind⟩
        cases rest with
        | nil => cases behind
        | cons d rest =>
          rcases List.cons.inj behind with ⟨rfl, -⟩
          exact closed ⟨rest, rfl⟩
      rw [readSetName_of_unclosed fun after => kept ▸ unclosed after,
        readSetName_of_unclosed fun after => left ▸ fun same => closed ⟨after, same⟩]
      rfl
  · have unclosed : ∀ after, cs.dropWhile (· != ':') ≠ ':' :: ']' :: after := by
      intro after same
      cases gone.symm.trans same
    rw [readSetName_of_unclosed unclosed, readSetName, named?_eq_none closing]
    split <;> rfl

theorem suffix_of_readSetName {negated : Bool} {s : CharSet}
    (read : readSetName negated cs = some (s, rest)) : rest <:+ cs := by
  by_cases closed : ∃ after, cs.dropWhile (· != ':') = ':' :: ']' :: after
  · rcases closed with ⟨after, left⟩
    rw [readSetName_of_closed left] at read
    rcases Option.map_eq_some_iff.mp read with ⟨s, -, ⟨⟩⟩
    have ends : ':' :: ']' :: rest <:+ cs := left ▸ List.dropWhile_suffix _
    exact ((List.suffix_cons ']' rest).trans (List.suffix_cons ':' _)).trans ends
  · rw [readSetName_of_unclosed fun after same => closed ⟨after, same⟩] at read
    cases read

theorem readNamedSet_of_ne {cs : List Char} (other : cs.head? ≠ some ':') :
    readNamedSet cs = none := by
  unfold readNamedSet
  split
  · exact absurd rfl other
  · rfl

theorem readNamedSet_plain {cs : List Char} (other : cs.head? ≠ some '^') :
    readNamedSet (':' :: cs) = readSetName false cs := by
  cases cs with
  | nil => rfl
  | cons c rest =>
    have caret : c ≠ '^' := fun same => other (congrArg some same)
    simp [readNamedSet, caret]
    rfl

theorem head?_append_closing {c : Char} (other : ')' ≠ c) (cs more : List Char) :
    (cs ++ ')' :: more).head? = some c ↔ cs.head? = some c := by
  cases cs with
  | nil => simp [other]
  | cons d cs => exact Iff.rfl

theorem confined_readNamedSet : Confined readNamedSet := by
  intro cs more
  by_cases colon : cs.head? = some ':'
  · rcases List.head?_eq_some_iff.mp colon with ⟨name, rfl⟩
    by_cases caret : name.head? = some '^'
    · rcases List.head?_eq_some_iff.mp caret with ⟨name, rfl⟩
      exact confined_readSetName true name more
    · have caret' := mt (head?_append_closing (by decide) name more).mp caret
      rw [List.cons_append, readNamedSet_plain caret, readNamedSet_plain caret']
      exact confined_readSetName false name more
  · have colon' := mt (head?_append_closing (by decide) cs more).mp colon
    rw [readNamedSet_of_ne colon, readNamedSet_of_ne colon']
    rfl

theorem suffix_of_readNamedSet {s : CharSet} (read : readNamedSet cs = some (s, rest)) :
    rest <:+ cs := by
  by_cases colon : cs.head? = some ':'
  · rcases List.head?_eq_some_iff.mp colon with ⟨name, rfl⟩
    by_cases caret : name.head? = some '^'
    · rcases List.head?_eq_some_iff.mp caret with ⟨name, rfl⟩
      have ends := suffix_of_readSetName read
      exact (ends.trans (List.suffix_cons '^' name)).trans (List.suffix_cons ':' _)
    · rw [readNamedSet_plain caret] at read
      exact (suffix_of_readSetName read).trans (List.suffix_cons ':' name)
  · rw [readNamedSet_of_ne colon] at read
    cases read

/-- What an escape says as a member of a bracket. -/
def Escape.member? : Escape → Option (Char ⊕ CharSet)
  | char c => some (.inl c)
  | set s => some (.inr s)
  | assertion _ => none

theorem readMember_escape (cs : List Char) :
    readMember ('\\' :: cs) =
      (readEscape cs).bind fun p => p.1.member?.map fun m => (m, p.2) := by
  rw [readMember]
  rcases readEscape cs with _ | ⟨e, rest⟩
  · rfl
  · cases e <;> rfl

theorem readMember_of_ne {c : Char} (other : c ≠ '\\') (cs : List Char) :
    readMember (c :: cs) = some (.inl c, cs) := by
  unfold readMember
  split
  · rename_i same
    cases same
  · rename_i same
    exact absurd (List.cons.inj same).1 other
  · rename_i same
    rcases List.cons.inj same with ⟨rfl, rfl⟩
    rfl

/-- A reader that gives what another one reads a further meaning, or refuses it. -/
theorem Local.bind_map {β : Type} {read : List Char → Option (α × List Char)} (same : Local read)
    (meaning : α → Option β) :
    Local fun cs => (read cs).bind fun p => (meaning p.1).map fun y => (y, p.2) := by
  intro cs rest more y
  simp only [Option.bind_eq_some_iff, Option.map_eq_some_iff, Prod.mk.injEq, Prod.exists]
  constructor
  · rintro ⟨x, _, read, y', said, rfl, rfl⟩
    exact ⟨x, rest, (same cs rest more x).mp read, y', said, rfl, rfl⟩
  · rintro ⟨x, _, read, y', said, rfl, rfl⟩
    exact ⟨x, _, (same cs _ more x).mpr read, y', said, rfl, rfl⟩

theorem local_readMember : Local readMember := by
  intro cs rest more x
  cases cs with
  | nil =>
    have one : readMember ([] ++ ')' :: more) = some (.inl ')', more) := rfl
    rw [one, Option.some_inj]
    constructor
    · intro same
      exact absurd (congrArg Prod.snd same) ne_append_closing
    · nofun
  | cons c cs =>
    by_cases escaped : c = '\\'
    · subst escaped
      rw [List.cons_append, readMember_escape, readMember_escape]
      exact local_readEscape.bind_map Escape.member? cs rest more x
    · rw [List.cons_append, readMember_of_ne escaped, readMember_of_ne escaped]
      exact follow_eq_some_iff (o := some (Sum.inl c, cs))

theorem behind_of_readMember {m : Char ⊕ CharSet} (read : readMember cs = some (m, rest)) :
    Behind cs rest := by
  cases cs with
  | nil => cases read
  | cons c inner =>
    by_cases escaped : c = '\\'
    · subst escaped
      rw [readMember_escape] at read
      rcases Option.bind_eq_some_iff.mp read with ⟨p, escape, said⟩
      rcases Option.map_eq_some_iff.mp said with ⟨m, -, ⟨⟩⟩
      exact ⟨_, inner, rfl, (behind_of_readEscape escape).suffix⟩
    · rw [readMember_of_ne escaped] at read
      cases read
      exact ⟨c, rest, rfl, List.suffix_rfl⟩

/-- Opens a bracket behind the caret that may negate it. -/
def openMembers (negated : Bool) (cs : List Char) : OpenBracket × List Char :=
  match cs with
  | '-' :: _ =>
    (({ negated } : OpenBracket).add (.single '-'), cs.dropWhile (· == '-'))
  | ']' :: rest => (({ negated } : OpenBracket).add (.single ']'), rest)
  | cs => ({ negated }, cs)

theorem openBracket_plain {cs : List Char} (other : cs.head? ≠ some '^') :
    openBracket cs = openMembers false cs := by
  cases cs with
  | nil => rfl
  | cons c rest =>
    have caret : c ≠ '^' := fun same => other (congrArg some same)
    simp [openBracket, caret]
    rfl

theorem openMembers_append (negated : Bool) (cs more : List Char) :
    openMembers negated (cs ++ ')' :: more) =
      ((openMembers negated cs).1, (openMembers negated cs).2 ++ ')' :: more) := by
  cases cs with
  | nil => rfl
  | cons c rest =>
    by_cases hyphen : c = '-'
    · subst hyphen
      simp only [List.cons_append, openMembers]
      rw [← List.cons_append, Text.dropWhile_append_cons rfl]
    · by_cases bracket : c = ']'
      · subst bracket
        rfl
      · simp [openMembers, hyphen, bracket]

theorem suffix_openMembers (negated : Bool) (cs : List Char) :
    (openMembers negated cs).2 <:+ cs := by
  unfold openMembers
  split
  · exact List.dropWhile_suffix _
  · exact List.suffix_cons _ _
  · exact List.suffix_rfl

theorem suffix_openBracket (cs : List Char) : (openBracket cs).2 <:+ cs := by
  by_cases caret : cs.head? = some '^'
  · rcases List.head?_eq_some_iff.mp caret with ⟨rest, rfl⟩
    exact (suffix_openMembers true rest).trans (List.suffix_cons '^' rest)
  · rw [openBracket_plain caret]
    exact suffix_openMembers false cs

theorem openBracket_append (cs more : List Char) :
    openBracket (cs ++ ')' :: more) = ((openBracket cs).1, (openBracket cs).2 ++ ')' :: more) := by
  by_cases caret : cs.head? = some '^'
  · rcases List.head?_eq_some_iff.mp caret with ⟨rest, rfl⟩
    exact openMembers_append true rest more
  · have caret' := mt (head?_append_closing (by decide) cs more).mp caret
    rw [openBracket_plain caret, openBracket_plain caret']
    exact openMembers_append false cs more

/-- The set of a member by itself. -/
def memberSet : Char ⊕ CharSet → CharSet
  | .inl c => .single c
  | .inr s => s

/-- The range from one member to another; both have to be characters, the lower one first. -/
def range? : Char ⊕ CharSet → Char ⊕ CharSet → Option CharSet
  | .inl low, .inl high => if low ≤ high then some (.range low high) else none
  | _, _ => none

/-- Goes on behind the first member of a range, or of what turns out to be no range. -/
def readRangeFrom (first : Char ⊕ CharSet) (cs : List Char) : Option (CharSet × List Char) :=
  match cs with
  | [] => none
  | '-' :: next =>
    if next.head? == some ']' || next.head? == some '-' then some (memberSet first, cs)
    else (readMember next).bind fun p => (range? first p.1).map fun s => (s, p.2)
  | _ => some (memberSet first, cs)

theorem readRangeFrom_of_ne {c : Char} (other : c ≠ '-') (first : Char ⊕ CharSet)
    (cs : List Char) : readRangeFrom first (c :: cs) = some (memberSet first, c :: cs) := by
  simp [readRangeFrom, other]

theorem readRange_eq (cs : List Char) :
    readRange cs = (readMember cs).bind fun p => readRangeFrom p.1 p.2 := by
  unfold readRange
  rcases readMember cs with _ | ⟨first, rest⟩
  · rfl
  · cases rest with
    | nil => rfl
    | cons c next =>
      by_cases hyphen : c = '-'
      · subst hyphen
        simp only [Option.bind_some, readRangeFrom]
        split
        · cases first <;> rfl
        · rcases readMember next with _ | ⟨second, rest⟩
          · cases first <;> rfl
          · cases first with
            | inr s => rfl
            | inl low =>
              cases second with
              | inr s => rfl
              | inl high =>
                simp only [range?, Option.bind_some]
                split <;> rfl
      · rw [Option.bind_some, readRangeFrom_of_ne hyphen]
        cases first <;> simp [hyphen, memberSet]

theorem suffix_of_readRangeFrom {first : Char ⊕ CharSet} {s : CharSet}
    (read : readRangeFrom first cs = some (s, rest)) : rest <:+ cs := by
  unfold readRangeFrom at read
  split at read
  · cases read
  · rename_i next
    split at read
    · cases read
      exact List.suffix_rfl
    · rcases Option.bind_eq_some_iff.mp read with ⟨p, second, range⟩
      rcases Option.map_eq_some_iff.mp range with ⟨s, -, ⟨⟩⟩
      exact (behind_of_readMember second).suffix.trans (List.suffix_cons '-' next)
  · cases read
    exact List.suffix_rfl

theorem behind_of_readRange {s : CharSet} (read : readRange cs = some (s, rest)) :
    Behind cs rest := by
  rw [readRange_eq] at read
  rcases Option.bind_eq_some_iff.mp read with ⟨p, first, more⟩
  exact (behind_of_readMember first).trans (suffix_of_readRangeFrom more)

/-- What is left of a text in front of a closing bracket begins in front of it or behind it. -/
theorem suffix_cases {out : List Char} (ends : out <:+ cs ++ ')' :: more) :
    (∃ rest, out = rest ++ ')' :: more) ∨ out <:+ more := by
  rcases List.suffix_or_suffix_of_suffix ends (List.suffix_append cs _) with within | beyond
  · rcases List.suffix_cons_iff.mp within with whole | beyond
    · exact Or.inl ⟨[], whole⟩
    · exact Or.inr beyond
  · rcases beyond with ⟨rest, whole⟩
    exact Or.inl ⟨rest, whole.symm⟩

/-- Behind a first member there has to be something. -/
theorem readRangeFrom_iff {first : Char ⊕ CharSet} {cs rest more : List Char} {s : CharSet}
    (some : cs ≠ []) :
    readRangeFrom first (cs ++ ')' :: more) = Option.some (s, rest ++ ')' :: more) ↔
      readRangeFrom first cs = Option.some (s, rest) := by
  cases cs with
  | nil => exact absurd rfl some
  | cons c next =>
    by_cases hyphen : c = '-'
    · subst hyphen
      have ends : ∀ d, ')' ≠ d → ((next ++ ')' :: more).head? == Option.some d) =
          (next.head? == Option.some d) := by
        intro d other
        rw [Bool.eq_iff_iff, beq_iff_eq, beq_iff_eq]
        exact head?_append_closing other next more
      simp only [List.cons_append, readRangeFrom, ends _ (show ')' ≠ ']' by decide),
        ends _ (show ')' ≠ '-' by decide)]
      split
      · exact follow_eq_some_iff (o := Option.some (memberSet first, '-' :: next))
      · exact local_readMember.bind_map (range? first) next rest more s
    · rw [List.cons_append, readRangeFrom_of_ne hyphen, readRangeFrom_of_ne hyphen]
      exact follow_eq_some_iff (o := Option.some (memberSet first, c :: next))

/-- As long as something is left in front of the closing bracket, a range is read without it. -/
theorem readRange_iff {cs rest more : List Char} {s : CharSet} (some : rest ≠ []) :
    readRange (cs ++ ')' :: more) = Option.some (s, rest ++ ')' :: more) ↔
      readRange cs = Option.some (s, rest) := by
  rw [readRange_eq, readRange_eq, Option.bind_eq_some_iff, Option.bind_eq_some_iff]
  constructor
  · rintro ⟨⟨first, out⟩, read, range⟩
    have ends := suffix_of_readRangeFrom range
    rcases suffix_cases (behind_of_readMember read).suffix with ⟨inner, rfl⟩ | beyond
    · have inside : inner ≠ [] := by
        rintro rfl
        have lengths := ends.length_le
        have positive := List.length_pos_iff.mpr some
        simp only [List.nil_append, List.length_append] at lengths
        omega
      exact ⟨(first, inner), (local_readMember cs inner more first).mp read,
        (readRangeFrom_iff inside).mp range⟩
    · -- A first member that takes in the closing bracket leaves too little behind it.
      have lengths := (ends.trans beyond).length_le
      simp only [List.length_append, List.length_cons] at lengths
      omega
  · rintro ⟨⟨first, inner⟩, read, range⟩
    have inside : inner ≠ [] := by
      rintro rfl
      cases range
    exact ⟨(first, inner ++ ')' :: more), (local_readMember cs inner more first).mpr read,
      (readRangeFrom_iff inside).mpr range⟩

/-- What one step makes of the brackets that are open: the set of the outermost one when it is
closed, or the brackets that are open then. -/
abbrev BracketState := CharSet ⊕ OpenBracket × List OpenBracket

/-- Takes one piece of a bracket. -/
def bracketStep (inner : OpenBracket) (outer : List OpenBracket) (cs : List Char) :
    Option (BracketState × List Char) :=
  match cs with
  | [] => none
  | '[' :: rest =>
    match readNamedSet rest with
    | some (s, rest) => some (.inr (inner.add s, outer), rest)
    | none => some (.inr ((openBracket rest).1, inner :: outer), (openBracket rest).2)
  | ']' :: rest =>
    match outer with
    | [] => some (.inl inner.close, rest)
    | next :: outer => some (.inr (next.add inner.close, outer), rest)
  | '&' :: '&' :: rest => some (.inr (inner.operate .inter, outer), rest)
  | '-' :: '-' :: rest => some (.inr (inner.operate .diff, outer), rest)
  | '~' :: '~' :: rest => some (.inr (inner.operate .symmDiff, outer), rest)
  | cs => (readRange cs).map fun p => (.inr (inner.add p.1, outer), p.2)

theorem readBracket_succ (fuel : Nat) (inner : OpenBracket) (outer : List OpenBracket)
    (cs : List Char) :
    readBracket (fuel + 1) inner outer cs =
      match bracketStep inner outer cs with
      | none => none
      | some (.inl s, rest) => some (s, rest)
      | some (.inr (inner, outer), rest) => readBracket fuel inner outer rest := by
  conv =>
    lhs
    unfold readBracket
  unfold bracketStep
  split
  · rfl
  · rename_i rest
    simp only
    cases readNamedSet rest <;> rfl
  · cases outer <;> rfl
  · rfl
  · rfl
  · rfl
  · cases range : readRange cs <;> simp [*]

theorem pair_prefix_append {c d : Char} (first : c ≠ ')') (second : d ≠ ')') (cs more : List Char) :
    [c, d] <+: cs ++ ')' :: more ↔ [c, d] <+: cs := by
  rcases cs with _ | ⟨e, _ | ⟨e', rest⟩⟩
  · simp [first]
  · simp [second]
  · simp

/-- The text begins with a bracket or with an operation, and not with a member. -/
def BeginsBracketSign (cs : List Char) : Prop :=
  cs.head? = some '[' ∨ cs.head? = some ']' ∨ ∃ c ∈ ['&', '-', '~'], [c, c] <+: cs

theorem beginsBracketSign_append (cs more : List Char) :
    BeginsBracketSign (cs ++ ')' :: more) ↔ BeginsBracketSign cs := by
  have others : ∀ c ∈ ['&', '-', '~'], c ≠ ')' := by simp
  exact or_congr (head?_append_closing (by decide) cs more)
    (or_congr (head?_append_closing (by decide) cs more)
      (exists_congr fun c => and_congr_right fun sign =>
        pair_prefix_append (others c sign) (others c sign) cs more))

theorem bracketStep_of_not_sign {inner : OpenBracket} {outer : List OpenBracket} {cs : List Char}
    (member : ¬ BeginsBracketSign cs) :
    bracketStep inner outer cs =
      (readRange cs).map fun p => (.inr (inner.add p.1, outer), p.2) := by
  unfold bracketStep
  split
  · rfl
  · exact absurd (Or.inl rfl) member
  · exact absurd (Or.inr (Or.inl rfl)) member
  · exact absurd (Or.inr (Or.inr ⟨'&', by decide, by simp⟩)) member
  · exact absurd (Or.inr (Or.inr ⟨'-', by decide, by simp⟩)) member
  · exact absurd (Or.inr (Or.inr ⟨'~', by decide, by simp⟩)) member
  · rfl

/-- A sign is taken by itself, whatever comes behind it. -/
theorem bracketStep_of_sign {inner : OpenBracket} {outer : List OpenBracket} {cs : List Char}
    (sign : BeginsBracketSign cs) (more : List Char) :
    bracketStep inner outer (cs ++ ')' :: more) = follow more (bracketStep inner outer cs) := by
  rcases sign with opening | closing | ⟨c, member, rest, rfl⟩
  · rcases List.head?_eq_some_iff.mp opening with ⟨rest, rfl⟩
    simp only [List.cons_append, bracketStep, confined_readNamedSet rest more, openBracket_append]
    cases readNamedSet rest <;> rfl
  · rcases List.head?_eq_some_iff.mp closing with ⟨rest, rfl⟩
    cases outer <;> rfl
  · simp only [List.mem_cons, List.not_mem_nil, or_false] at member
    rcases member with rfl | rfl | rfl
    · rfl
    · rfl
    · rfl

theorem behind_of_bracketStep {inner : OpenBracket} {outer : List OpenBracket}
    {state : BracketState} (step : bracketStep inner outer cs = some (state, rest)) :
    Behind cs rest := by
  unfold bracketStep at step
  split at step
  · cases step
  · rename_i after
    split at step
    · rename_i s rest' named
      cases step
      exact ⟨'[', after, rfl, suffix_of_readNamedSet named⟩
    · cases step
      exact ⟨'[', after, rfl, suffix_openBracket after⟩
  · split at step
    · cases step
      exact ⟨']', rest, rfl, List.suffix_rfl⟩
    · cases step
      exact ⟨']', rest, rfl, List.suffix_rfl⟩
  · cases step
    exact ⟨'&', _, rfl, List.suffix_cons _ _⟩
  · cases step
    exact ⟨'-', _, rfl, List.suffix_cons _ _⟩
  · cases step
    exact ⟨'~', _, rfl, List.suffix_cons _ _⟩
  · rcases Option.map_eq_some_iff.mp step with ⟨p, range, ⟨⟩⟩
    exact behind_of_readRange range

theorem bracketStep_iff {inner : OpenBracket} {outer : List OpenBracket} {state : BracketState}
    (some : rest ≠ [] ∨ ∃ s, state = .inl s) :
    bracketStep inner outer (cs ++ ')' :: more) = Option.some (state, rest ++ ')' :: more) ↔
      bracketStep inner outer cs = Option.some (state, rest) := by
  by_cases sign : BeginsBracketSign cs
  · rw [bracketStep_of_sign sign more]
    exact follow_eq_some_iff
  · rw [bracketStep_of_not_sign sign,
      bracketStep_of_not_sign (mt (beginsBracketSign_append cs more).mp sign),
      Option.map_eq_some_iff, Option.map_eq_some_iff]
    constructor
    · rintro ⟨⟨s, out⟩, range, same⟩
      rcases Prod.mk.inj same with ⟨rfl, rfl⟩
      have inside : rest ≠ [] := some.resolve_right nofun
      exact ⟨(s, rest), (readRange_iff inside).mp range, rfl⟩
    · rintro ⟨⟨s, out⟩, range, same⟩
      rcases Prod.mk.inj same with ⟨rfl, rfl⟩
      have inside : out ≠ [] := some.resolve_right nofun
      exact ⟨(s, out ++ ')' :: more), (readRange_iff inside).mpr range, rfl⟩

theorem readBracket_eq_some_iff {fuel : Nat} {inner : OpenBracket} {outer : List OpenBracket}
    {s : CharSet} :
    readBracket (fuel + 1) inner outer cs = some (s, rest) ↔
      bracketStep inner outer cs = some (.inl s, rest) ∨
        ∃ inner' outer' middle,
          bracketStep inner outer cs = some (.inr (inner', outer'), middle) ∧
            readBracket fuel inner' outer' middle = some (s, rest) := by
  rw [readBracket_succ]
  rcases bracketStep inner outer cs with _ | ⟨closed | ⟨inner', outer'⟩, middle⟩
  · simp
  · simp
  · constructor
    · intro later
      exact Or.inr ⟨inner', outer', middle, rfl, later⟩
    · intro either
      rcases either with ⟨⟨⟩⟩ | ⟨_, _, _, ⟨⟩, later⟩
      exact later

theorem behind_of_readBracket {fuel : Nat} {inner : OpenBracket} {outer : List OpenBracket}
    {s : CharSet} (read : readBracket fuel inner outer cs = some (s, rest)) : Behind cs rest := by
  induction fuel generalizing inner outer cs with
  | zero => cases read
  | succ fuel ih =>
    rcases readBracket_eq_some_iff.mp read with last | ⟨inner', outer', middle, step, later⟩
    · exact behind_of_bracketStep last
    · exact (behind_of_bracketStep step).trans (ih later).suffix

/-- A bracket that is closed in front of a closing bracket of a group is read without it. The
induction is on the steps for the text alone, with enough of them allowed for both texts. -/
theorem readBracket_iff {fuel fuel' : Nat} {inner : OpenBracket} {outer : List OpenBracket}
    {s : CharSet} (enough : cs.length < fuel) (enough' : (cs ++ ')' :: more).length < fuel') :
    readBracket fuel' inner outer (cs ++ ')' :: more) = some (s, rest ++ ')' :: more) ↔
      readBracket fuel inner outer cs = some (s, rest) := by
  induction fuel generalizing fuel' inner outer cs with
  | zero => exact absurd enough (Nat.not_lt_zero _)
  | succ fuel ih =>
    cases fuel' with
    | zero => exact absurd enough' (Nat.not_lt_zero _)
    | succ fuel' =>
      rw [readBracket_eq_some_iff, readBracket_eq_some_iff, bracketStep_iff (Or.inr ⟨s, rfl⟩)]
      refine or_congr_right ⟨?_, ?_⟩
      · rintro ⟨inner', outer', out, step, later⟩
        have longer := (behind_of_readBracket later).length_lt
        have shorter := (behind_of_bracketStep step).length_lt
        rcases suffix_cases (behind_of_bracketStep step).suffix with ⟨middle, rfl⟩ | beyond
        · have inside : middle ≠ [] := by
            rintro rfl
            simp only [List.length_append, List.length_nil] at longer
            omega
          have own := (bracketStep_iff (Or.inl inside)).mp step
          have fewer := (behind_of_bracketStep own).length_lt
          exact ⟨inner', outer', middle, own,
            (ih (by omega) (by omega)).mp later⟩
        · -- Once the closing bracket is taken, no later step gives it back.
          have lengths := beyond.length_le
          simp only [List.length_append, List.length_cons] at longer
          omega
      · rintro ⟨inner', outer', middle, step, later⟩
        have fewer := (behind_of_bracketStep step).length_lt
        simp only [List.length_append] at enough'
        exact ⟨inner', outer', middle ++ ')' :: more,
          (bracketStep_iff (Or.inl (behind_of_readBracket later).ne_nil)).mpr step,
          (ih (by omega) (by simp only [List.length_append]; omega)).mpr later⟩

/-- Reads a whole bracket behind its opening. -/
def readSet (cs : List Char) : Option (CharSet × List Char) :=
  readBracket (cs.length + 1) (openBracket cs).1 [] (openBracket cs).2

theorem local_readSet : Local readSet := by
  intro cs rest more s
  have shorter := (suffix_openBracket cs).length_le
  unfold readSet
  rw [openBracket_append]
  apply readBracket_iff
  · omega
  · rw [List.length_append, List.length_append]
    omega

end RequestBinding.Pattern.Token
