import RequestBinding.Proofs.Pattern.Brackets

/-!
# Tokens in front of a closing bracket

The first token of a pattern is the same with a closing bracket and more behind the pattern, unless
it takes in the bracket (`Token.local_read`). Names of groups and counts of quantifiers never get
past such a bracket; flags end in one, so it has to be asked whether the bracket is among what is
left. Besides that, a token takes at least one character, and a counted quantifier allows what it
asks for (`Token.takenFrom_of_read`).
-/

namespace RequestBinding.Pattern.Token

variable {cs rest more : List Char}

/-! ## Groups and flags -/

/-- Flags with the character behind them. -/
def readFlagList (on : Bool) (read : FlagChanges) (cs : List Char) :
    Option ((FlagChanges × Char) × List Char) :=
  (readFlags on read cs).map fun p => ((p.1, p.2.1), p.2.2)

theorem local_readFlagList (on : Bool) (read : FlagChanges) : Local (readFlagList on read) := by
  intro cs rest more x
  induction cs generalizing on read with
  | nil =>
    constructor
    · intro found
      have closed : readFlagList on read (')' :: more) =
          (if !on && read.all (·.2) then none else some (read.reverse, ')', more)).map
            fun p => ((p.1, p.2.1), p.2.2) := rfl
      rw [List.nil_append, closed] at found
      split at found
      · cases found
      · exact absurd (congrArg Prod.snd (Option.some.inj found)) ne_append_closing
    · nofun
  | cons c cs ih =>
    simp only [List.cons_append, readFlagList, readFlags]
    split
    · split
      · exact ⟨nofun, nofun⟩
      · exact follow_eq_some_iff (o := some ((read.reverse, c), cs))
    · split
      · split
        · exact ih false read
        · exact ⟨nofun, nofun⟩
      · split
        · exact ⟨nofun, nofun⟩
        · split
          · exact ⟨nofun, nofun⟩
          · exact ih _ _

theorem suffix_of_readFlags {on : Bool} {read changes : FlagChanges} {stop : Char}
    (found : readFlags on read cs = some (changes, stop, rest)) : rest <:+ cs := by
  induction cs generalizing on read with
  | nil => cases found
  | cons c cs ih =>
    refine List.IsSuffix.trans ?_ (List.suffix_cons c cs)
    unfold readFlags at found
    split at found
    · split at found
      · cases found
      · cases found
        exact List.suffix_rfl
    · split at found
      · split at found
        · exact ih found
        · cases found
      · split at found
        · cases found
        · split at found
          · cases found
          · exact ih found

theorem suffix_of_readFlagList {on : Bool} {read : FlagChanges} {p : FlagChanges × Char}
    (found : readFlagList on read cs = some (p, rest)) : rest <:+ cs := by
  rcases Option.map_eq_some_iff.mp found with ⟨q, flags, ⟨⟩⟩
  exact suffix_of_readFlags flags

/-- The name that characters make. -/
def name? : List Char → Option String
  | [] => none
  | c :: more =>
    if isNameChar true c && more.all (isNameChar false) then some (String.ofList (c :: more))
    else none

theorem readName_eq (cs : List Char) :
    readName cs =
      match cs.dropWhile (· != '>') with
      | [] => none
      | _ :: rest => (name? (cs.takeWhile (· != '>'))).map fun n => (n, rest) := by
  unfold readName
  cases cs.dropWhile (· != '>') with
  | nil => cases cs.takeWhile (· != '>') <;> rfl
  | cons d rest =>
    cases cs.takeWhile (· != '>') with
    | nil => rfl
    | cons c more =>
      simp only [name?]
      split <;> rfl

theorem name?_eq_none {name : List Char} (closing : ')' ∈ name) : name? name = none := by
  cases name with
  | nil => rfl
  | cons c more =>
    refine if_neg fun allowed => ?_
    rcases Bool.and_eq_true_iff.mp allowed with ⟨start, rest⟩
    rcases List.mem_cons.mp closing with rfl | later
    · cases start
    · cases List.all_eq_true.mp rest ')' later

theorem confined_readName : Confined readName := by
  intro cs more
  rw [readName_eq, readName_eq]
  rcases takeWhile_cases (· != '>') rfl cs more with ⟨c, after, left, name, kept⟩ | ⟨gone, closing⟩
  · rw [left, name, kept]
    simp only
    cases name? (cs.takeWhile (· != '>')) <;> rfl
  · rw [gone, name?_eq_none closing]
    split <;> rfl

theorem readName_of_start {c : Char} (refused : isNameChar true c = false) (other : c ≠ '>')
    (cs : List Char) : readName (c :: cs) = none := by
  have passes : (c != '>') = true := bne_iff_ne.mpr other
  rw [readName_eq, List.takeWhile_cons, passes, if_pos rfl]
  simp only [name?, refused, Bool.false_and]
  split <;> rfl

theorem suffix_of_readName {name : String} (read : readName cs = some (name, rest)) :
    rest <:+ cs := by
  rw [readName_eq] at read
  split at read
  · cases read
  · rename_i d after left
    rcases Option.map_eq_some_iff.mp read with ⟨n, -, ⟨⟩⟩
    have ends : d :: rest <:+ cs := left ▸ List.dropWhile_suffix _
    exact (List.suffix_cons d rest).trans ends

/-- What flags in a group say, by the character that ends them. -/
def groupOrFlags (changes : FlagChanges) (stop : Char) : Option Token :=
  if stop = ':' then some (.opening none changes)
  else if changes.isEmpty then none
  else some (.flags changes)

/-- Reads on behind an opening bracket and a question mark. -/
def readGroupKind (cs : List Char) : Option (Token × List Char) :=
  match cs with
  | 'P' :: '<' :: rest => (readName rest).map fun p => (.opening (some p.1) [], p.2)
  | '<' :: rest => (readName rest).map fun p => (.opening (some p.1) [], p.2)
  | cs => (readFlagList true [] cs).bind fun p =>
    (groupOrFlags p.1.1 p.1.2).map fun t => (t, p.2)

theorem readOpening_plain {cs : List Char} (other : cs.head? ≠ some '?') :
    readOpening cs = some (.opening none [], cs) := by
  unfold readOpening
  split
  · exact absurd rfl other
  · exact absurd rfl other
  · exact absurd rfl other
  · exact absurd rfl other
  · exact absurd rfl other
  · exact absurd rfl other
  · exact absurd rfl other
  · rfl

theorem readGroupKind_flags {cs : List Char} (noName : ¬ ['P', '<'] <+: cs)
    (noAngle : cs.head? ≠ some '<') :
    readGroupKind cs = (readFlagList true [] cs).bind fun p =>
      (groupOrFlags p.1.1 p.1.2).map fun t => (t, p.2) := by
  unfold readGroupKind
  split
  · exact absurd (by simp) noName
  · exact absurd rfl noAngle
  · rfl

/-- Conditions on what lies ahead or behind are refused as flags and names that do not exist. -/
theorem readOpening_mark (cs : List Char) : readOpening ('?' :: cs) = readGroupKind cs := by
  unfold readOpening
  split
  case h_1 same =>
    cases same
    rfl
  case h_2 same =>
    cases same
    rfl
  case h_3 same =>
    cases same
    simp only [readGroupKind, readName_of_start (c := '=') rfl (by decide), Option.map_none]
  case h_4 same =>
    cases same
    simp only [readGroupKind, readName_of_start (c := '!') rfl (by decide), Option.map_none]
  case h_5 same =>
    cases same
    rfl
  case h_6 same =>
    cases same
    rfl
  case h_7 noName noAngle same =>
    cases same
    rw [readGroupKind_flags]
    · rw [readFlagList]
      rcases readFlags true [] cs with _ | ⟨changes, stop, rest⟩
      · rfl
      · by_cases colon : stop = ':'
        · subst colon
          rfl
        · simp only [Option.map_some, Option.bind_some, groupOrFlags, if_neg colon]
          cases changes <;> rfl
    · rintro ⟨rest, rfl⟩
      exact noName rest rfl
    · intro angle
      rcases List.head?_eq_some_iff.mp angle with ⟨rest, rfl⟩
      exact noAngle rest rfl
  case h_8 other => exact absurd rfl (other cs)

theorem local_readGroupKind : Local readGroupKind := by
  intro cs rest more t
  by_cases named : ['P', '<'] <+: cs
  · rcases named with ⟨name, rfl⟩
    have kept := confined_readName name more
    simp only [List.cons_append, List.nil_append, readGroupKind, kept]
    cases readName name with
    | none => exact ⟨nofun, nofun⟩
    | some p => exact follow_eq_some_iff (o := some (Token.opening (some p.1) [], p.2))
  · have named' := mt (pair_prefix_append (by decide) (by decide) cs more).mp named
    by_cases angle : cs.head? = some '<'
    · rcases List.head?_eq_some_iff.mp angle with ⟨name, rfl⟩
      have kept := confined_readName name more
      simp only [List.cons_append, readGroupKind, kept]
      cases readName name with
      | none => exact ⟨nofun, nofun⟩
      | some p => exact follow_eq_some_iff (o := some (Token.opening (some p.1) [], p.2))
    · have angle' := mt (head?_append_closing (by decide) cs more).mp angle
      rw [readGroupKind_flags named angle, readGroupKind_flags named' angle']
      exact (local_readFlagList true []).bind_map (fun p => groupOrFlags p.1 p.2) cs rest more t

theorem local_readOpening : Local readOpening := by
  intro cs rest more t
  by_cases mark : cs.head? = some '?'
  · rcases List.head?_eq_some_iff.mp mark with ⟨kind, rfl⟩
    rw [List.cons_append, readOpening_mark, readOpening_mark]
    exact local_readGroupKind kind rest more t
  · have mark' := mt (head?_append_closing (by decide) cs more).mp mark
    rw [readOpening_plain mark, readOpening_plain mark']
    exact follow_eq_some_iff (o := some (Token.opening none [], cs))

/-- The token behind an opening bracket begins a group or switches flags. -/
theorem readGroupKind_spec {t : Token} (read : readGroupKind cs = some (t, rest)) :
    rest <:+ cs ∧
      ((∃ name changes, t = .opening name changes) ∨ ∃ changes, t = .flags changes) := by
  unfold readGroupKind at read
  split at read
  · rename_i name
    rcases Option.map_eq_some_iff.mp read with ⟨p, named, ⟨⟩⟩
    exact ⟨(suffix_of_readName named).trans ⟨['P', '<'], rfl⟩, Or.inl ⟨_, _, rfl⟩⟩
  · rename_i name
    rcases Option.map_eq_some_iff.mp read with ⟨p, named, ⟨⟩⟩
    exact ⟨(suffix_of_readName named).trans (List.suffix_cons '<' name), Or.inl ⟨_, _, rfl⟩⟩
  · rcases Option.bind_eq_some_iff.mp read with ⟨p, flags, said⟩
    rcases Option.map_eq_some_iff.mp said with ⟨t, meaning, same⟩
    rcases Prod.mk.inj same with ⟨rfl, rfl⟩
    refine ⟨suffix_of_readFlagList flags, ?_⟩
    unfold groupOrFlags at meaning
    split at meaning
    · cases meaning
      exact Or.inl ⟨_, _, rfl⟩
    · split at meaning
      · cases meaning
      · cases meaning
        exact Or.inr ⟨_, rfl⟩

theorem readOpening_spec {t : Token} (read : readOpening cs = some (t, rest)) :
    rest <:+ cs ∧
      ((∃ name changes, t = .opening name changes) ∨ ∃ changes, t = .flags changes) := by
  by_cases mark : cs.head? = some '?'
  · rcases List.head?_eq_some_iff.mp mark with ⟨kind, rfl⟩
    rw [readOpening_mark] at read
    rcases readGroupKind_spec read with ⟨ends, token⟩
    exact ⟨ends.trans (List.suffix_cons '?' kind), token⟩
  · rw [readOpening_plain mark] at read
    cases read
    exact ⟨List.suffix_rfl, Or.inl ⟨_, _, rfl⟩⟩

/-! ## Quantifiers -/

theorem skipLazy_append (cs more : List Char) :
    skipLazy (cs ++ ')' :: more) = skipLazy cs ++ ')' :: more := by
  cases cs with
  | nil => rfl
  | cons c rest =>
    by_cases mark : c = '?'
    · subst mark
      rfl
    · simp [skipLazy, mark]

theorem suffix_skipLazy (cs : List Char) : skipLazy cs <:+ cs := by
  unfold skipLazy
  split
  · exact List.suffix_cons _ _
  · exact List.suffix_rfl

theorem confined_readCount : Confined readCount := by
  intro cs more
  have blank : Text.isBlank ')' = false := by decide
  have digit : Text.isDigit ')' = false := by decide
  simp only [readCount, Text.dropWhile_append_cons blank, Text.dropWhile_append_cons digit,
    Text.takeWhile_append_cons digit]
  split
  · rfl
  · split <;> rfl

theorem suffix_of_readCount {n : Option Nat} (read : readCount cs = some (n, rest)) :
    rest <:+ cs := by
  have ends : ((cs.dropWhile Text.isBlank).dropWhile Text.isDigit).dropWhile Text.isBlank <:+ cs :=
    ((List.dropWhile_suffix _).trans (List.dropWhile_suffix _)).trans (List.dropWhile_suffix _)
  simp only [readCount] at read
  split at read
  · cases read
    exact ends
  · split at read
    · cases read
      exact ends
    · cases read

/-- The quantifier with a greatest count, once it is closed. -/
def closeCounted (least : Nat) (most : Option Nat) (cs : List Char) : Option (Token × List Char) :=
  match most, cs with
  | some most, '\x7d' :: rest =>
    if least ≤ most then some (.quantifier least (some most), skipLazy rest) else none
  | _, _ => none

/-- Reads on behind the least count. -/
def readMost (least : Nat) (cs : List Char) : Option (Token × List Char) :=
  match cs with
  | '\x7d' :: rest => some (.quantifier least (some least), skipLazy rest)
  | ',' :: '\x7d' :: rest => some (.quantifier least none, skipLazy rest)
  | ',' :: rest => (readCount rest).bind fun p => closeCounted least p.1 p.2
  | _ => none

theorem confined_closeCounted (least : Nat) (most : Option Nat) :
    Confined (closeCounted least most) := by
  intro cs more
  cases most with
  | none => rfl
  | some most =>
    cases cs with
    | nil => rfl
    | cons c rest =>
      by_cases brace : c = '\x7d'
      · subst brace
        simp only [List.cons_append, closeCounted, skipLazy_append]
        split <;> rfl
      · simp [closeCounted, brace, follow]

theorem readMost_of_ne {least : Nat} {c : Char} (brace : c ≠ '\x7d') (comma : c ≠ ',')
    (cs : List Char) : readMost least (c :: cs) = none := by
  simp [readMost, brace, comma]

theorem readMost_comma {least : Nat} {cs : List Char} (brace : cs.head? ≠ some '\x7d') :
    readMost least (',' :: cs) = (readCount cs).bind fun p => closeCounted least p.1 p.2 := by
  unfold readMost
  split
  case h_1 same => cases same
  case h_2 same =>
    cases same
    exact absurd rfl brace
  case h_3 same =>
    cases same
    rfl
  case h_4 other => exact absurd rfl (other cs)

theorem readCounted_eq (cs : List Char) :
    readCounted cs = (readCount cs).bind fun p => p.1.bind fun least => readMost least p.2 := by
  unfold readCounted
  rcases readCount cs with _ | ⟨_ | least, rest⟩
  · rfl
  · rfl
  · simp only [Option.bind_some]
    split
    case h_1 same =>
      cases same
      rfl
    case h_2 same =>
      cases same
      rfl
    case h_3 rest open? same =>
      cases same
      have brace : rest.head? ≠ some '\x7d' := by
        intro closed
        rcases List.head?_eq_some_iff.mp closed with ⟨after, rfl⟩
        exact open? after rfl
      rw [readMost_comma brace]
      rcases readCount rest with _ | ⟨_ | most, after⟩
      · rfl
      · rfl
      · simp only [Option.bind_some, closeCounted]
        cases after with
        | nil => rfl
        | cons c after =>
          by_cases closed : c = '\x7d'
          · subst closed
            rfl
          · simp [closed]
    case h_4 brace _ comma =>
      cases rest with
      | nil => rfl
      | cons c rest =>
        refine (readMost_of_ne ?_ ?_ rest).symm
        · rintro rfl
          exact brace least rest rfl
        · rintro rfl
          exact comma least rest rfl

theorem confined_readMost (least : Nat) : Confined (readMost least) := by
  intro cs more
  cases cs with
  | nil => exact readMost_of_ne (by decide) (by decide) more
  | cons c rest =>
    by_cases brace : c = '\x7d'
    · subst brace
      simp only [List.cons_append, readMost, skipLazy_append]
      rfl
    · by_cases comma : c = ','
      · subst comma
        by_cases closed : rest.head? = some '\x7d'
        · rcases List.head?_eq_some_iff.mp closed with ⟨rest, rfl⟩
          simp only [List.cons_append, readMost, skipLazy_append]
          rfl
        · have closed' := mt (head?_append_closing (by decide) rest more).mp closed
          rw [List.cons_append, readMost_comma closed, readMost_comma closed', confined_readCount]
          rcases readCount rest with _ | ⟨most, after⟩
          · rfl
          · exact confined_closeCounted least most after more
      · rw [List.cons_append, readMost_of_ne brace comma, readMost_of_ne brace comma]
        rfl

theorem confined_readCounted : Confined readCounted := by
  intro cs more
  rw [readCounted_eq, readCounted_eq, confined_readCount]
  rcases readCount cs with _ | ⟨_ | least, rest⟩
  · rfl
  · rfl
  · exact confined_readMost least rest more

theorem closeCounted_spec {least : Nat} {most : Option Nat} {t : Token}
    (read : closeCounted least most cs = some (t, rest)) :
    rest <:+ cs ∧ ∃ m, t = .quantifier least (some m) ∧ least ≤ m := by
  unfold closeCounted at read
  split at read
  · rename_i most inner
    split at read
    · rename_i fits
      cases read
      exact ⟨(suffix_skipLazy inner).trans (List.suffix_cons _ inner), most, rfl, fits⟩
    · cases read
  · cases read

/-- A counted quantifier allows at least as many rounds as it asks for. -/
theorem readCounted_spec {t : Token} (read : readCounted cs = some (t, rest)) :
    rest <:+ cs ∧ ∃ least most, t = .quantifier least most ∧ ∀ m, most = some m → least ≤ m := by
  rw [readCounted_eq] at read
  rcases Option.bind_eq_some_iff.mp read with ⟨⟨n, left⟩, count, more⟩
  rcases Option.bind_eq_some_iff.mp more with ⟨least, -, read⟩
  suffices spec : rest <:+ left ∧
      ∃ most, t = .quantifier least most ∧ ∀ m, most = some m → least ≤ m from
    ⟨spec.1.trans (suffix_of_readCount count), least, spec.2⟩
  simp only at read
  unfold readMost at read
  split at read
  · rename_i inner
    cases read
    refine ⟨(suffix_skipLazy inner).trans (List.suffix_cons _ inner), _, rfl, fun m same => ?_⟩
    exact Nat.le_of_eq (Option.some.inj same)
  · rename_i inner
    cases read
    exact ⟨(suffix_skipLazy inner).trans ⟨[',', '\x7d'], rfl⟩, _, rfl, nofun⟩
  · rename_i inner _
    rcases Option.bind_eq_some_iff.mp read with ⟨q, second, closed⟩
    rcases closeCounted_spec closed with ⟨ends, m, rfl, fits⟩
    have behind := (ends.trans (suffix_of_readCount second)).trans (List.suffix_cons ',' inner)
    refine ⟨behind, _, rfl, ?_⟩
    rintro _ ⟨⟩
    exact fits
  · cases read

/-! ## Tokens -/

/-- What an escape says as a token. -/
def Escape.token : Escape → Token
  | char c => .char c
  | set s => .set s
  | assertion a => .assertion a

theorem read_escape (cs : List Char) :
    read ('\\' :: cs) = (readEscape cs).bind fun p => (some p.1.token).map fun t => (t, p.2) := by
  simp only [read]
  rcases readEscape cs with _ | ⟨e, rest⟩
  · rfl
  · cases e <;> rfl

theorem read_bracket (cs : List Char) :
    read ('[' :: cs) = (readSet cs).bind fun p =>
      (some (Token.set p.1)).map fun t => (t, p.2) := by
  simp only [read, readSet]
  cases readBracket (cs.length + 1) (openBracket cs).1 [] (openBracket cs).2 <;> rfl

/-- Tokens in front of a closing bracket are read without it. -/
theorem local_read : Local read := by
  intro cs rest more t
  cases cs with
  | nil =>
    have one : read ([] ++ ')' :: more) = some (.closing, more) := rfl
    rw [one, Option.some_inj]
    constructor
    · intro same
      exact absurd (congrArg Prod.snd same) ne_append_closing
    · nofun
  | cons c cs =>
    by_cases escaped : c = '\\'
    · subst escaped
      rw [List.cons_append, read_escape, read_escape]
      exact local_readEscape.bind_map (fun e => some e.token) cs rest more t
    by_cases bracket : c = '['
    · subst bracket
      rw [List.cons_append, read_bracket, read_bracket]
      exact local_readSet.bind_map (fun s => some (.set s)) cs rest more t
    simp only [List.cons_append, read]
    split
    case h_6 => exact local_readOpening cs rest more t
    case h_7 => exact absurd rfl bracket
    case h_8 =>
      rw [skipLazy_append]
      exact follow_eq_some_iff (o := some (Token.quantifier 0 none, skipLazy cs))
    case h_9 =>
      rw [skipLazy_append]
      exact follow_eq_some_iff (o := some (Token.quantifier 1 none, skipLazy cs))
    case h_10 =>
      rw [skipLazy_append]
      exact follow_eq_some_iff (o := some (Token.quantifier 0 (some 1), skipLazy cs))
    case h_11 =>
      rw [confined_readCounted]
      exact follow_eq_some_iff
    case h_12 => exact absurd rfl escaped
    all_goals exact follow_eq_some_iff (o := some (_, cs))

/-- What is known of a token that is read from a text: it takes a character at least, it closes a
group only if it is a bracket that does, and as a quantifier it allows the rounds it asks for. -/
structure TakenFrom (t : Token) (cs rest : List Char) : Prop where
  behind : Behind cs rest
  bracket : t = .closing → cs = ')' :: rest
  rounds : ∀ least most, t = .quantifier least (some most) → least ≤ most

theorem takenFrom_of_read {t : Token} (found : read cs = some (t, rest)) : t.TakenFrom cs rest := by
  cases cs with
  | nil => cases found
  | cons c cs =>
    by_cases escaped : c = '\\'
    · subst escaped
      rw [read_escape] at found
      rcases Option.bind_eq_some_iff.mp found with ⟨⟨e, rest⟩, escape, ⟨⟩⟩
      refine ⟨⟨_, cs, rfl, (behind_of_readEscape escape).suffix⟩, ?_, ?_⟩
      · cases e <;> nofun
      · cases e <;> nofun
    by_cases bracket : c = '['
    · subst bracket
      rw [read_bracket] at found
      rcases Option.bind_eq_some_iff.mp found with ⟨⟨s, rest⟩, set, ⟨⟩⟩
      have ends := (behind_of_readBracket set).suffix.trans (suffix_openBracket cs)
      exact ⟨⟨_, cs, rfl, ends⟩, nofun, nofun⟩
    simp only [read] at found
    split at found
    case h_5 =>
      cases found
      exact ⟨⟨_, _, rfl, List.suffix_rfl⟩, fun _ => rfl, nofun⟩
    case h_6 =>
      rcases readOpening_spec found with ⟨ends, ⟨name, changes, rfl⟩ | ⟨changes, rfl⟩⟩
      · exact ⟨⟨_, cs, rfl, ends⟩, nofun, nofun⟩
      · exact ⟨⟨_, cs, rfl, ends⟩, nofun, nofun⟩
    case h_7 => exact absurd rfl bracket
    case h_8 | h_9 =>
      cases found
      exact ⟨⟨_, cs, rfl, suffix_skipLazy cs⟩, nofun, nofun⟩
    case h_10 =>
      cases found
      refine ⟨⟨_, cs, rfl, suffix_skipLazy cs⟩, nofun, fun least most same => ?_⟩
      cases same
      exact Nat.zero_le 1
    case h_11 =>
      rcases readCounted_spec found with ⟨ends, least, most, rfl, fits⟩
      refine ⟨⟨_, cs, rfl, ends⟩, nofun, fun least' most' same => ?_⟩
      rcases Token.quantifier.inj same with ⟨rfl, rfl⟩
      exact fits most' rfl
    case h_12 => exact absurd rfl escaped
    all_goals
      cases found
      exact ⟨⟨_, _, rfl, List.suffix_rfl⟩, nofun, nofun⟩

end RequestBinding.Pattern.Token
