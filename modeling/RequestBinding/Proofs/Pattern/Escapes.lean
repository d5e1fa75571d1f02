import RequestBinding.Pattern.Token
import RequestBinding.Proofs.Text.Cutting

/-!
# Escapes in front of a closing bracket

A pattern that is put between brackets is read out of a longer text, so each reader of its pieces
has to be compared with itself on a text where a closing bracket and more come behind. Some readers
never get past such a bracket. The others may take it: a backslash escapes it, and flags end in it.
These read the same from both texts as long as they leave the bracket.
-/

namespace RequestBinding

theorem Numeral.isSome_digitValue?_of_readDigits {base limit value n : Nat}
    {overflow : NumeralError} {cs : List Char}
    (read : readDigits base limit overflow value cs = .ok n) :
    ∀ c ∈ cs, (digitValue? base c).isSome = true := by
  induction cs generalizing value with
  | nil => exact List.forall_mem_nil _
  | cons c rest ih =>
    unfold readDigits at read
    split at read
    · cases read
    · rename_i d digit
      simp only at read
      split at read
      · exact List.forall_mem_cons.mpr ⟨by rw [digit]; rfl, ih read⟩
      · cases read

namespace Pattern.Token

variable {α : Type} {cs rest more : List Char} {x : α}

/-! ## Readers -/

/-- Adds a closing bracket and more behind what a reader leaves. -/
def follow (more : List Char) (outcome : Option (α × List Char)) : Option (α × List Char) :=
  outcome.map fun p => (p.1, p.2 ++ ')' :: more)

/-- The reader does not get past a closing bracket. -/
def Confined (read : List Char → Option (α × List Char)) : Prop :=
  ∀ cs more, read (cs ++ ')' :: more) = follow more (read cs)

/-- Whatever comes behind a closing bracket, the reader takes the same from the text in front of it,
as long as it does not take the bracket. -/
def Local (read : List Char → Option (α × List Char)) : Prop :=
  ∀ cs rest more x, read (cs ++ ')' :: more) = some (x, rest ++ ')' :: more) ↔
    read cs = some (x, rest)

theorem follow_eq_some_iff {o : Option (α × List Char)} :
    follow more o = some (x, rest ++ ')' :: more) ↔ o = some (x, rest) := by
  cases o with
  | none => exact ⟨nofun, nofun⟩
  | some p =>
    rw [follow, Option.map_some, Option.some_inj, Option.some_inj, Prod.ext_iff, Prod.ext_iff,
      List.append_left_inj]

theorem ne_append_closing : more ≠ rest ++ ')' :: more := by
  intro same
  have lengths := congrArg List.length same
  rw [List.length_append, List.length_cons] at lengths
  omega

/-- The rest is an end of what comes behind the first character of a text. -/
def Behind (cs rest : List Char) : Prop :=
  ∃ c inner, cs = c :: inner ∧ rest <:+ inner

theorem Behind.suffix (behind : Behind cs rest) : rest <:+ cs := by
  rcases behind with ⟨c, inner, rfl, ends⟩
  exact ends.trans (List.suffix_cons c inner)

theorem Behind.length_lt (behind : Behind cs rest) : rest.length < cs.length := by
  rcases behind with ⟨c, inner, rfl, ends⟩
  exact Nat.lt_succ_of_le ends.length_le

theorem Behind.trans {last : List Char} (behind : Behind cs rest) (ends : last <:+ rest) :
    Behind cs last := by
  rcases behind with ⟨c, inner, rfl, first⟩
  exact ⟨c, inner, rfl, ends.trans first⟩

theorem Behind.ne_nil (behind : Behind cs rest) : cs ≠ [] := by
  rcases behind with ⟨c, inner, rfl, -⟩
  exact List.cons_ne_nil c inner

/-- Up to a character that is not the closing bracket: either it comes before the bracket, or the
bracket is passed on the way. -/
theorem takeWhile_cases (p : Char → Bool) (passes : p ')' = true) (cs more : List Char) :
    (∃ c rest, cs.dropWhile p = c :: rest ∧
      (cs ++ ')' :: more).takeWhile p = cs.takeWhile p ∧
      (cs ++ ')' :: more).dropWhile p = c :: (rest ++ ')' :: more)) ∨
    cs.dropWhile p = [] ∧ ')' ∈ (cs ++ ')' :: more).takeWhile p := by
  cases left : cs.dropWhile p with
  | cons c rest =>
    refine Or.inl ⟨c, rest, rfl, ?_, ?_⟩
    · have stops : (cs.takeWhile p).length ≠ cs.length := by
        intro same
        have whole := congrArg List.length (List.takeWhile_append_dropWhile (p := p) (l := cs))
        rw [List.length_append, same, left, List.length_cons] at whole
        omega
      rw [List.takeWhile_append, if_neg stops]
    · rw [List.dropWhile_append, left]
      rfl
  | nil =>
    refine Or.inr ⟨rfl, ?_⟩
    have whole := List.takeWhile_append_dropWhile (p := p) (l := cs)
    rw [left, List.append_nil] at whole
    rw [List.takeWhile_append, if_pos (congrArg List.length whole), List.takeWhile_cons, passes]
    exact List.mem_append_right _ List.mem_cons_self

/-! ## Escapes -/

theorem hexNumber?_eq_none {cs : List Char} (closing : ')' ∈ cs) : hexNumber? cs = none := by
  unfold hexNumber?
  split
  · rename_i n read
    unfold Numeral.readMagnitude at read
    split at read
    · cases read
    · have digit := Numeral.isSome_digitValue?_of_readDigits read ')' closing
      cases digit
  · rfl

theorem readCode_of_ne {digits : Nat} {cs : List Char} (other : cs.head? ≠ some '\x7b') :
    readCode digits cs =
      if (cs.take digits).length < digits then none
      else (hexNumber? (cs.take digits)).bind fun n =>
        (charOfCode? n).map fun c => (c, cs.drop digits) := by
  unfold readCode
  split
  · exact absurd rfl other
  · rfl

theorem confined_readCode (digits : Nat) : Confined (readCode digits) := by
  intro cs more
  by_cases brace : cs.head? = some '\x7b'
  · rcases List.head?_eq_some_iff.mp brace with ⟨rest, rfl⟩
    simp only [List.cons_append, readCode]
    rcases takeWhile_cases (· != '\x7d') rfl rest more with
      ⟨c, after, left, digits, kept⟩ | ⟨gone, closing⟩
    · rw [left, digits, kept]
      simp only
      cases hexNumber? (rest.takeWhile (· != '\x7d')) with
      | none => rfl
      | some n =>
        simp only [Option.bind_some]
        cases charOfCode? n <;> rfl
    · rw [gone, hexNumber?_eq_none closing]
      split <;> rfl
  · have brace' : (cs ++ ')' :: more).head? ≠ some '\x7b' := by
      cases cs with
      | nil => nofun
      | cons c rest => exact brace
    rw [readCode_of_ne brace, readCode_of_ne brace']
    by_cases short : cs.length < digits
    · have closing : ')' ∈ (cs ++ ')' :: more).take digits := by
        rw [List.take_append, List.take_cons (by omega)]
        exact List.mem_append_right _ List.mem_cons_self
      have few : (cs.take digits).length < digits := by
        rw [List.length_take]
        omega
      rw [if_pos few, hexNumber?_eq_none closing]
      split <;> rfl
    · have enough := Nat.le_of_not_lt short
      rw [List.take_append_of_le_length enough, List.drop_append_of_le_length enough]
      split
      · rfl
      · cases hexNumber? (cs.take digits) with
        | none => rfl
        | some n =>
          simp only [Option.bind_some]
          cases charOfCode? n <;> rfl

theorem readEscape_cons (c : Char) (cs more : List Char) :
    readEscape (c :: (cs ++ ')' :: more)) = follow more (readEscape (c :: cs)) := by
  simp only [readEscape]
  split
  case h_1 =>
    rw [confined_readCode]
    cases readCode 2 cs <;> rfl
  case h_2 =>
    rw [confined_readCode]
    cases readCode 4 cs <;> rfl
  case h_3 =>
    rw [confined_readCode]
    cases readCode 8 cs <;> rfl
  case h_22 => split <;> rfl
  all_goals rfl

theorem suffix_of_readCode {digits : Nat} {c : Char} (read : readCode digits cs = some (c, rest)) :
    rest <:+ cs := by
  by_cases brace : cs.head? = some '\x7b'
  · rcases List.head?_eq_some_iff.mp brace with ⟨inner, rfl⟩
    simp only [readCode] at read
    split at read
    · cases read
    · rename_i d after left
      rcases Option.bind_eq_some_iff.mp read with ⟨n, -, coded⟩
      rcases Option.map_eq_some_iff.mp coded with ⟨c, -, ⟨⟩⟩
      have ends : d :: rest <:+ inner := left ▸ List.dropWhile_suffix _
      exact ((List.suffix_cons d rest).trans ends).trans (List.suffix_cons _ inner)
  · rw [readCode_of_ne brace] at read
    split at read
    · cases read
    · rcases Option.bind_eq_some_iff.mp read with ⟨n, -, coded⟩
      rcases Option.map_eq_some_iff.mp coded with ⟨c, -, ⟨⟩⟩
      exact List.drop_suffix digits cs

theorem behind_of_readEscape {e : Escape} (read : readEscape cs = some (e, rest)) :
    Behind cs rest := by
  cases cs with
  | nil => cases read
  | cons c inner =>
    refine ⟨c, inner, rfl, ?_⟩
    simp only [readEscape] at read
    split at read
    case h_1 | h_2 | h_3 =>
      rcases Option.map_eq_some_iff.mp read with ⟨p, coded, ⟨⟩⟩
      exact suffix_of_readCode coded
    case h_20 | h_21 => cases read
    case h_22 =>
      split at read
      · cases read
        exact List.suffix_rfl
      · cases read
    all_goals
      cases read
      exact List.suffix_rfl

/-- An escaped closing bracket is a character, so a backslash in front of one takes it. -/
theorem readEscape_closing (more : List Char) :
    readEscape (')' :: more) = some (.char ')', more) := rfl

theorem local_readEscape : Local readEscape := by
  intro cs rest more x
  cases cs with
  | nil =>
    rw [List.nil_append, readEscape_closing, Option.some_inj]
    constructor
    · intro same
      exact absurd (congrArg Prod.snd same) ne_append_closing
    · nofun
  | cons c cs => exact (readEscape_cons c cs more).symm ▸ follow_eq_some_iff

end Pattern.Token

end RequestBinding
