import Mathlib.Algebra.Group.Nat.Even
import RequestBinding.Proofs.Tag.Map

/-!
# Tags are read as they are written

A tag is written as tokens between angle brackets, with a backslash before each angle bracket that
belongs to a key or a value, with spaces around keys and values, and with other text around the
tokens (`Tag.Written`). Reading gives back what the tokens say, the last one of each key
(`Tag.Written.get?_parse`).

A text can be written in this way when it does not begin or end with a space and each of its angle
brackets, like its end, comes behind an even number of backslashes (`Tag.Writable`). The reader
takes a backslash together with the character behind it. That number is why the backslash before an
angle bracket is never one that has been taken already (`Tag.Paired`).
-/

namespace RequestBinding.Tag

/-! ## Written tags -/

/-- A token: a key that has a value or none. -/
structure Token where
  key : String
  value? : Option String := none

/-- An angle bracket. -/
def isBracket (c : Char) : Bool :=
  c == '<' || c == '>'

/-- A text inside of a token: angle brackets are written with a backslash. -/
def escape (text : List Char) : List Char :=
  text.flatMap fun c => if isBracket c then ['\\', c] else [c]

/-- The number of backslashes at the end of a text. -/
def backslashes (text : List Char) : Nat :=
  (text.reverse.takeWhile (· == '\\')).length

/-- Every angle bracket of the text, and its end, comes behind an even number of backslashes. -/
def EvenlyEscaped (text : List Char) : Prop :=
  ∀ front back, text = front ++ back → (∀ c ∈ back.head?, isBracket c = true) →
    Even (backslashes front)

/-- A text that can be written in a token. -/
structure Writable (text : List Char) : Prop where
  head : text.head? ≠ some ' '
  last : text.getLast? ≠ some ' '
  even : EvenlyEscaped text

/-- A token that can be written. -/
structure Token.Writable (t : Token) : Prop where
  key : Tag.Writable t.key.toList
  noColon : ':' ∉ t.key.toList
  value : ∀ v ∈ t.value?, Tag.Writable v.toList

/-- The spaces of a written token: behind the opening bracket, before and behind the colon, and
before the closing bracket. -/
structure Spacing where
  opening : Nat := 0
  beforeColon : Nat := 0
  behindColon : Nat := 0
  closing : Nat := 0

/-- Spaces in a row. -/
def spaces (n : Nat) : List Char :=
  List.replicate n ' '

/-- The token as it is written. -/
def Token.written (t : Token) (s : Spacing) : List Char :=
  let value :=
    match t.value? with
    | none => []
    | some v => spaces s.beforeColon ++ ':' :: (spaces s.behindColon ++ escape v.toList)
  '<' :: (spaces s.opening ++ (escape t.key.toList ++ (value ++ (spaces s.closing ++ ['>']))))

/-- The text is a tag of the tokens. Between tokens there may be other text, and at the end a token
that is never closed. -/
inductive Written : List Token → List Char → Prop
  | done (noise : List Char) (quiet : '<' ∉ noise) : Written [] noise
  | unclosed (noise rest : List Char) (quiet : '<' ∉ noise) (unclosed : '>' ∉ rest) :
    Written [] (noise ++ '<' :: rest)
  | token (noise : List Char) (quiet : '<' ∉ noise) (t : Token) (s : Spacing)
    {tokens : List Token} {rest : List Char} (others : Written tokens rest) :
    Written (t :: tokens) (noise ++ (t.written s ++ rest))

theorem escape_cons (c : Char) (text : List Char) :
    escape (c :: text) = (if isBracket c then ['\\', c] else [c]) ++ escape text :=
  List.flatMap_cons

/-! ## Backslashes in pairs -/

/-- Every backslash of the text stands before a character that it can be taken together with, which
is no angle bracket. -/
inductive Paired : List Char → Prop
  | nil : Paired []
  | single {c : Char} {text : List Char} (other : c ≠ '\\') (rest : Paired text) :
    Paired (c :: text)
  | pair {c : Char} {text : List Char} (other : isBracket c = false) (rest : Paired text) :
    Paired ('\\' :: c :: text)

theorem backslashes_append (lead text : List Char) :
    backslashes (lead ++ text) =
      if backslashes text = text.length then text.length + backslashes lead
      else backslashes text := by
  unfold backslashes
  rw [List.reverse_append, List.takeWhile_append, List.length_reverse]
  by_cases all : (text.reverse.takeWhile (· == '\\')).length = text.length
  · rw [if_pos all, if_pos all, List.length_append, List.length_reverse]
  · rw [if_neg all, if_neg all]

theorem backslashes_cons_of_ne {c : Char} (other : c ≠ '\\') (text : List Char) :
    backslashes (c :: text) = backslashes text := by
  have alone : backslashes [c] = 0 := by simp [backslashes, other]
  rw [← List.singleton_append, backslashes_append, alone]
  split
  · rename_i all
    exact all.symm
  · rfl

/-- With a backslash and another character in front, as many backslashes are at the end or two
more. -/
theorem even_backslashes_pair (c : Char) (text : List Char) :
    Even (backslashes ('\\' :: c :: text)) ↔ Even (backslashes text) := by
  have lead : Even (backslashes ['\\', c]) := by
    by_cases another : c = '\\'
    · subst another
      exact ⟨1, rfl⟩
    · exact ⟨0, by simp [backslashes, another]⟩
  rw [show '\\' :: c :: text = ['\\', c] ++ text from rfl, backslashes_append]
  split
  · rename_i all
    rw [all, Nat.even_add]
    exact iff_true_right lead
  · rfl

theorem EvenlyEscaped.paired : {text : List Char} → EvenlyEscaped text → Paired text
  | [], _ => .nil
  | c :: text, even => by
    by_cases backslash : c = '\\'
    · subst backslash
      cases text with
      | nil => exact absurd (even ['\\'] [] rfl nofun) (by decide)
      | cons d text =>
        refine .pair ?_ (EvenlyEscaped.paired fun front back split stop => ?_)
        · refine Bool.eq_false_iff.mpr fun bracket => ?_
          have odd : ¬ Even (backslashes ['\\']) := by decide
          exact odd (even ['\\'] (d :: text) rfl (by simp [bracket]))
        · rw [← even_backslashes_pair d]
          exact even _ back (by rw [split]; rfl) stop
    · refine .single backslash (EvenlyEscaped.paired fun front back split stop => ?_)
      rw [← backslashes_cons_of_ne backslash]
      exact even _ back (by rw [split]; rfl) stop

theorem Paired.evenlyEscaped {text : List Char} (paired : Paired text) : EvenlyEscaped text := by
  have zero : Even (backslashes []) := ⟨0, rfl⟩
  induction paired with
  | nil =>
    intro front back split _
    obtain ⟨rfl, _⟩ := List.append_eq_nil_iff.mp split.symm
    exact zero
  | single other rest ih =>
    intro front back split stop
    cases front with
    | nil => exact zero
    | cons d front =>
      obtain ⟨rfl, later⟩ := List.cons.inj split
      rw [backslashes_cons_of_ne other]
      exact ih front back later stop
  | pair other rest ih =>
    intro front back split stop
    match front with
    | [] => exact zero
    | [d] =>
      obtain ⟨rfl, rfl⟩ := List.cons.inj split
      exact absurd (other.symm.trans (stop _ rfl)) Bool.false_ne_true
    | d :: e :: front =>
      simp only [List.cons_append, List.cons.injEq] at split
      obtain ⟨rfl, rfl, split⟩ := split
      rw [even_backslashes_pair]
      exact ih front back split stop

instance Paired.decidable : DecidablePred Paired
  | [] => isTrue .nil
  | [c] => decidable_of_iff (c ≠ '\\')
      ⟨fun other => .single other .nil, fun paired => by cases paired; assumption⟩
  | c :: d :: text =>
    have := Paired.decidable (d :: text)
    have := Paired.decidable text
    decidable_of_iff
      (c ≠ '\\' ∧ Paired (d :: text) ∨ c = '\\' ∧ isBracket d = false ∧ Paired text)
      ⟨by
        rintro (⟨other, rest⟩ | ⟨rfl, other, rest⟩)
        · exact .single other rest
        · exact .pair other rest,
      fun paired => by
        cases paired with
        | single other rest => exact Or.inl ⟨other, rest⟩
        | pair other rest => exact Or.inr ⟨rfl, other, rest⟩⟩

instance (text : List Char) : Decidable (Writable text) :=
  decidable_of_iff (text.head? ≠ some ' ' ∧ text.getLast? ≠ some ' ' ∧ Paired text)
    ⟨fun ⟨head, last, paired⟩ => ⟨head, last, paired.evenlyEscaped⟩,
      fun ⟨head, last, even⟩ => ⟨head, last, even.paired⟩⟩

instance (t : Token) : Decidable t.Writable :=
  decidable_of_iff
    (Tag.Writable t.key.toList ∧ ':' ∉ t.key.toList ∧ ∀ v ∈ t.value?, Tag.Writable v.toList)
    ⟨fun ⟨key, noColon, value⟩ => ⟨key, noColon, value⟩,
      fun ⟨key, noColon, value⟩ => ⟨key, noColon, value⟩⟩

/-! ## Reading what has been written -/

section

variable {d : Draft} {tags : TagMap}

theorem Reader.foldl_noise {noise : List Char} (quiet : '<' ∉ noise) (tags : TagMap) :
    noise.foldl Reader.next ⟨.outside, tags⟩ = ⟨.outside, tags⟩ := by
  induction noise with
  | nil => rfl
  | cons c rest ih =>
    have other : (c == '<') = false := beq_eq_false_iff_ne.mpr fun same => quiet (by simp [same])
    have stays : Reader.next ⟨.outside, tags⟩ c = ⟨.outside, tags⟩ := by
      simp only [Reader.next, other, Bool.false_eq_true, if_false]
    rw [List.foldl_cons, stays]
    exact ih fun member => quiet (List.mem_cons_of_mem c member)

/-- Only a closing bracket ends a token. -/
theorem Reader.foldl_unclosed {rest : List Char} (unclosed : '>' ∉ rest) (d : Draft)
    (tags : TagMap) : ∃ e, rest.foldl Reader.next ⟨.inside d, tags⟩ = ⟨.inside e, tags⟩ := by
  induction rest generalizing d with
  | nil => exact ⟨d, rfl⟩
  | cons c rest ih =>
    have other : (c == '>') = false := beq_eq_false_iff_ne.mpr fun same => unclosed (by simp [same])
    obtain ⟨e, stays⟩ : ∃ e, Reader.next ⟨.inside d, tags⟩ c = ⟨.inside e, tags⟩ := by
      simp only [Reader.next, Draft.next, other, Bool.false_eq_true, if_false]
      split
      · exact ⟨_, rfl⟩
      · split
        · exact ⟨_, rfl⟩
        · split
          · exact ⟨_, rfl⟩
          · split <;> exact ⟨_, rfl⟩
    rw [List.foldl_cons, stays]
    exact ih (fun member => unclosed (List.mem_cons_of_mem c member)) e

/-- The draft with a text behind what it holds. -/
def Draft.behind (d : Draft) (text : List Char) : Draft :=
  { d with text := text.reverse ++ d.text, skipping := d.skipping && text.isEmpty }

/-- The draft with spaces behind what it holds, if spaces are not skipped. -/
def Draft.padded (d : Draft) (n : Nat) : Draft :=
  if d.skipping then d else { d with text := spaces n ++ d.text }

theorem Reader.foldl_inside_cons (d : Draft) (tags : TagMap) (c : Char) (rest : List Char) :
    (c :: rest).foldl Reader.next ⟨.inside d, tags⟩ = rest.foldl Reader.next (d.next tags c) :=
  rfl

theorem Draft.next_space (unescaped : d.escaped = false) :
    d.next tags ' ' = ⟨.inside (d.padded 1), tags⟩ := by
  obtain ⟨key, text, skipping, escaped⟩ := d
  cases unescaped
  cases skipping with
  | true => rfl
  | false => rfl

/-- A character without a meaning of its own goes behind what the draft holds. -/
theorem Draft.next_plain (unescaped : d.escaped = false) {c : Char} (noBracket : c ≠ '>')
    (noBackslash : c ≠ '\\') (noColon : d.key.isSome = true ∨ c ≠ ':')
    (noSkip : d.skipping = true → c ≠ ' ') : d.next tags c = ⟨.inside (d.push [c]), tags⟩ := by
  have colon : (c == ':' && d.key.isNone) = false := by
    rcases noColon with keyed | other
    · rw [Option.isNone_eq_false_iff.mpr keyed, Bool.and_false]
    · rw [beq_eq_false_iff_ne.mpr other, Bool.false_and]
  have space : (c == ' ' && d.skipping) = false := by
    cases skips : d.skipping with
    | false => exact Bool.and_false _
    | true => rw [beq_eq_false_iff_ne.mpr (noSkip skips), Bool.false_and]
  simp only [Draft.next, unescaped, beq_eq_false_iff_ne.mpr noBracket,
    beq_eq_false_iff_ne.mpr noBackslash, colon, space, Bool.false_eq_true, if_false]

/-- A backslash is kept with the character behind it, unless that is an angle bracket. -/
theorem Draft.next_pair (unescaped : d.escaped = false) (c : Char) (rest : List Char) :
    ('\\' :: c :: rest).foldl Reader.next ⟨.inside d, tags⟩ =
      rest.foldl Reader.next
        ⟨.inside (d.push (if isBracket c then [c] else [c, '\\'])), tags⟩ := by
  obtain ⟨key, text, skipping, escaped⟩ := d
  cases unescaped
  rfl

theorem Reader.foldl_spaces (unescaped : d.escaped = false) (n : Nat) :
    (spaces n).foldl Reader.next ⟨.inside d, tags⟩ = ⟨.inside (d.padded n), tags⟩ := by
  induction n generalizing d with
  | zero =>
    unfold Draft.padded
    split <;> rfl
  | succ n ih =>
    have still : (d.padded 1).escaped = false := by
      unfold Draft.padded
      split <;> exact unescaped
    rw [spaces, List.replicate_succ, foldl_inside_cons, Draft.next_space unescaped, ← spaces,
      ih still]
    obtain ⟨key, text, skipping, escaped⟩ := d
    cases skipping with
    | true => rfl
    | false => simp [Draft.padded, spaces, List.replicate_succ']

/-- A written text is read as the text. -/
theorem Reader.foldl_escape {text : List Char} (paired : Paired text)
    (unescaped : d.escaped = false) (noColon : d.key.isSome = true ∨ ':' ∉ text)
    (noSkip : d.skipping = true → text.head? ≠ some ' ') :
    (escape text).foldl Reader.next ⟨.inside d, tags⟩ = ⟨.inside (d.behind text), tags⟩ := by
  induction paired generalizing d with
  | nil =>
    obtain ⟨key, text, skipping, escaped⟩ := d
    cases skipping <;> rfl
  | @single c text other rest ih =>
    have later : ∀ e : Draft, e.key = d.key → e.escaped = false → e.skipping = false →
        (escape text).foldl Reader.next ⟨.inside e, tags⟩ = ⟨.inside (e.behind text), tags⟩ := by
      intro e sameKey unescaped still
      refine ih unescaped ?_ fun skips => absurd (still.symm.trans skips) Bool.false_ne_true
      rw [sameKey]
      exact noColon.imp_right fun free member => free (List.mem_cons_of_mem c member)
    have pushed : (d.push [c]).behind text = d.behind (c :: text) := by
      simp [Draft.push, Draft.behind, unescaped]
    by_cases bracket : isBracket c = true
    · rw [escape_cons, if_pos bracket, List.cons_append, List.singleton_append,
        Draft.next_pair unescaped, if_pos bracket, later (d.push [c]) rfl rfl rfl, pushed]
    · have plain : d.next tags c = ⟨.inside (d.push [c]), tags⟩ := by
        refine Draft.next_plain unescaped ?_ other ?_ ?_
        · rintro rfl
          exact bracket rfl
        · exact noColon.imp_right fun free same => free (by simp [same])
        · exact fun skips same => noSkip skips (by simp [same])
      rw [escape_cons, if_neg bracket, List.singleton_append, foldl_inside_cons, plain,
        later (d.push [c]) rfl rfl rfl, pushed]
  | @pair c text other rest ih =>
    have written : escape ('\\' :: c :: text) = '\\' :: c :: escape text := by
      rw [escape_cons, escape_cons, other]
      rfl
    have pushed : (d.push [c, '\\']).behind text = d.behind ('\\' :: c :: text) := by
      simp [Draft.push, Draft.behind, unescaped]
    have free : (d.push [c, '\\']).key.isSome = true ∨ ':' ∉ text :=
      noColon.imp_right fun free member =>
        free (List.mem_cons_of_mem _ (List.mem_cons_of_mem c member))
    rw [written, Draft.next_pair unescaped, other, if_neg Bool.false_ne_true,
      ih rfl free fun skips => absurd skips Bool.false_ne_true, pushed]

/-! ## Tokens -/

theorem dropTrailingSpaces_append {text : List Char} (last : text.getLast? ≠ some ' ') (n : Nat) :
    Text.dropTrailingSpaces (text ++ spaces n) = text := by
  have settled : text.reverse.dropWhile (· == ' ') = text.reverse := by
    rw [List.getLast?_eq_head?_reverse] at last
    cases reversed : text.reverse with
    | nil => rfl
    | cons c rest =>
      rw [reversed] at last
      rw [List.dropWhile_cons_of_neg]
      simpa using last
  rw [Text.dropTrailingSpaces, Text.dropTrailing, List.reverse_append,
    List.dropWhile_append_of_pos, settled, List.reverse_reverse]
  intro c member
  rw [List.eq_of_mem_replicate (List.mem_reverse.mp member)]
  rfl

namespace Draft

/-- The draft behind the bracket or the colon of a token, once a text and spaces have been read. -/
def holding (key : Option (List Char)) (text : List Char) (n : Nat) : Draft :=
  (({ key } : Draft).behind text).padded n

theorem key_holding (key : Option (List Char)) (text : List Char) (n : Nat) :
    (holding key text n).key = key := by
  unfold holding padded
  split <;> rfl

theorem escaped_holding (key : Option (List Char)) (text : List Char) (n : Nat) :
    (holding key text n).escaped = false := by
  unfold holding padded
  split <;> rfl

/-- The spaces do not count. -/
theorem settled_holding (key : Option (List Char)) {text : List Char}
    (last : text.getLast? ≠ some ' ') (n : Nat) :
    (holding key text n).settled = String.ofList text := by
  cases text with
  | nil => rfl
  | cons c rest =>
    have held : (holding key (c :: rest) n).text.reverse = (c :: rest) ++ spaces n := by
      simp [holding, behind, padded, spaces]
    rw [settled, held, dropTrailingSpaces_append last]

theorem next_close (unescaped : d.escaped = false) :
    d.next tags '>' = ⟨.outside, tags.insert d.close.1 d.close.2⟩ := by
  rw [next, unescaped]
  rfl

theorem next_colon (unescaped : d.escaped = false) (unkeyed : d.key = none) :
    d.next tags ':' = ⟨.inside { key := some d.settled.toList }, tags⟩ := by
  rw [next, unescaped, unkeyed]
  rfl

end Draft

namespace Reader

/-- What stands in a token behind its bracket or its colon, with spaces around it. -/
theorem foldl_part (key : Option (List Char)) {text : List Char} (writable : Writable text)
    (noColon : key.isSome = true ∨ ':' ∉ text) (lead trail : Nat) (rest : List Char) :
    (spaces lead ++ (escape text ++ (spaces trail ++ rest))).foldl next ⟨.inside { key }, tags⟩ =
      rest.foldl next ⟨.inside (.holding key text trail), tags⟩ := by
  have skipped : ({ key } : Draft).padded lead = { key } := rfl
  rw [List.foldl_append, foldl_spaces rfl, skipped, List.foldl_append,
    foldl_escape writable.even.paired rfl noColon fun _ => writable.head, List.foldl_append,
    foldl_spaces rfl, Draft.holding]

/-- A written token enters its value under its key. -/
theorem foldl_written {t : Token} (writable : t.Writable) (s : Spacing) (tags : TagMap)
    (rest : List Char) :
    (t.written s ++ rest).foldl next ⟨.outside, tags⟩ =
      rest.foldl next ⟨.outside, tags.insert t.key (t.value?.getD "")⟩ := by
  obtain ⟨key, value?⟩ := t
  have keyRead := @foldl_part tags none _ writable.key (Or.inr writable.noColon) s.opening
  have keySettled := fun n => Draft.settled_holding none writable.key.last n
  cases value? with
  | none =>
    let d := Draft.holding none key.toList s.closing
    have closed : d.close = (key, "") := by
      rw [Draft.close, Draft.key_holding]
      simp only [d, keySettled, String.ofList_toList]
    calc (Token.written ⟨key, none⟩ s ++ rest).foldl next ⟨.outside, tags⟩
        = (spaces s.opening ++ (escape key.toList ++ (spaces s.closing ++ '>' :: rest))).foldl
            next ⟨.inside {}, tags⟩ := by simp [Token.written, next]
      _ = rest.foldl next (d.next tags '>') := keyRead s.closing _
      _ = rest.foldl next ⟨.outside, tags.insert key ""⟩ := by
        rw [Draft.next_close (Draft.escaped_holding _ _ _), closed]
  | some v =>
    have valueWritable : Writable v.toList := writable.value v rfl
    let d := Draft.holding none key.toList s.beforeColon
    let e := Draft.holding (some key.toList) v.toList s.closing
    have keyed : d.settled.toList = key.toList := by
      simp only [d, keySettled, String.toList_ofList]
    have closed : e.close = (key, v) := by
      rw [Draft.close, Draft.key_holding]
      simp only [e, Draft.settled_holding _ valueWritable.last, String.ofList_toList]
    calc (Token.written ⟨key, some v⟩ s ++ rest).foldl next ⟨.outside, tags⟩
        = (spaces s.opening ++ (escape key.toList ++ (spaces s.beforeColon ++ ':' ::
            (spaces s.behindColon ++ (escape v.toList ++ (spaces s.closing ++
              '>' :: rest)))))).foldl next ⟨.inside {}, tags⟩ := by simp [Token.written, next]
      _ = (spaces s.behindColon ++ (escape v.toList ++ (spaces s.closing ++ '>' :: rest))).foldl
            next (d.next tags ':') := keyRead s.beforeColon _
      _ = rest.foldl next (e.next tags '>') := by
        rw [Draft.next_colon (Draft.escaped_holding _ _ _) (Draft.key_holding _ _ _), keyed]
        exact foldl_part _ valueWritable (Or.inl rfl) _ _ _
      _ = rest.foldl next ⟨.outside, tags.insert key v⟩ := by
        rw [Draft.next_close (Draft.escaped_holding _ _ _), closed]

end Reader

/-- Reading a tag gives what its tokens say: under each key the value of the last token with this
key, which is empty if that token has none, and nothing under other keys. -/
theorem Written.get?_parse {tokens : List Token} {text : List Char} (written : Written tokens text)
    (writable : ∀ t ∈ tokens, t.Writable) (key : String) :
    (parse (String.ofList text)).get? key =
      (tokens.filter (·.key == key)).getLast?.map (·.value?.getD "") := by
  have entered : ∀ tags, (text.foldl Reader.next ⟨.outside, tags⟩).tags =
      tags.insertAll (tokens.map fun t => (t.key, t.value?.getD "")) := by
    induction written with
    | done noise quiet =>
      intro tags
      rw [Reader.foldl_noise quiet]
      rfl
    | unclosed noise rest quiet unclosed =>
      intro tags
      rw [List.foldl_append, Reader.foldl_noise quiet]
      obtain ⟨e, stays⟩ := Reader.foldl_unclosed unclosed {} tags
      exact congrArg Reader.tags stays
    | token noise quiet t s others ih =>
      intro tags
      rw [List.foldl_append, Reader.foldl_noise quiet,
        Reader.foldl_written (writable t List.mem_cons_self),
        ih fun u member => writable u (List.mem_cons_of_mem t member)]
      rfl
  have read : parse (String.ofList text) =
      ({} : TagMap).insertAll (tokens.map fun t => (t.key, t.value?.getD "")) := by
    rw [parse, String.toList_ofList]
    exact entered {}
  rw [read, TagMap.get?_insertAll, List.filter_map, List.getLast?_map, Option.map_map]
  exact Option.or_none

/-- A pattern for an amount that is followed by a backslash and an opening bracket, in a tag that
names two positions and ends within a token. -/
theorem Written.get?_parse_amount :
    let tokens : List Token :=
      [⟨"in", some "query"⟩, ⟨"regexp", some "\\d+\\\\<"⟩, ⟨"required", none⟩, ⟨"in", some "path"⟩]
    let text := "> <in:query>< regexp :  \\d+\\\\\\< ><required> and <in: path><name:a <b"
    Written tokens text.toList ∧ (∀ t ∈ tokens, t.Writable) ∧
      (parse text).get? "in" = some "path" ∧ (parse text).get? "regexp" = some "\\d+\\\\<" ∧
      (parse text).get? "required" = some "" ∧ (parse text).get? "name" = none := by
  intro tokens text
  have pieces : Written tokens _ :=
    .token ['>', ' '] (by decide) ⟨"in", some "query"⟩ {} <|
      .token [] (by decide) ⟨"regexp", some "\\d+\\\\<"⟩ ⟨1, 1, 2, 1⟩ <|
        .token [] (by decide) ⟨"required", none⟩ {} <|
          .token " and ".toList (by decide) ⟨"in", some "path"⟩ ⟨0, 0, 1, 0⟩ <|
            .unclosed [] "name:a <b".toList (by decide) (by decide)
  have written : Written tokens text.toList := by
    refine Eq.mp (congrArg (Written tokens) ?_) pieces
    decide +kernel
  have writable : ∀ t ∈ tokens, t.Writable := by decide
  have read := Written.get?_parse written writable
  rw [String.ofList_toList] at read
  exact ⟨written, writable, read _, read _, read _, read _⟩

end

end RequestBinding.Tag
