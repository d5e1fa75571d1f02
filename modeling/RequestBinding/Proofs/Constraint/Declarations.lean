import RequestBinding.Constraint.Bounds
import RequestBinding.Proofs.Number.Numeral
import RequestBinding.Proofs.Tag.Rendering

/-!
# Bounds as they are declared

The tokens of a tag that have nothing to escape are read as they stand (`Tag.Reader.foldl_plain`).
Bounds are declared as two texts with a colon between them, of which one may be left out, or as one
text for both sides (`Bounds.Declared`). They are read as the values of these texts, when there is
no white space and no other colon in them (`Bounds.parse?_of_declared`).
-/

namespace RequestBinding

/-! ## Plain tokens -/

namespace Tag

/-- Nothing in the text has a meaning of its own: there is no angle bracket, backslash or space. -/
def Plain (text : List Char) : Prop :=
  ∀ c ∈ text, isBracket c = false ∧ c ≠ '\\' ∧ c ≠ ' '

instance (text : List Char) : Decidable (Plain text) :=
  List.decidableBAll _ text

namespace Plain

variable {text other : List Char}

theorem append (plain : Plain text) (more : Plain other) : Plain (text ++ other) :=
  List.forall_mem_append.mpr ⟨plain, more⟩

theorem escape_eq (plain : Plain text) : escape text = text := by
  induction text with
  | nil => rfl
  | cons c rest ih =>
    obtain ⟨first, others⟩ := List.forall_mem_cons.mp plain
    rw [escape_cons, first.1, if_neg Bool.false_ne_true, ih others, List.singleton_append]

theorem paired (plain : Plain text) : Paired text := by
  induction text with
  | nil => exact .nil
  | cons c rest ih =>
    obtain ⟨first, others⟩ := List.forall_mem_cons.mp plain
    exact .single first.2.1 (ih others)

theorem writable (plain : Plain text) : Writable text where
  head space := (plain ' ' (List.mem_of_head? space)).2.2 rfl
  last space := (plain ' ' (List.mem_of_getLast? space)).2.2 rfl
  even := plain.paired.evenlyEscaped

end Plain

/-- A token without spaces and with nothing to escape enters its value under its key. -/
theorem Reader.foldl_plain {key value : String} (plainKey : Plain key.toList)
    (noColon : ':' ∉ key.toList) (plainValue : Plain value.toList) (tags : TagMap)
    (rest : List Char) :
    (("<" ++ key ++ ":" ++ value ++ ">").toList ++ rest).foldl next ⟨.outside, tags⟩ =
      rest.foldl next ⟨.outside, tags.insert key value⟩ := by
  have writable : Token.Writable ⟨key, some value⟩ :=
    ⟨plainKey.writable, noColon, fun v given => Option.some.inj given ▸ plainValue.writable⟩
  have written : ("<" ++ key ++ ":" ++ value ++ ">").toList =
      Token.written ⟨key, some value⟩ {} := by
    simp [Token.written, plainKey.escape_eq, plainValue.escape_eq, spaces, String.toList_append]
  rw [written, foldl_written writable]
  rfl

/-- A tag of one plain token. -/
theorem parse_plain (key : String) {value : String} (plainKey : Plain key.toList)
    (noColon : ':' ∉ key.toList) (plainValue : Plain value.toList) :
    parse ("<" ++ key ++ ":" ++ value ++ ">") = ({} : TagMap).insert key value := by
  have read := Reader.foldl_plain plainKey noColon plainValue {} []
  rw [List.append_nil] at read
  rw [parse, read]
  rfl

end Tag

/-! ## Bounds -/

theorem Text.trimChars_of_noBlank {cs : List Char} (noBlank : ∀ c ∈ cs, isBlank c = false) :
    trimChars cs = cs := by
  have kept : ∀ text : List Char, (∀ c ∈ text, isBlank c = false) →
      text.dropWhile isBlank = text := by
    intro text none
    cases text with
    | nil => rfl
    | cons c rest => exact List.dropWhile_cons_of_neg (by simp [none c List.mem_cons_self])
  rw [trimChars, trimBoth, dropTrailing, kept cs noBlank,
    kept cs.reverse fun c member => noBlank c (List.mem_reverse.mp member), List.reverse_reverse]

namespace Bounds

variable {α : Type} {read : List Char → Option α} {a b tuple : String} {x y : α}
  {bounds : Bounds α}

/-- The text is read as the value, and nothing around it or in it could be taken for something
else. -/
structure Side (read : List Char → Option α) (text : String) (value : α) : Prop where
  filled : text.toList ≠ []
  noBlank : ∀ c ∈ text.toList, Text.isBlank c = false
  noColon : ':' ∉ text.toList
  plain : Tag.Plain text.toList
  read : read text.toList = some value

/-- The text declares the bounds: both sides, one of them, or one number that is both. -/
inductive Declared (read : List Char → Option α) : String → Bounds α → Prop
  | both {a b : String} {x y : α} (least : Side read a x) (most : Side read b y) :
    Declared read (a ++ ":" ++ b) ⟨some x, some y⟩
  | least {a : String} {x : α} (least : Side read a x) : Declared read (a ++ ":") ⟨some x, none⟩
  | most {b : String} {y : α} (most : Side read b y) : Declared read (":" ++ b) ⟨none, some y⟩
  | single {a : String} {x : α} (number : Side read a x) : Declared read a ⟨some x, some x⟩

/-- Digits, with a sign in front, can be taken for nothing else than a number. -/
theorem Side.of_digits (filled : a.toList ≠ [])
    (digits : ∀ c ∈ a.toList, Text.isDigit c = true ∨ c = '-') (value : read a.toList = some x) :
    Side read a x := by
  have apart : ∀ c, Text.isDigit c = true ∨ c = '-' →
      Text.isBlank c = false ∧ c ≠ ':' ∧ Tag.isBracket c = false ∧ c ≠ '\\' ∧ c ≠ ' ' := by
    rintro c (digit | rfl)
    · have bounds := Text.isDigit_iff.mp digit
      have other : ∀ d : Char, Text.isDigit d = false → c ≠ d := by
        rintro _ noDigit rfl
        exact Bool.false_ne_true (noDigit.symm.trans digit)
      refine ⟨?_, other _ rfl, ?_, other _ rfl, other _ rfl⟩
      · simp only [Text.isBlank, Bool.or_eq_false_iff, Bool.and_eq_false_iff, beq_eq_false_iff_ne,
          decide_eq_false_iff_not]
        omega
      · rw [Tag.isBracket, Bool.or_eq_false_iff]
        exact ⟨beq_eq_false_iff_ne.mpr (other _ rfl), beq_eq_false_iff_ne.mpr (other _ rfl)⟩
    · decide
  refine ⟨filled, fun c member => (apart c (digits c member)).1, ?_,
    fun c member => (apart c (digits c member)).2.2, value⟩
  exact fun member => (apart ':' (digits ':' member)).2.1 rfl

namespace Side

variable (side : Side read a x)

include side

theorem trimmed : Text.trimChars a.toList = a.toList :=
  Text.trimChars_of_noBlank side.noBlank

theorem not_blank : (Text.trimChars a.toList).isEmpty = false := by
  rw [side.trimmed]
  exact List.isEmpty_eq_false_iff.mpr side.filled

theorem readSide : Bounds.readSide read a.toList = some (some x) := by
  simp only [Bounds.readSide, side.not_blank, Bool.false_eq_true, if_false]
  rw [side.trimmed, side.read]
  rfl

theorem split (rest : List Char) :
    (a.toList ++ ':' :: rest).splitOn ':' = a.toList :: rest.splitOn ':' := by
  refine List.splitOnP_append_cons_of_forall_mem (fun c member => ?_) ':' rfl rest
  exact beq_eq_false_iff_ne.mpr fun same => side.noColon (same ▸ member)

theorem splitOn : a.toList.splitOn ':' = [a.toList] :=
  List.splitOn_eq_singleton side.noColon

end Side

theorem readSide_nil : readSide read [] = some none :=
  rfl

/-- Declared bounds are read as the values of their sides. -/
theorem parse?_of_declared (declared : Declared read tuple bounds) :
    parse? read tuple = some bounds := by
  cases declared with
  | @both a b x y least most =>
    have sides : sides? (a ++ ":" ++ b) = some (a.toList, b.toList) := by
      have text : (a ++ ":" ++ b).toList = a.toList ++ ':' :: b.toList := by
        simp [String.toList_append]
      simp only [sides?, text, least.split, most.splitOn, least.not_blank, Bool.false_and,
        Bool.false_eq_true, if_false]
    simp only [parse?, sides, least.readSide, most.readSide, Option.bind_eq_bind, Option.bind_some]
    rfl
  | @least a x least =>
    have sides : sides? (a ++ ":") = some (a.toList, []) := by
      have text : (a ++ ":").toList = a.toList ++ [':'] := String.toList_append
      simp only [sides?, text, least.split, List.splitOn_nil, least.not_blank, Bool.false_and,
        Bool.false_eq_true, if_false]
    simp only [parse?, sides, least.readSide, readSide_nil, Option.bind_eq_bind, Option.bind_some]
    rfl
  | @most b y most =>
    have sides : sides? (":" ++ b) = some ([], b.toList) := by
      have text : (":" ++ b).toList = ':' :: b.toList := String.toList_append
      have split : (':' :: b.toList).splitOn ':' = [[], b.toList] :=
        (List.splitOnP_append_cons_of_forall_mem (List.forall_mem_nil _) ':' rfl b.toList).trans
          (congrArg _ most.splitOn)
      simp only [sides?, text, split, most.not_blank, Bool.and_false, Bool.false_eq_true, if_false]
    simp only [parse?, sides, most.readSide, readSide_nil, Option.bind_eq_bind, Option.bind_some]
    rfl
  | single number =>
    have sides : sides? tuple = some (tuple.toList, tuple.toList) := by
      simp only [sides?, number.splitOn, number.not_blank, Bool.false_eq_true, if_false]
    simp only [parse?, sides, number.readSide, Option.bind_eq_bind, Option.bind_some]
    rfl

theorem Declared.plain (declared : Declared read tuple bounds) : Tag.Plain tuple.toList := by
  have colon : Tag.Plain [':'] := by decide
  cases declared with
  | both least most =>
    rw [String.toList_append, String.toList_append]
    exact (least.plain.append colon).append most.plain
  | least least =>
    rw [String.toList_append]
    exact least.plain.append colon
  | most most =>
    rw [String.toList_append]
    exact colon.append most.plain
  | single number => exact number.plain

end Bounds

end RequestBinding
