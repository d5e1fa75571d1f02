import RequestBinding.Proofs.Convert.FlatValues
import RequestBinding.Proofs.Convert.IndexLimit
import RequestBinding.Proofs.Convert.WrittenForm
import RequestBinding.Proofs.Source.Pairs

/-!
# The spellings of a flat list

The texts of a list can be given as a repeated key, under empty brackets, or each under its number.
Three algorithms read them: the first collects the texts of the key, the second reads texts without
a number, and the third looks up each number and puts what it finds into its place. For items that
one text holds all three come to `Sequence.ofTexts`, which stops at the first text in error
(`ListSpelling.find_seq`), so the spellings cannot be told apart by what is found
(`WireType.find_seq_spelled`).

* `Sequence.append_eq_ofTexts`: texts without a number never fall back on the zero value.
* `Sequence.build_zipIdx`: numbers in order fill the places one by one.
-/

namespace RequestBinding

theorem Bracket.firsts_of_nodup {α : Type} [BEq α] [LawfulBEq α] {seen : List α}
    {parts : List (α × Key)} (distinct : (parts.map (·.1)).Nodup)
    (fresh : ∀ p ∈ parts, p.1 ∉ seen) : firsts seen parts = parts := by
  induction parts generalizing seen with
  | nil => rfl
  | cons p rest ih =>
    obtain ⟨first, others⟩ := List.nodup_cons.mp distinct
    obtain ⟨new, later⟩ := List.forall_mem_cons.mp fresh
    rw [firsts, if_neg (mt List.contains_iff_mem.mp new), ih others]
    intro q member
    rw [List.mem_cons, not_or]
    exact ⟨fun same => first (List.mem_map.mpr ⟨q, member, same⟩), later q member⟩

/-! ## The three algorithms -/

namespace Sequence

variable {mode : Mode} {item : WireType} {zero : Value} {find : Finder}

theorem length_of_ofTexts {texts : List String} {items : List Value}
    (made : ofTexts mode item texts = .ok items) : texts.length = items.length :=
  (ofTexts_eq_ok_iff.mp made).length_eq

/-- A list of texts is in error with the first of them that is. -/
theorem ofTexts_eq_error_iff {texts : List String} {e : ConvertError} :
    ofTexts mode item texts = .error e ↔ FirstError (item.ofRaw mode) texts e := by
  induction texts with
  | nil => exact iff_of_false (nomatch ·) FirstError.not_nil
  | cons raw rest ih =>
    rw [ofTexts]
    cases first : item.ofRaw mode raw with
    | error e' =>
      rw [FirstError.cons_error_iff first]
      exact ⟨Except.error.inj, congrArg _⟩
    | ok v =>
      rw [FirstError.cons_ok_iff first, ← ih]
      show (ofTexts mode item rest >>= fun others => Except.ok (v :: others)) = .error e ↔ _
      rw [Except.bind_eq_error_iff]
      apply or_iff_left
      rintro ⟨_, _, ⟨⟩⟩

/-- A text that holds no item of a flat type is an error in strict mode alone. -/
theorem strict_of_ofRaw_eq_error (flat : item.isFlat = true) {raw : String} {e : ConvertError}
    (bad : item.ofRaw mode raw = .error e) : mode = .strict := by
  cases mode with
  | strict => rfl
  | lenient =>
    obtain ⟨v, good⟩ := item.exists_ofRaw_lenient flat raw
    cases bad.symm.trans good

/-- Texts without a number are read like those of a repeated key: the zero value never stands in
for a malformed one, which lenient reading has replaced already. -/
theorem append_eq_ofTexts (flat : item.isFlat = true) (zero : Value) (texts : List String) :
    append mode item zero texts = ofTexts mode item texts := by
  induction texts with
  | nil => rfl
  | cons raw rest ih =>
    rw [append, ofTexts, ih]
    cases read : item.ofRaw mode raw with
    | ok v => cases ofTexts mode item rest <;> rfl
    | error e =>
      cases strict_of_ofRaw_eq_error flat read
      rfl

/-- Under numbers in order the same values are found as in the texts, each with its number. -/
theorem collect_zipIdx (flat : item.isFlat = true) (part : Nat → Key) (texts : List String)
    (start : Nat)
    (found : ∀ p ∈ texts.zipIdx start, find (part p.2) = (item.ofRaw mode p.1).map some) :
    collect mode find ((texts.zipIdx start).map fun p => (p.2, part p.2)) =
      (ofTexts mode item texts).map fun items => (items.zipIdx start).map Prod.swap := by
  induction texts generalizing start with
  | nil => rfl
  | cons raw rest ih =>
    obtain ⟨own, others⟩ := List.forall_mem_cons.mp found
    rw [List.zipIdx_cons, List.map_cons, collect, ofTexts, own, ih (start + 1) others]
    cases read : item.ofRaw mode raw with
    | ok v => cases ofTexts mode item rest <;> rfl
    | error e =>
      cases strict_of_ofRaw_eq_error flat read
      rfl

/-- Numbers in order need a place each. -/
theorem placesFor_zipIdx (part : Nat → Key) (texts : List String) :
    placesFor (texts.zipIdx.map fun p => (p.2, part p.2)) = texts.length := by
  obtain ⟨each, least⟩ := placesFor_bounds (texts.zipIdx.map fun p => (p.2, part p.2))
  apply Nat.le_antisymm
  · apply least
    intro q member
    obtain ⟨p, numbered, rfl⟩ := List.mem_map.mp member
    exact (List.getElem?_eq_some_iff.mp (List.mem_zipIdx_iff_getElem?.mp numbered)).1
  · by_contra more
    have small : placesFor (texts.zipIdx.map fun p => (p.2, part p.2)) < texts.length :=
      Nat.lt_of_not_le more
    have numbered := List.mk_mem_zipIdx_iff_getElem?.mpr (List.getElem?_eq_getElem small)
    exact Nat.lt_irrefl _ (each _ (List.mem_map_of_mem numbered))

/-- Numbers in order fill the places one by one. -/
theorem build_zipIdx (flat : item.isFlat = true) {part : Nat → Key} {texts : List String}
    (found : ∀ p ∈ texts.zipIdx, find (part p.2) = (item.ofRaw mode p.1).map some) :
    build mode item zero find (texts.zipIdx.map fun p => (p.2, part p.2)) [] =
      ofTexts mode item texts := by
  rw [build, collect_zipIdx flat part texts 0 found, placesFor_zipIdx]
  cases made : ofTexts mode item texts with
  | error e => rfl
  | ok items =>
    have length := length_of_ofTexts made
    have placed : place (places texts.length zero) (items.zipIdx.map Prod.swap) = items := by
      apply place_eq
      · intro q member
        obtain ⟨p, numbered, rfl⟩ := List.mem_map.mp member
        exact List.mem_zipIdx_iff_getElem?.mp numbered
      · rw [places_eq, List.length_replicate, length]
      · intro i v present
        right
        have numbered := List.mk_mem_zipIdx_iff_getElem?.mpr present
        exact List.mem_map_of_mem (List.mem_map_of_mem numbered)
    show Except.ok (place _ _ ++ []) = _
    rw [List.append_nil, placed]

end Sequence

/-! ## The three spellings -/

/-- The key of the item with a number. -/
def Key.item (key : Key) (n : Nat) : Key :=
  key.bracketed (Nat.toDigits 10 n)

/-- How the texts of a list are given. -/
inductive ListSpelling where
  /-- The key repeated: `key=x&key=y`. -/
  | repeated
  /-- Empty brackets repeated: `key[]=x&key[]=y`. -/
  | unnumbered
  /-- Numbers from 0 on: `key[0]=x&key[1]=y`. -/
  | numbered

namespace ListSpelling

/-- The key of the text in some place. -/
def keyAt (key : Key) (n : Nat) : ListSpelling → Key
  | repeated => key
  | unnumbered => key.bracketed []
  | numbered => key.item n

/-- The pairs that give the texts of a list under a key. -/
def written (s : ListSpelling) (key : Key) (texts : List String) : List (String × String) :=
  texts.zipIdx.map fun p => (String.ofList (s.keyAt key p.2), p.1)

/-- Of the pairs those that give the texts, in their order, are all that address the key or
anything below it. -/
def Writes (s : ListSpelling) (key : Key) (texts : List String)
    (pairs : List (String × String)) : Prop :=
  pairs.filter (fun p => Key.isWithin p.1.toList key) = s.written key texts

end ListSpelling

/-! ## What a source says in each of them -/

namespace Key

variable {key : Key}

theorem ne_bracketed (key part : Key) : key ≠ key.bracketed part := by
  intro same
  have longer := length_lt_of_isPartOf (isPartOf_bracketed key part)
  rw [← same] at longer
  exact Nat.lt_irrefl _ longer

theorem digitsIn?_item (key : Key) (n : Nat) :
    key.digitsIn? (key.item n) = some (Nat.toDigits 10 n) :=
  digitsIn?_eq_some_iff.mpr
    ⟨Nat.toDigits_ne_nil, fun _ => Numeral.isDigit_of_mem_toDigits, [], (List.append_nil _).symm⟩

theorem item_injective {m n : Nat} (same : key.item m = key.item n) : m = n := by
  have digits := digitsIn?_item key m
  rw [same, digitsIn?_item, Option.some_inj] at digits
  exact Value.toDigits_injective digits.symm

end Key

namespace KeySource

variable {src : KeySource} {key : Key} {texts : List String}

section Numbered

variable (entries : src.entries = texts.zipIdx.map fun p => (key.item p.2, [p.1]))

include entries

theorem values_of_numbered : src.values key = [] := by
  have missing : src.entries.lookup key = none := by
    rw [List.lookup_eq_none_iff, entries]
    intro entry member
    obtain ⟨p, _, rfl⟩ := List.mem_map.mp member
    exact bne_iff_ne.mpr (Key.ne_bracketed key _)
  rw [values, missing]
  rfl

theorem firstValue?_of_numbered {p : String × Nat} (member : p ∈ texts.zipIdx) :
    src.firstValue? (key.item p.2) = some p.1 := by
  have distinct : (src.entries.map (·.1)).Nodup := by
    have numbers : (texts.zipIdx.map (·.2)).Nodup := by
      rw [List.zipIdx_map_snd]
      exact List.nodup_range'
    have keys : src.entries.map (·.1) = (texts.zipIdx.map (·.2)).map key.item := by
      rw [entries, List.map_map, List.map_map]
      rfl
    rw [keys]
    exact numbers.map fun _ _ => Key.item_injective
  have entry : (key.item p.2, [p.1]) ∈ src.entries := by
    rw [entries]
    exact List.mem_map_of_mem member
  rw [firstValue?, values, lookup_eq_some_of_mem distinct entry]
  rfl

theorem unnumbered_of_numbered : src.unnumbered key = [] := by
  rw [unnumbered, List.flatMap_eq_nil_iff, entries]
  intro entry kept
  obtain ⟨member, empty⟩ := List.mem_filter.mp kept
  obtain ⟨p, _, rfl⟩ := List.mem_map.mp member
  have digits := Key.digitsIn?_item key p.2
  rw [show key.item p.2 = key.bracketed [] from eq_of_beq empty,
    Key.digitsIn?_bracketed_nil] at digits
  cases digits

theorem index?_of_numbered (short : texts.length ≤ wordMax + 1) :
    (src.brackets key).filterMap Bracket.index? =
      texts.zipIdx.map fun p => (p.2, key.item p.2) := by
  have numbered : src.numbered key = texts.zipIdx.map fun p => (p.2, key.item p.2) := by
    rw [numbered, entries, List.filterMap_map, ← List.filterMap_eq_map]
    congr 1
    funext p
    simp only [Function.comp_apply, Key.digitsIn?_item, Option.map_some, Key.number,
      Nat.ofDigitChars_ten_toDigits]
    rfl
  rw [filterMap_index?_brackets, numbered, List.map_map]
  apply List.map_congr_left
  intro p member
  have small := (List.getElem?_eq_some_iff.mp (List.mem_zipIdx_iff_getElem?.mp member)).1
  have fits : p.2 ≤ wordMax := by omega
  exact Prod.ext (Nat.min_eq_left fits) rfl

end Numbered

end KeySource

namespace WireType

open Sequence

variable {recs : Records} {src : KeySource} {mode : Mode} {item : WireType} {key : Key}
  {texts : List String}

theorem ne_file_of_isFlat (flat : item.isFlat = true) : item ≠ .file := by
  rintro rfl
  cases flat

theorem find_seq_unnumbered (flat : item.isFlat = true) (given : texts ≠ [])
    (entries : src.entries = [(key.bracketed [], texts)]) :
    (seq item).find recs src mode key = (ofTexts mode item texts).map (some ∘ .seq) := by
  have noTexts : src.values key = [] := by
    rw [KeySource.values, entries, List.lookup_cons,
      beq_eq_false_iff_ne.mpr (Key.ne_bracketed key [])]
    rfl
  have brackets : src.brackets key = [.unindexed texts] := by
    have read : Bracket.read? key (key.bracketed [] ++ [], texts) = some (.unindexed texts) :=
      Bracket.read?_bracketed List.not_mem_nil [] texts
    rw [List.append_nil] at read
    rw [KeySource.brackets, entries, List.filterMap_cons, read]
    rfl
  have appends : appended [.unindexed texts] = texts := List.append_nil texts
  have noPart : partsWithin src.maxIndex [.unindexed texts] = [] := rfl
  rw [find_seq_assemble (ne_file_of_isFlat flat) fun _ => noTexts, brackets,
    assemble_of_tooLarge?_eq_none fun _ => rfl, appends, noPart,
    List.isEmpty_eq_false_iff.mpr given, Bool.and_false, if_neg Bool.false_ne_true, build,
    append_eq_ofTexts flat]
  cases ofTexts mode item texts <;> rfl

theorem find_seq_numbered (flat : item.isFlat = true) (given : texts ≠ [])
    (short : texts.length ≤ src.maxIndex + 1) (fits : src.maxIndex ≤ wordMax)
    (entries : src.entries =
      texts.zipIdx.map fun p => (key.item p.2, [p.1])) :
    (seq item).find recs src mode key = (ofTexts mode item texts).map (some ∘ .seq) := by
  have indices := KeySource.index?_of_numbered entries (by omega)
  have within : ∀ q ∈ texts.zipIdx.map fun p => (p.2, key.item p.2),
      q.1 ≤ src.maxIndex := by
    intro q member
    obtain ⟨p, numbered, rfl⟩ := List.mem_map.mp member
    have small := (List.getElem?_eq_some_iff.mp (List.mem_zipIdx_iff_getElem?.mp numbered)).1
    exact Nat.le_of_lt_succ (Nat.lt_of_lt_of_le small short)
  have allowed : tooLarge? src.maxIndex (src.brackets key) = none := by
    rw [tooLarge?, indices, List.find?_eq_none]
    intro q member
    rw [decide_eq_true_eq, Nat.not_lt]
    exact within q member
  have parts : partsWithin src.maxIndex (src.brackets key) =
      texts.zipIdx.map fun p => (p.2, key.item p.2) := by
    have kept := List.filter_eq_self.mpr fun q member => decide_eq_true (within q member)
    rw [partsWithin, indices, kept]
    apply Bracket.firsts_of_nodup
    · rw [List.map_map]
      show (texts.zipIdx.map (·.2)).Nodup
      rw [List.zipIdx_map_snd]
      exact List.nodup_range'
    · exact fun _ _ => List.not_mem_nil
  have nonempty : (texts.zipIdx.map fun p =>
      (p.2, key.item p.2)).isEmpty = false := by
    rw [List.isEmpty_eq_false_iff, ne_eq, List.map_eq_nil_iff, List.zipIdx_eq_nil_iff]
    exact given
  rw [find_seq_assemble (ne_file_of_isFlat flat) fun _ => KeySource.values_of_numbered entries,
    assemble_of_tooLarge?_eq_none fun _ => allowed, parts, KeySource.appended_brackets,
    KeySource.unnumbered_of_numbered entries, nonempty, Bool.false_and, if_neg Bool.false_ne_true,
    build_zipIdx flat]
  intro p member
  rw [find_flat flat, KeySource.firstValue?_of_numbered entries member]

end WireType

/-! ## The spellings come to the same -/

namespace ListSpelling

variable {recs : Records} {mode : Mode} {item : WireType} {key : Key} {texts : List String}
  {limit : Nat} {pairs : List (String × String)}

/-- Where no key has a number the texts come under one key. -/
theorem written_same {s : ListSpelling} {part : Key} (same : ∀ n, s.keyAt key n = part)
    (texts : List String) :
    s.written key texts = texts.map fun raw => (String.ofList part, raw) := by
  have each : s.written key texts =
      (texts.zipIdx.map (·.1)).map fun raw => (String.ofList part, raw) := by
    rw [written, List.map_map]
    apply List.map_congr_left
    intro p _
    rw [same]
    rfl
  rw [each, List.zipIdx_map_fst]

/-- Nothing but the pairs that give the texts matters. -/
theorem Writes.find_eq {s : ListSpelling} (writes : s.Writes key texts pairs) (type : WireType) :
    type.find recs (.ofPairs pairs limit) mode key =
      type.find recs (.ofPairs (s.written key texts) limit) mode key := by
  refine type.find_eq_of_family_eq key ?_ rfl rfl rfl
  rw [KeySource.family_ofPairs, KeySource.family_ofPairs, ← writes, List.filter_filter]
  simp only [Bool.and_self]

/-- In each spelling a flat list is what its texts make. -/
theorem Writes.find_seq {s : ListSpelling} (writes : s.Writes key texts pairs)
    (flat : item.isFlat = true) (given : texts ≠ []) (short : texts.length ≤ limit + 1)
    (fits : limit ≤ wordMax) :
    (WireType.seq item).find recs (.ofPairs pairs limit) mode key =
      (Sequence.ofTexts mode item texts).map (some ∘ .seq) := by
  rw [writes.find_eq]
  cases s with
  | repeated =>
    have values : (KeySource.ofPairs (repeated.written key texts) limit).values key = texts := by
      rw [written_same (fun _ => rfl), KeySource.values, KeySource.entries_ofPairs_same _ _ given,
        String.toList_ofList, List.lookup_cons_self]
      rfl
    have texted := values.symm ▸ given
    rw [WireType.find_seq_flat flat texted, values]
  | unnumbered =>
    have same : ∀ n, unnumbered.keyAt key n = key.bracketed [] := fun _ => rfl
    apply WireType.find_seq_unnumbered flat given
    rw [written_same same, KeySource.entries_ofPairs_same _ _ given, String.toList_ofList]
  | numbered =>
    apply WireType.find_seq_numbered flat given short fits
    have distinct : ((numbered.written key texts).map (·.1)).Nodup := by
      have keys : (numbered.written key texts).map (·.1) =
          (texts.zipIdx.map (·.2)).map fun n => String.ofList (key.item n) := by
        rw [written, List.map_map, List.map_map]
        rfl
      have injective : Function.Injective fun n => String.ofList (key.item n) :=
        fun _ _ same => Key.item_injective (String.ofList_injective same)
      rw [keys, List.zipIdx_map_snd]
      exact List.Nodup.map injective List.nodup_range'
    rw [KeySource.entries_ofPairs_of_nodup limit distinct, written, List.map_map]
    apply List.map_congr_left
    intro p _
    rw [Function.comp_apply, String.toList_ofList]
    rfl

end ListSpelling

/-- A list of items that one text holds is the same however its texts are given: repeated, under
empty brackets, or numbered from 0 within the limit on indices. It is there when every text can be
read, with an item for each, in lenient mode always; else it is in error with the first text that
is. -/
theorem WireType.find_seq_spelled (recs : Records) (mode : Mode) {item : WireType}
    (flat : item.isFlat = true) {key : Key} {texts : List String} (given : texts ≠ []) {limit : Nat}
    (short : texts.length ≤ limit + 1) (fits : limit ≤ wordMax) {s t : ListSpelling}
    {pairs pairs' : List (String × String)} (writes : s.Writes key texts pairs)
    (writes' : t.Writes key texts pairs') :
    let found := (seq item).find recs (.ofPairs pairs limit) mode key
    found = (seq item).find recs (.ofPairs pairs' limit) mode key ∧
      found ≠ .ok none ∧
      (∀ v, found = .ok (some v) ↔ ∃ items, v = .seq items ∧
        List.Forall₂ (fun raw w => item.ofRaw mode raw = .ok w) texts items) ∧
      (∀ e, found = .error e ↔ FirstError (item.ofRaw mode) texts e) ∧
      (mode = .lenient → ∃ items, found = .ok (some (.seq items))) := by
  intro found
  have made : found = _ := writes.find_seq flat given short fits
  refine ⟨?_, ?_, ?_, ?_, ?_⟩
  · rw [made]
    exact (writes'.find_seq flat given short fits).symm
  · rw [made]
    intro absent
    obtain ⟨items, _, none⟩ := Except.map_eq_ok_iff.mp absent
    cases none
  · intro v
    rw [made, Except.map_eq_ok_iff]
    constructor
    · rintro ⟨items, read, same⟩
      cases same
      exact ⟨items, rfl, Sequence.ofTexts_eq_ok_iff.mp read⟩
    · rintro ⟨items, rfl, each⟩
      exact ⟨items, Sequence.ofTexts_eq_ok_iff.mpr each, rfl⟩
  · intro e
    rw [made, Except.map_eq_error_iff, Sequence.ofTexts_eq_error_iff]
  · rintro rfl
    obtain ⟨items, read⟩ := Sequence.exists_ofTexts_lenient flat texts
    exact ⟨items, by rw [made, read]; rfl⟩

/-- Of two numbers the second is malformed. Other keys stand among the pairs, also one that begins
like the key of the list. -/
theorem WireType.find_seq_spelled_malformed :
    let type : WireType := .option (.scalar (.int .int32))
    let repeated := [("n", "5"), ("nx", "1"), ("n", "x")]
    let numbered := [("m[0]", "7"), ("n[0]", "5"), ("n[1]", "x")]
    type.isFlat = true ∧
      ListSpelling.repeated.Writes "n".toList ["5", "x"] repeated ∧
      ListSpelling.numbered.Writes "n".toList ["5", "x"] numbered ∧
      (seq type).find {} (.ofPairs numbered 1) .strict "n".toList =
        .error (.invalid "i32" "x" (.integer .invalidDigit)) ∧
      (seq type).find {} (.ofPairs repeated 1) .lenient "n".toList =
        (seq type).find {} (.ofPairs numbered 1) .lenient "n".toList := by
  intro type repeated numbered
  have flat : type.isFlat = true := rfl
  have writes : ListSpelling.repeated.Writes "n".toList ["5", "x"] repeated := by
    show _ = _
    decide +kernel
  have writes' : ListSpelling.numbered.Writes "n".toList ["5", "x"] numbered := by
    show _ = _
    decide +kernel
  have short : ["5", "x"].length ≤ 1 + 1 := by decide
  have fits : 1 ≤ wordMax := by decide
  have spelled : ∀ mode, _ := fun mode =>
    find_seq_spelled {} mode flat (List.cons_ne_nil _ _) short fits writes writes'
  refine ⟨flat, writes, writes', ?_, (spelled .lenient).1⟩
  rw [← (spelled .strict).1, (spelled .strict).2.2.2.1]
  refine ⟨["5"], "x", [], rfl, ?_, by rfl⟩
  intro raw member
  rw [List.mem_singleton.mp member]
  exact ⟨.present (.int 5), by rfl⟩

end RequestBinding
