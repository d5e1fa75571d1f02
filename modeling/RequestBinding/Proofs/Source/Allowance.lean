import Mathlib.Algebra.BigOperators.Ring.List
import Mathlib.Algebra.Order.BigOperators.Group.List
import Mathlib.Algebra.Order.Group.Nat
import Mathlib.Algebra.Ring.Nat
import RequestBinding.Convert.Keyed
import RequestBinding.Proofs.Source.Siblings

/-!
# What a source allows under a key

A list that stands under a key is paid for by the entries of the family of the key: by a bracket
that opens right behind the key, which allows for as many items as the limit on indices does, and by
raw texts, each of which allows for one item. `KeySource.allowance` adds up what the entries below a
key allow for.

Parts that have nothing in common share out the allowance of the whole, and what the brackets right
behind the key allow for is left over (`KeySource.sum_allowance_add_le`); different names in
brackets give such parts (`KeySource.sum_allowance_bracketed_le`). No key allows for more than all
brackets and texts of the source together (`KeySource.allowance_le`).
-/

namespace RequestBinding

/-! ## Shares -/

section

variable {α β : Type} {parts : List β}

/-- What is inside of one part at most is worth no more to all parts than to that one. -/
theorem sum_ite_add_le {inside : β → Bool} {worth : β → Nat} {extra total : Nat}
    (apart : parts.Pairwise fun p q => inside p = true → inside q = false)
    (alone : extra ≤ total) (shared : ∀ p ∈ parts, inside p = true → worth p + extra ≤ total) :
    (parts.map fun p => if inside p then worth p else 0).sum + extra ≤ total := by
  induction parts with
  | nil => simpa using alone
  | cons p rest ih =>
    obtain ⟨apartFirst, apartRest⟩ := List.pairwise_cons.mp apart
    rw [List.map_cons, List.sum_cons]
    cases within : inside p with
    | true =>
      have others : (rest.map fun q => if inside q then worth q else 0).sum = 0 := by
        apply List.sum_eq_zero
        intro n member
        obtain ⟨q, later, rfl⟩ := List.mem_map.mp member
        rw [apartFirst q later within, if_neg Bool.false_ne_true]
      have enough := shared p List.mem_cons_self within
      rw [others, if_pos rfl]
      omega
    | false =>
      rw [if_neg Bool.false_ne_true, Nat.zero_add]
      exact ih apartRest fun q later => shared q (List.mem_cons_of_mem p later)

/-- Where each entry is inside of one part at most, and is worth as much as it is worth to that part
and something extra, all entries are worth as much as they are to all parts, and all the extra. -/
theorem sum_filters_add_le {inside : β → α → Bool} {worth : β → α → Nat} {extra total : α → Nat}
    {entries : List α}
    (apart : parts.Pairwise fun p q => ∀ e, inside p e = true → inside q e = false)
    (alone : ∀ e ∈ entries, extra e ≤ total e)
    (shared : ∀ e ∈ entries, ∀ p ∈ parts, inside p e = true → worth p e + extra e ≤ total e) :
    (parts.map fun p => ((entries.filter (inside p)).map (worth p)).sum).sum +
      (entries.map extra).sum ≤ (entries.map total).sum := by
  induction entries with
  | nil => simp
  | cons e rest ih =>
    have others := ih (fun d member => alone d (List.mem_cons_of_mem e member))
      fun d member => shared d (List.mem_cons_of_mem e member)
    have first : (parts.map fun p => if inside p e then worth p e else 0).sum + extra e ≤ total e :=
      sum_ite_add_le (apart.imp fun separate => separate e) (alone e List.mem_cons_self)
        (shared e List.mem_cons_self)
    have split : (parts.map fun p => (((e :: rest).filter (inside p)).map (worth p)).sum).sum =
        (parts.map fun p => if inside p e then worth p e else 0).sum +
          (parts.map fun p => ((rest.filter (inside p)).map (worth p)).sum).sum := by
      rw [← List.sum_map_add]
      congr 1
      apply List.map_congr_left
      intro p _
      rw [List.filter_cons]
      cases inside p e with
      | true => rw [if_pos rfl, if_pos rfl, List.map_cons, List.sum_cons]
      | false => rw [if_neg Bool.false_ne_true, if_neg Bool.false_ne_true, Nat.zero_add]
    rw [split, List.map_cons, List.sum_cons, List.map_cons, List.sum_cons]
    omega

end

/-! ## Allowances -/

namespace KeySource

/-- What an entry allows for under a key that it stands under: a full list for each bracket behind
the key, and one item for each raw text. -/
def entryAllowance (src : KeySource) (key : Key) (entry : Key × List String) : Nat :=
  (src.maxIndex + 1) * (entry.1.drop key.length).count '[' + entry.2.length

/-- What the entries of a source allow for under a key. -/
def allowance (src : KeySource) (key : Key) : Nat :=
  ((src.family key).map (src.entryAllowance key)).sum

/-- A full list for an entry that goes on from the key with a bracket. -/
def places (src : KeySource) (key : Key) (entry : Key × List String) : Nat :=
  if (Text.dropLead? (key ++ ['[']) entry.1).isSome then src.maxIndex + 1 else 0

variable {src : KeySource} {key sub : Key} {entry : Key × List String}

theorem places_le_entryAllowance : src.places key entry ≤ src.entryAllowance key entry := by
  unfold places
  split
  · rename_i opens
    obtain ⟨rest, lead⟩ := Option.isSome_iff_exists.mp opens
    have text := Text.dropLead?_eq_some_iff.mp lead
    have bracket : (entry.1.drop key.length).count '[' = rest.count '[' + 1 := by
      rw [text, List.append_assoc, List.drop_left, List.singleton_append, List.count_cons_self]
    rw [entryAllowance, bracket, Nat.mul_add]
    omega
  · exact Nat.zero_le _

/-- Below a part an entry allows for what it allows for below the whole, save for the bracket that
may open the part. -/
theorem entryAllowance_add_places_le (part : Key.isPartOf sub key = true)
    (within : Key.isWithin entry.1 sub = true) :
    src.entryAllowance sub entry + src.places key entry ≤ src.entryAllowance key entry := by
  obtain ⟨rest, rfl, opens⟩ := Key.isPartOf_iff.mp part
  obtain ⟨deeper, text, _⟩ := Key.isWithin_iff.mp within
  have below : entry.1.drop (key ++ rest).length = deeper := by rw [text, List.drop_left]
  have above : entry.1.drop key.length = rest ++ deeper := by
    rw [text, List.append_assoc, List.drop_left]
  unfold entryAllowance places
  rw [below, above, List.count_append, Nat.mul_add]
  obtain ⟨tail, rfl | rfl⟩ := Key.opensPart_iff.mp opens
  · have dotted : Text.dropLead? (key ++ ['[']) entry.1 = none := by
      rw [Option.eq_none_iff_forall_ne_some]
      intro found lead
      have other := Text.dropLead?_eq_some_iff.mp lead
      rw [text] at other
      simp at other
    rw [dotted, Option.isSome_none, if_neg Bool.false_ne_true]
    omega
  · rw [List.count_cons_self, Nat.mul_add]
    split <;> omega

/-- Parts that have nothing in common share out the allowance of the whole, without the brackets
right behind its key. -/
theorem sum_allowance_add_le (src : KeySource) {subs : List Key}
    (below : ∀ sub ∈ subs, Key.isPartOf sub key = true) (apart : subs.Pairwise Key.Apart) :
    (subs.map src.allowance).sum + ((src.family key).map (src.places key)).sum ≤
      src.allowance key := by
  have within : subs.map src.allowance = subs.map fun sub =>
      (((src.family key).filter fun entry => Key.isWithin entry.1 sub).map
        (src.entryAllowance sub)).sum := by
    apply List.map_congr_left
    intro sub member
    rw [allowance, family_of_within src (Key.isWithin_of_isPartOf (below sub member))]
  rw [within, allowance]
  have separate : subs.Pairwise fun a b => ∀ entry : Key × List String,
      Key.isWithin entry.1 a = true → Key.isWithin entry.1 b = false :=
    apart.imp fun disjoint (entry : Key × List String) => disjoint entry.1
  have shared : ∀ entry ∈ src.family key, ∀ sub ∈ subs, Key.isWithin entry.1 sub = true →
      src.entryAllowance sub entry + src.places key entry ≤ src.entryAllowance key entry :=
    fun _ _ sub member inside => entryAllowance_add_places_le (below sub member) inside
  exact sum_filters_add_le separate (fun _ _ => places_le_entryAllowance) shared

/-- Parts with different names in brackets share out the allowance of the whole. -/
theorem sum_allowance_bracketed_le (src : KeySource) {subs : List Key}
    (bracketed : ∀ sub ∈ subs, ∃ label, ']' ∉ label ∧ sub = key.bracketed label)
    (distinct : subs.Nodup) :
    (subs.map src.allowance).sum + ((src.family key).map (src.places key)).sum ≤
      src.allowance key := by
  apply src.sum_allowance_add_le
  · intro sub member
    obtain ⟨label, _, rfl⟩ := bracketed sub member
    exact Key.isPartOf_bracketed key label
  · refine distinct.imp_of_mem fun {a b} memberA memberB different => ?_
    obtain ⟨labelA, freeA, rfl⟩ := bracketed a memberA
    obtain ⟨labelB, freeB, rfl⟩ := bracketed b memberB
    exact Key.apart_bracketed key freeA freeB fun same => different (congrArg _ same)

/-- Each text of a key is allowed for. -/
theorem length_values_le (src : KeySource) (key : Key) :
    (src.values key).length ≤ src.allowance key := by
  rw [values_eq_family]
  cases found : (src.family key).lookup key with
  | none => exact Nat.zero_le _
  | some texts =>
    have member : (key, texts) ∈ src.family key := by
      rw [List.lookup_eq_some_iff] at found
      obtain ⟨before, after, split, _⟩ := found
      rw [split]
      exact List.mem_append_right before List.mem_cons_self
    have worth : texts.length ≤ src.entryAllowance key (key, texts) := Nat.le_add_left _ _
    exact Nat.le_trans worth (List.le_sum_of_mem (List.mem_map_of_mem member))

/-- The number of opening brackets in all keys. -/
def bracketCount (src : KeySource) : Nat :=
  (src.entries.map fun entry => entry.1.count '[').sum

/-- The number of raw texts under all keys. -/
def textCount (src : KeySource) : Nat :=
  (src.entries.map fun entry => entry.2.length).sum

/-- No key allows for more than all brackets and texts of the source together. -/
theorem allowance_le (src : KeySource) (key : Key) :
    src.allowance key ≤ (src.maxIndex + 1) * src.bracketCount + src.textCount := by
  have worth : ∀ entry, src.entryAllowance key entry ≤
      (src.maxIndex + 1) * entry.1.count '[' + entry.2.length := by
    intro entry
    have fewer : (entry.1.drop key.length).count '[' ≤ entry.1.count '[' :=
      (List.drop_sublist key.length entry.1).count_le '['
    exact Nat.add_le_add_right (Nat.mul_le_mul_left _ fewer) _
  calc src.allowance key
      ≤ (src.entries.map (src.entryAllowance key)).sum :=
        (List.filter_sublist.map _).sum_le_sum fun _ _ => Nat.zero_le _
    _ ≤ (src.entries.map fun entry =>
          (src.maxIndex + 1) * entry.1.count '[' + entry.2.length).sum :=
        List.sum_le_sum fun entry _ => worth entry
    _ = (src.maxIndex + 1) * src.bracketCount + src.textCount := by
        rw [List.sum_map_add, List.sum_map_mul_left]
        rfl

end KeySource

end RequestBinding
