import RequestBinding.Proofs.Constraint.Rules
import RequestBinding.Proofs.Outcome

/-!
# The first violation in a view

A validator goes through a view in reading order, a sequence first and its items after it. These are
the nodes of the view; those of them that are no sequences are its leaves. Of the rules a sequence
can only break the one against zero values. So what a validator finds is what it finds first among
the nodes (`Validator.check_eq_findSome?`), each of them looked at as a single view.

* `Validator.validate_eq_ok_iff`: a view passes when all of its nodes obey all rules, that is, when
  its leaves do and, where zero values are rejected, no sequence in it is empty.
* `Validator.validate_eq_error_iff`: otherwise the first node that breaks a rule is reported, with
  the first rule that it breaks.
* `Validator.validate_reports_first` is both together, with what follows for sequences that are
  joined.
-/

namespace RequestBinding

namespace View

/-! ## Nodes and leaves -/

mutual

/-- The views in a view that are not sequences. -/
def leaves : View → List View
  | .seq items => leavesOf items
  | single => [single]

/-- The leaves of views that come one after the other. -/
def leavesOf : List View → List View
  | [] => []
  | item :: rest => item.leaves ++ leavesOf rest

end

mutual

/-- All views in a view, the view itself first, and each sequence before its items. -/
def nodes : View → List View
  | .seq items => .seq items :: nodesOf items
  | single => [single]

/-- The nodes of views that come one after the other. -/
def nodesOf : List View → List View
  | [] => []
  | item :: rest => item.nodes ++ nodesOf rest

end

/-- The view is a sequence. -/
def isSeq : View → Bool
  | .seq _ => true
  | _ => false

theorem eq_seq_of_isSeq {view : View} (sequence : view.isSeq = true) :
    ∃ items, view = .seq items := by
  cases view with
  | seq items => exact ⟨items, rfl⟩
  | _ => cases sequence

mutual

/-- The leaves are the nodes that are no sequences, in the same order. -/
theorem leaves_eq_filter : (view : View) → view.leaves = view.nodes.filter (!·.isSeq)
  | .seq items => leavesOf_eq_filter items
  | .number _ => rfl
  | .bool _ => rfl
  | .text _ => rfl
  | .bytes _ => rfl
  | .absent => rfl
  | .sealed _ => rfl

theorem leavesOf_eq_filter : (items : List View) →
    leavesOf items = (nodesOf items).filter (!·.isSeq)
  | [] => rfl
  | item :: rest => by
    rw [leavesOf, nodesOf, List.filter_append, leaves_eq_filter item, leavesOf_eq_filter rest]

end

theorem mem_leaves_iff {view leaf : View} :
    leaf ∈ view.leaves ↔ leaf ∈ view.nodes ∧ leaf.isSeq = false := by
  rw [leaves_eq_filter, List.mem_filter, Bool.not_eq_true']

theorem mem_nodes_self (view : View) : view ∈ view.nodes := by
  cases view <;> exact List.mem_cons_self

theorem nodesOf_append (items others : List View) :
    nodesOf (items ++ others) = nodesOf items ++ nodesOf others := by
  induction items with
  | nil => rfl
  | cons item rest ih => rw [List.cons_append, nodesOf, nodesOf, ih, List.append_assoc]

end View

namespace Validator

variable {v : Validator} {view : View} {field : String}

/-! ## What is found -/

/-- All that a sequence can break is the rule against zero values, by being empty. -/
theorem checkSingle_seq (items : List View) :
    v.checkSingle (.seq items) =
      if v.nonzero && items.isEmpty then some (.notSet, "not set") else none := by
  obtain ⟨range, nonzero, length, pattern⟩ := v
  cases range <;> cases nonzero <;> cases length <;> cases pattern <;> cases items <;> rfl

mutual

/-- What is found in a view is what is found first in its nodes, one by one. -/
theorem check_eq_findSome? : (view : View) → v.check view = view.nodes.findSome? v.checkSingle
  | .seq items => by
    rw [check, View.nodes, List.findSome?_cons, checkSingle_seq, checkItems_eq_findSome? items]
    split <;> rfl
  | .number _ => List.findSome?_singleton.symm
  | .bool _ => List.findSome?_singleton.symm
  | .text _ => List.findSome?_singleton.symm
  | .bytes _ => List.findSome?_singleton.symm
  | .absent => List.findSome?_singleton.symm
  | .sealed _ => List.findSome?_singleton.symm

theorem checkItems_eq_findSome? : (items : List View) →
    v.checkItems items = (View.nodesOf items).findSome? v.checkSingle
  | [] => rfl
  | item :: rest => by
    rw [checkItems, View.nodesOf, List.findSome?_append, check_eq_findSome? item,
      checkItems_eq_findSome? rest]

end

theorem obeys_seq_iff {items : List View} :
    v.Obeys (.seq items) ↔ (v.nonzero = true → items ≠ []) := by
  rw [← checkSingle_eq_none_iff, checkSingle_seq]
  cases v.nonzero <;> cases items <;> simp

/-- All nodes obey when the leaves do and no sequence is empty that must not be. -/
theorem obeys_nodes_iff :
    (∀ node ∈ view.nodes, v.Obeys node) ↔
      (∀ leaf ∈ view.leaves, v.Obeys leaf) ∧
        (v.nonzero = true → ∀ items, .seq items ∈ view.nodes → items ≠ []) := by
  constructor
  · intro each
    refine ⟨fun leaf member => each leaf (View.mem_leaves_iff.mp member).1, ?_⟩
    exact fun nonzero items member => obeys_seq_iff.mp (each _ member) nonzero
  · rintro ⟨leaves, sequences⟩ node member
    cases sort : node.isSeq with
    | false => exact leaves node (View.mem_leaves_iff.mpr ⟨member, sort⟩)
    | true =>
      obtain ⟨items, rfl⟩ := View.eq_seq_of_isSeq sort
      exact obeys_seq_iff.mpr fun nonzero => sequences nonzero items member

/-! ## What is reported -/

theorem validate_eq_ok_iff_check : v.validate field view = .ok () ↔ v.check view = none := by
  unfold validate
  split
  · exact iff_of_true rfl ‹_›
  · exact iff_of_false nofun (by simp [*])

theorem validate_eq_error_iff_check {broken : Violation} :
    v.validate field view = .error broken ↔
      ∃ kind detail, v.check view = some (kind, detail) ∧ broken = ⟨field, kind, detail⟩ := by
  unfold validate
  split
  · rename_i quiet
    exact iff_of_false nofun (by simp [quiet])
  · rename_i kind detail found
    constructor
    · rintro ⟨⟩
      exact ⟨kind, detail, found, rfl⟩
    · rintro ⟨kind', detail', found', rfl⟩
      cases found.symm.trans found'
      rfl

/-- A view passes when its leaves obey all rules and no sequence in it is empty that must not be. -/
theorem validate_eq_ok_iff :
    v.validate field view = .ok () ↔
      (∀ leaf ∈ view.leaves, v.Obeys leaf) ∧
        (v.nonzero = true → ∀ items, .seq items ∈ view.nodes → items ≠ []) := by
  rw [validate_eq_ok_iff_check, check_eq_findSome?, List.findSome?_eq_none_iff, ← obeys_nodes_iff]
  simp only [checkSingle_eq_none_iff]

/-- A view is rejected for its first node that breaks a rule, and for the first rule that this one
breaks. -/
theorem validate_eq_error_iff {broken : Violation} :
    v.validate field view = .error broken ↔
      ∃ before node after kind detail, view.nodes = before ++ node :: after ∧
        (∀ earlier ∈ before, v.Obeys earlier) ∧ v.BreaksFirst node kind detail ∧
        broken = ⟨field, kind, detail⟩ := by
  rw [validate_eq_error_iff_check]
  simp only [check_eq_findSome?, List.findSome?_eq_some_iff, checkSingle_eq_some_iff,
    checkSingle_eq_none_iff]
  constructor
  · rintro ⟨kind, detail, ⟨before, node, after, split, first, earlier⟩, rfl⟩
    exact ⟨before, node, after, kind, detail, split, earlier, first, rfl⟩
  · rintro ⟨before, node, after, kind, detail, split, earlier, first, rfl⟩
    exact ⟨kind, detail, ⟨before, node, after, split, first, earlier⟩, rfl⟩

/-- A sequence that is not empty fares as its items do. -/
theorem check_seq_of_ne_nil {items : List View} (filled : items ≠ []) :
    v.check (.seq items) = v.checkItems items := by
  rw [check, List.isEmpty_eq_false_iff.mpr filled, Bool.and_false, if_neg Bool.false_ne_true]

/-- Sequences that are joined are checked one after the other. -/
theorem validate_seq_append {items others : List View} (filled : items ≠ []) (more : others ≠ []) :
    v.validate field (.seq (items ++ others)) =
      v.validate field (.seq items) >>= fun _ => v.validate field (.seq others) := by
  have joined : items ++ others ≠ [] := List.append_ne_nil_of_left_ne_nil filled others
  unfold validate
  rw [check_seq_of_ne_nil joined, check_seq_of_ne_nil filled, check_seq_of_ne_nil more,
    checkItems_eq_findSome? (items ++ others), View.nodesOf_append, List.findSome?_append,
    ← checkItems_eq_findSome?, ← checkItems_eq_findSome?]
  cases v.checkItems items <;> rfl

theorem check_seq_of_not_nonzero (zeros : v.nonzero = false) (items : List View) :
    v.check (.seq items) = items.findSome? v.check := by
  rw [check, zeros, Bool.false_and, if_neg Bool.false_ne_true]
  induction items with
  | nil => rfl
  | cons item rest ih =>
    rw [checkItems, List.findSome?_cons, ih]
    cases v.check item <;> rfl

/-- Where zero values are not rejected, a sequence passes when its items do. -/
theorem validate_seq_eq_ok_iff (zeros : v.nonzero = false) {items : List View} :
    v.validate field (.seq items) = .ok () ↔
      ∀ item ∈ items, v.validate field item = .ok () := by
  simp only [validate_eq_ok_iff_check, check_seq_of_not_nonzero zeros, List.findSome?_eq_none_iff]

/-- Where zero values are not rejected, a sequence is rejected for the first of its items that
is. -/
theorem validate_seq_eq_error_iff (zeros : v.nonzero = false) {items : List View}
    {broken : Violation} :
    v.validate field (.seq items) = .error broken ↔
      FirstError (v.validate field) items broken := by
  have quiet : ∀ item, v.check item = none ↔ ∃ u, v.validate field item = .ok u :=
    fun item => validate_eq_ok_iff_check.symm.trans ⟨fun passes => ⟨(), passes⟩, fun ⟨_, ok⟩ => ok⟩
  rw [validate_eq_error_iff_check, check_seq_of_not_nonzero zeros]
  simp only [List.findSome?_eq_some_iff, FirstError, validate_eq_error_iff_check, quiet]
  constructor
  · rintro ⟨kind, detail, ⟨before, item, after, split, found, earlier⟩, rfl⟩
    exact ⟨before, item, after, split, earlier, kind, detail, found, rfl⟩
  · rintro ⟨before, item, after, split, earlier, kind, detail, found, rfl⟩
    exact ⟨kind, detail, ⟨before, item, after, split, found, earlier⟩, rfl⟩

/-- Whatever a view is made of, a validator passes it when each of its leaves obeys every rule for
leaves of its sort and no sequence in it is empty that must not be. Otherwise it reports, for the
field that it is told, the first node in reading order that breaks a rule, with the first rule that
this node breaks. So of two sequences that are joined the second is looked at when the first
passes. -/
theorem validate_reports_first (v : Validator) (field : String) :
    (∀ view : View,
      (v.validate field view = .ok () ↔
        (∀ leaf ∈ view.leaves, v.Obeys leaf) ∧
          (v.nonzero = true → ∀ items, .seq items ∈ view.nodes → items ≠ [])) ∧
      (∀ broken, v.validate field view = .error broken ↔
        ∃ before node after kind detail, view.nodes = before ++ node :: after ∧
          (∀ earlier ∈ before, v.Obeys earlier) ∧ v.BreaksFirst node kind detail ∧
          broken = ⟨field, kind, detail⟩) ∧
      ∀ broken, v.validate field view = .error broken → broken.field = field) ∧
    ∀ items others : List View, items ≠ [] → others ≠ [] →
      v.validate field (.seq (items ++ others)) =
        v.validate field (.seq items) >>= fun _ => v.validate field (.seq others) := by
  refine ⟨fun view => ⟨validate_eq_ok_iff, fun broken => validate_eq_error_iff, ?_⟩, ?_⟩
  · intro broken fails
    obtain ⟨_, _, _, _, rfl⟩ := validate_eq_error_iff_check.mp fails
    rfl
  · exact fun items others => validate_seq_append

theorem validate_reports_first_nested :
    let v : Validator := { nonzero := true, length := some ⟨some 2, some 3⟩ }
    let front : List View := [.text "ab", .seq [.text "a", .text ""]]
    v.validate "name" (.seq front) = .error ⟨"name", .tooShort, "shorter than 2: a"⟩ ∧
      v.validate "name" (.seq (front ++ [.seq []])) =
        v.validate "name" (.seq front) >>= fun _ => v.validate "name" (.seq [.seq []]) := by
  intro v front
  obtain ⟨each, joined⟩ := validate_reports_first v "name"
  refine ⟨((each (.seq front)).2.1 _).mpr ?_, joined front [.seq []] nofun nofun⟩
  refine ⟨[.seq front, .text "ab", .seq [.text "a", .text ""]], .text "a", [.text ""], .tooShort,
    _, rfl, ?_, checkSingle_eq_some_iff.mp rfl, rfl⟩
  simp only [List.forall_mem_cons, ← checkSingle_eq_none_iff]
  exact ⟨rfl, rfl, rfl, List.forall_mem_nil _⟩

end Validator

end RequestBinding
