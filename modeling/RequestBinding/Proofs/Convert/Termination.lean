import Mathlib.Data.List.Chain
import Mathlib.Data.Prod.Lex
import RequestBinding.Proofs.Convert.Calls
import RequestBinding.Proofs.Source.Names

/-!
# The search comes to an end

A record type may contain itself in a list, a map or an optional box, and every level of the search
reads the whole source again, so neither the type nor the source gets smaller. But a call either
stays at the key, for what a pointer or a record contains there, or goes to a longer key that some
key of the source begins with (`Search.Calls.inside_or_longer`). Keys cannot outgrow the source, and
at one key the search only descends into pointers and flattened records, of which there are finitely
many (`Search.Calls.wellFounded`).

A run of the search (`Search.Run`) is made of the runs that it calls. Every search has exactly one
outcome, which is what is found (`Search.run_iff`).
-/

namespace RequestBinding

/-! ## Where calls go -/

namespace KeySource

variable {src : KeySource} {key : Key}

/-- The key of a part that a bracket names is longer, and it begins a key of the source. -/
theorem longer_of_mapKey? {label part : Key}
    (named : (label, part) ∈ (src.brackets key).filterMap Bracket.mapKey?) :
    key.length < part.length ∧ ∃ entry ∈ src.entries, part <+: entry.1 := by
  rw [filterMap_mapKey?_brackets, List.mem_map] at named
  obtain ⟨name, member, same⟩ := named
  cases same
  obtain ⟨entry, present, read⟩ := List.mem_filterMap.mp member
  obtain ⟨-, -, rest, shape⟩ := Key.nameIn?_eq_some_iff.mp read
  exact ⟨Key.length_lt_of_isPartOf (Key.isPartOf_bracketed key _), entry, present, rest,
    shape.symm⟩

/-- The key under which a part of a record is found is longer, and it begins a key of the source. -/
theorem longer_of_partKey? {sub : Key} {part : String} (chosen : src.partKey? key part = some sub) :
    key.length < sub.length ∧ ∃ entry ∈ src.entries, sub <+: entry.1 := by
  have longer := Key.length_lt_of_isPartOf (isPartOf_of_partKey? chosen)
  obtain ⟨entry, present, addressed⟩ := List.exists_of_findSome?_eq_some chosen
  obtain ⟨rest, shape, -⟩ := Key.isWithin_iff.mp (addressed?_eq_some addressed).2
  exact ⟨longer, entry, present, rest, shape.symm⟩

end KeySource

namespace Search

variable {recs : Records} {src : KeySource} {mode : Mode} {search other : Search}

/-- A call stays at the key with what is inside, or it goes to a longer key that begins a key of
the source. -/
theorem Calls.inside_or_longer (calls : Calls recs src search other) :
    other.key = search.key ∧ search.quest.Inside recs other.quest ∨
      search.key.length < other.key.length ∧ ∃ entry ∈ src.entries, other.key <+: entry.1 := by
  cases calls with
  | inside inside parts => exact Or.inl ⟨rfl, inside⟩
  | item listed =>
    obtain ⟨b, member, index, -⟩ := Sequence.mem_of_mem_partsWithin listed
    obtain ⟨label, named⟩ := Bracket.mapKey?_of_index? index
    exact Or.inr (KeySource.longer_of_mapKey? (List.mem_filterMap.mpr ⟨b, member, named⟩))
  | entry named => exact Or.inr (KeySource.longer_of_mapKey? (Bracket.mem_of_mem_firsts named))
  | field fields parts owns role chosen => exact Or.inr (KeySource.longer_of_partKey? chosen)

/-- A call to another key comes closer to the longest key of the source. -/
theorem Calls.closer (calls : Calls recs src search other) (moved : other.key ≠ search.key) :
    search.key.length < other.key.length ∧ other.key.length ≤ src.longest := by
  rcases calls.inside_or_longer with ⟨same, -⟩ | ⟨longer, entry, member, begins⟩
  · exact absurd same moved
  · exact ⟨longer, Nat.le_trans begins.length_le (KeySource.length_le_longest member)⟩

end Search

/-! ## Calls at one key -/

/-- The number of records that are flattened into one another. -/
def FieldTable.flatDepth : FieldTable → Nat
  | .nil => 0
  | .field _ rest => rest.flatDepth
  | .flattened _ _ inner rest => max (inner.flatDepth + 1) rest.flatDepth

theorem FieldTable.Flattens.flatDepth_lt {table inner : FieldTable} {ident : String}
    (flattens : table.Flattens ident inner) : inner.flatDepth < table.flatDepth := by
  induction flattens with
  | here name ident inner rest => exact Nat.le_max_left _ _
  | later own flattens ih => exact ih
  | past name other before flattens ih => exact Nat.lt_of_lt_of_le ih (Nat.le_max_right _ _)

/-- The number of pointers and flattened records that a search for a value can descend into without
leaving its key. -/
def WireType.reach (recs : Records) : WireType → Nat
  | .option inner => inner.reach recs + 1
  | .box inner => inner.reach recs + 1
  | .record ident => (recs.find? ident).elim 0 (·.fields.flatDepth)
  | _ => 0

/-- The number of calls that can follow one another without leaving the key. -/
def Quest.reach (recs : Records) : Quest → Nat
  | .value type => type.reach recs
  | .flattened _ table => table.flatDepth

theorem Quest.flatDepth_eq_reach {recs : Records} {quest : Quest} {table : FieldTable}
    (fields : quest.table? recs = some table) : table.flatDepth = quest.reach recs := by
  cases quest with
  | flattened ident own =>
    cases fields
    rfl
  | value type =>
    cases type with
    | record ident =>
      obtain ⟨r, declared, rfl⟩ := Option.map_eq_some_iff.mp fields
      rw [reach, WireType.reach, declared, Option.elim_some]
    | _ => cases fields

theorem Quest.Inside.reach_lt {recs : Records} {quest inner : Quest}
    (inside : quest.Inside recs inner) : inner.reach recs < quest.reach recs := by
  cases inside with
  | option inner => exact Nat.lt_succ_self _
  | box inner => exact Nat.lt_succ_self _
  | flattened fields flattens =>
    rw [← flatDepth_eq_reach fields]
    exact flattens.flatDepth_lt

namespace Search

variable {recs : Records} {src : KeySource} {mode : Mode} {search other : Search}

/-- Calls that follow one another at one key are no more than its search can reach. -/
theorem length_le_reach {trail : List Search}
    (chain : List.IsChain (Calls recs src) (search :: trail))
    (same : ∀ other ∈ trail, other.key = search.key) :
    trail.length ≤ search.quest.reach recs := by
  induction trail generalizing search with
  | nil => exact Nat.zero_le _
  | cons next rest ih =>
    obtain ⟨calls, chain⟩ := List.isChain_cons_cons.mp chain
    obtain ⟨here, later⟩ := List.forall_mem_cons.mp same
    have shorter := ih chain fun other member => (later other member).trans here.symm
    rcases calls.inside_or_longer with ⟨-, inside⟩ | ⟨longer, -⟩
    · exact Nat.lt_of_le_of_lt shorter inside.reach_lt
    · rw [here] at longer
      exact absurd longer (Nat.lt_irrefl _)

/-! ## Runs -/

/-- No search calls others without end: at one key it descends into what is inside, and at the next
key it is closer to the longest key of the source. -/
theorem Calls.wellFounded (recs : Records) (src : KeySource) :
    WellFounded fun other search => Calls recs src search other := by
  let rank : Search → Nat × Nat := fun search =>
    (src.longest - search.key.length, search.quest.reach recs)
  have descends : ∀ {other search}, Calls recs src search other →
      InvImage (Prod.Lex (· < ·) (· < ·)) rank other search := by
    intro other search calls
    by_cases same : other.key = search.key
    · rcases calls.inside_or_longer with ⟨-, inside⟩ | ⟨longer, -⟩
      · exact Prod.lex_iff.mpr (Or.inr ⟨by simp only [rank, same], inside.reach_lt⟩)
      · rw [same] at longer
        exact absurd longer (Nat.lt_irrefl _)
    · obtain ⟨longer, within⟩ := calls.closer same
      exact Prod.lex_iff.mpr (Or.inl (by simp only [rank]; omega))
  exact Subrelation.wf descends
    (InvImage.wf rank (WellFounded.prod_lex Nat.lt_wfRel.wf Nat.lt_wfRel.wf))

/-- The search runs to an outcome: all searches that it may call do, and the body of the search
makes its own outcome of theirs. Errors are outcomes. -/
inductive Run (recs : Records) (src : KeySource) (mode : Mode) : Search → Found → Prop
  | of_calls {search : Search} (answer : Search → Found)
    (answered : ∀ other, Calls recs src search other → Run recs src mode other (answer other)) :
    Run recs src mode search (search.step recs src mode answer)

/-- Every search runs to an end, and its outcome is what is found. -/
theorem run_iff {found : Found} :
    Run recs src mode search found ↔ found = search.find recs src mode := by
  constructor
  · intro run
    induction run with
    | of_calls answer answered ih => rw [find_eq_step, step_congr ih]
  · rintro rfl
    induction search using (Calls.wellFounded recs src).induction with
    | _ search ih =>
      rw [find_eq_step]
      exact .of_calls _ ih

/-! ## Nested records -/

/-- A record that is not flattened is looked for, and there are parts to bind its fields from. -/
def isEntered (src : KeySource) : Search → Bool
  | ⟨.value (.record _), key⟩ => src.hasParts key
  | _ => false

/-- A record that is found has been entered. -/
theorem isEntered_of_find {ident : String} {key : Key} {v : Value}
    (found : (WireType.record ident).find recs src mode key = .ok (some v)) :
    isEntered src ⟨.value (.record ident), key⟩ = true := by
  rw [WireType.find_record] at found
  split at found
  · assumption
  · cases found

/-- The characters by which the key can grow below the search. The fields of a flattened record
are under longer keys than the record into which it is flattened. -/
def room (src : KeySource) : Search → Nat
  | ⟨.value _, key⟩ => src.longest - key.length
  | ⟨.flattened _ _, key⟩ => src.longest - key.length - 1

theorem room_le (src : KeySource) (search : Search) :
    search.room src ≤ src.longest - search.key.length := by
  obtain ⟨quest, key⟩ := search
  cases quest with
  | value type => exact Nat.le_refl _
  | flattened ident table => exact Nat.sub_le _ _

/-- An entered record has room for one character more than a record that is flattened into it. -/
theorem isEntered_add_le_room (src : KeySource) (search : Search) :
    (if search.isEntered src then 1 else 0) + (src.longest - search.key.length - 1) ≤
      search.room src := by
  obtain ⟨quest, key⟩ := search
  cases quest with
  | flattened ident table => exact Nat.le_of_eq (Nat.zero_add _)
  | value type =>
    simp only [room]
    split
    · rename_i entered
      match type, entered with
      | .record ident, parts =>
        have below : key.length < src.longest := KeySource.length_lt_longest_of_hasParts parts
        omega
    · omega

/-- A call leaves no more room, and that of an entered record leaves less. -/
theorem Calls.room_le (calls : Calls recs src search other) :
    (if search.isEntered src then 1 else 0) + other.room src ≤ search.room src := by
  have upper := isEntered_add_le_room src search
  obtain ⟨inner, sub⟩ := other
  by_cases same : sub = search.key
  -- At the key of an entered record only flattened records follow, which have a character less.
  · subst same
    rcases calls.inside_or_longer with ⟨-, inside⟩ | ⟨longer, -⟩
    · obtain ⟨quest, key⟩ := search
      cases inside with
      | option inner => exact Nat.le_of_eq (Nat.zero_add _)
      | box inner => exact Nat.le_of_eq (Nat.zero_add _)
      | flattened fields flattens => exact upper
    · exact absurd longer (Nat.lt_irrefl _)
  · have lower : room src ⟨inner, sub⟩ ≤ src.longest - sub.length := room_le src ⟨inner, sub⟩
    have longer : search.key.length < sub.length := (calls.closer same).1
    omega

/-- Among calls that follow one another no more records are entered than there is room for. -/
theorem countP_isEntered_le {trail : List Search}
    (chain : List.IsChain (Calls recs src) (search :: trail)) :
    (search :: trail).countP (isEntered src) ≤ search.room src := by
  induction trail generalizing search with
  | nil =>
    have here := isEntered_add_le_room src search
    rw [List.countP_cons, List.countP_nil]
    omega
  | cons next rest ih =>
    obtain ⟨calls, chain⟩ := List.isChain_cons_cons.mp chain
    have below := ih chain
    have left := calls.room_le
    rw [List.countP_cons]
    omega

/-- Whatever the records contain, the search for a value or record comes to an end under every key
of every source, and its outcome is what is found; with calls beside those of `Calls` it would not
be the only one. A call stays at the key with what a pointer holds or with a flattened record, and
no more such calls follow one another than the quest can reach, or it goes to a longer key that
begins a key of the source. So the records that are entered one below the other, among them all
that are found, are no more than the characters that the longest key has beyond the first. -/
theorem terminates (recs : Records) (src : KeySource) (mode : Mode) :
    (∀ search found, Run recs src mode search found ↔ found = search.find recs src mode) ∧
    (∀ search other, Calls recs src search other →
      other.key = search.key ∧ search.quest.Inside recs other.quest ∨
        search.key.length < other.key.length ∧ ∃ entry ∈ src.entries, other.key <+: entry.1) ∧
    (∀ search trail, List.IsChain (Calls recs src) (search :: trail) →
      ((∀ other ∈ trail, other.key = search.key) → trail.length ≤ search.quest.reach recs) ∧
      (search :: trail).countP (isEntered src) ≤ src.longest - search.key.length) ∧
    (∀ ident key v, (WireType.record ident).find recs src mode key = .ok (some v) →
      isEntered src ⟨.value (.record ident), key⟩ = true) := by
  refine ⟨fun _ _ => run_iff, fun _ _ => Calls.inside_or_longer, ?_, fun _ _ _ => isEntered_of_find⟩
  intro search trail chain
  exact ⟨length_le_reach chain, Nat.le_trans (countP_isEntered_le chain) (search.room_le src)⟩

end Search

/-- Trees that contain trees in a list and in an optional box, each with a label that is
flattened. -/
def Records.trees : Records :=
  let label : FieldTable := .field (.annotated "text" (.scalar .text) "") .nil
  (Records.declare {} "Label" "Label" label).declare "Tree" "Tree"
    (.flattened "label" "Label" label
      (.field (.annotated "kids" (.seq (.record "Tree")) "")
        (.field (.annotated "next" (.option (.box (.record "Tree"))) "") .nil)))

/-- The search for a tree calls for its list, and that for the tree in the list. -/
theorem Search.terminates_tree :
    let src := KeySource.ofPairs [("t.kids[0].text", "a")] 8
    let tree : Search := ⟨.value (.record "Tree"), "t".toList⟩
    let kids : Search := ⟨.value (.seq (.record "Tree")), "t.kids".toList⟩
    let kid : Search := ⟨.value (.record "Tree"), "t.kids[0]".toList⟩
    Run .trees src .strict tree (.ok (some (.record [.record [.text ""],
        .seq [.record [.record [.text "a"], .seq [], .absent]], .absent]))) ∧
      List.IsChain (Calls .trees src) [tree, kids, kid] ∧
      [tree, kids, kid].countP (isEntered src) ≤ 13 := by
  intro src tree kids kid
  obtain ⟨runs, -, chains, -⟩ := terminates .trees src .strict
  have list : Calls .trees src tree kids :=
    .field rfl (by decide +kernel) (.past _ _ _ (.here _ _)) rfl (by decide +kernel)
  have item : Calls .trees src kids kid := by
    have listed : (0, kid.key) ∈ Sequence.partsWithin src.maxIndex (src.brackets kids.key) := by
      decide +kernel
    exact .item listed
  have chain : List.IsChain (Calls .trees src) [tree, kids, kid] :=
    .cons_cons list (.cons_cons item (.singleton _))
  exact ⟨(runs _ _).mpr rfl, chain, (chains _ _ chain).2⟩

end RequestBinding
