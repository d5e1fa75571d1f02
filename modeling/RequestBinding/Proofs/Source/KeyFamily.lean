import RequestBinding.Source.Bracket
import RequestBinding.Convert.Keyed
import RequestBinding.Proofs.Source.KeyPrefix

/-!
# The family of a key

The family of a key are the entries of a source that stand under the key or under a longer key
that goes on from it with a dot or a bracket. Whatever a source is asked about a key is answered
by the family of that key alone (`values_eq_family`, `hasParts_eq_family`, `brackets_eq_family`,
`partKey?_eq_family`), and the family of a part is found within the family of the whole
(`family_of_within`). So two sources that agree on one family agree on everything below it
(`AgreeOn.mono`), whatever else they hold.
-/

namespace RequestBinding

namespace Bracket

/-- A key that goes on with a bracket has a name up to the first closing bracket. -/
theorem shape_of_read? {key : Key} {entry : Key × List String} {b : Bracket}
    (read : read? key entry = some b) :
    ∃ inner after, ']' ∉ inner ∧ entry.1 = key.bracketed inner ++ after := by
  unfold read? at read
  split at read
  · cases read
  · rename_i rest lead
    have text := Text.dropLead?_eq_some_iff.mp lead
    have close : ∀ {inner after}, Text.cutAt ']' rest = some (inner, after) →
        ']' ∉ inner ∧ entry.1 = key.bracketed inner ++ after := by
      intro inner after cut
      obtain ⟨split, free⟩ := Text.cutAt_eq_some_iff.mp cut
      refine ⟨free, ?_⟩
      rw [text, split, Key.bracketed_append]
      simp
    split at read
    · cases read
    · exact ⟨_, _, close ‹_›⟩
    · exact ⟨_, _, close ‹_›⟩

/-- What the bracket of a part says that has a name. -/
def ofName (key inner : Key) : Bracket :=
  if inner.all Text.isDigit then .index (indexOf inner) inner (key.bracketed inner)
  else .named inner (key.bracketed inner)

theorem mapKey?_ofName (key inner : Key) :
    (ofName key inner).mapKey? = some (inner, key.bracketed inner) := by
  unfold ofName
  split <;> rfl

/-- What a key with brackets says. -/
theorem read?_bracketed {key inner : Key} (free : ']' ∉ inner) (after : Key)
    (values : List String) :
    read? key (key.bracketed inner ++ after, values) =
      if inner = [] then if after.isEmpty then some (.unindexed values) else none
      else some (ofName key inner) := by
  have lead : Text.dropLead? (key ++ ['[']) (key.bracketed inner ++ after) =
      some (inner ++ ']' :: after) := by
    rw [Text.dropLead?_eq_some_iff, Key.bracketed_append]
    simp
  unfold read?
  simp only [lead, Text.cutAt_append free]
  cases inner with
  | nil => simp
  | cons c cs =>
    simp only [ofName, reduceCtorEq, if_false]
    split <;> rfl

theorem isPartOf_of_read? {key : Key} {entry : Key × List String} {b : Bracket}
    (read : read? key entry = some b) : Key.isPartOf entry.1 key = true := by
  obtain ⟨inner, after, _, shape⟩ := shape_of_read? read
  have begins : entry.1 = key ++ '[' :: (inner ++ ']' :: after) := by
    rw [shape, Key.bracketed_append]
  exact Key.isPartOf_iff.mpr ⟨'[' :: (inner ++ ']' :: after), begins, rfl⟩

/-- The key of a part that a bracket names is a part of the key. -/
theorem isPartOf_of_mapKey? {key label part : Key} {entry : Key × List String} {b : Bracket}
    (read : read? key entry = some b) (named : b.mapKey? = some (label, part)) :
    Key.isPartOf part key = true := by
  obtain ⟨inner, after, free, shape⟩ := shape_of_read? read
  rw [show entry = (key.bracketed inner ++ after, entry.2) from Prod.ext shape rfl,
    read?_bracketed free] at read
  split at read
  · split at read
    · cases read
      cases named
    · cases read
  · cases read
    rw [mapKey?_ofName] at named
    cases named
    exact Key.isPartOf_bracketed key _

/-- A bracket holds the texts of an entry, or it says no more than the name in it. -/
theorem eq_of_read? {key : Key} {entry : Key × List String} {b : Bracket}
    (read : read? key entry = some b) :
    entry.1 = key.bracketed [] ∧ b = .unindexed entry.2 ∨
      ∃ inner, inner ≠ [] ∧ ']' ∉ inner ∧ b = ofName key inner := by
  obtain ⟨inner, after, free, shape⟩ := shape_of_read? read
  rw [show entry = (key.bracketed inner ++ after, entry.2) from Prod.ext shape rfl,
    read?_bracketed free] at read
  by_cases unnamed : inner = []
  · rw [if_pos unnamed] at read
    split at read
    · rename_i ends
      cases read
      rw [List.isEmpty_iff.mp ends, List.append_nil, unnamed] at shape
      exact Or.inl ⟨shape, rfl⟩
    · cases read
  · rw [if_neg unnamed] at read
    cases read
    exact Or.inr ⟨inner, unnamed, free, rfl⟩

theorem index?_ofName {key inner part : Key} {n : Nat}
    (index : (ofName key inner).index? = some (n, part)) :
    n = indexOf inner ∧ part = key.bracketed inner := by
  unfold ofName at index
  split at index
  · cases index
    exact ⟨rfl, rfl⟩
  · cases index

theorem mapKey?_of_index? {b : Bracket} {n : Nat} {part : Key} (index : b.index? = some (n, part)) :
    ∃ label, b.mapKey? = some (label, part) := by
  cases b with
  | index m digits own =>
    cases index
    exact ⟨digits, rfl⟩
  | unindexed values => cases index
  | named name own => cases index

/-- The first parts are among the parts. -/
theorem mem_of_mem_firsts {α : Type} [BEq α] {seen : List α} {parts : List (α × Key)}
    {p : α × Key} (first : p ∈ firsts seen parts) : p ∈ parts := by
  induction parts generalizing seen with
  | nil => cases first
  | cons q rest ih =>
    unfold firsts at first
    split at first
    · exact List.mem_cons_of_mem _ (ih first)
    · rcases List.mem_cons.mp first with rfl | later
      · exact List.mem_cons_self
      · exact List.mem_cons_of_mem _ (ih later)

end Bracket

namespace KeySource

/-- The entries of a source at a key and below it, in order. -/
def family (src : KeySource) (key : Key) : List (Key × List String) :=
  src.entries.filter fun entry => Key.isWithin entry.1 key

/-- The family of a part within a larger family. -/
theorem family_of_within {sub key : Key} (src : KeySource)
    (within : Key.isWithin sub key = true) :
    src.family sub = (src.family key).filter fun entry => Key.isWithin entry.1 sub := by
  rw [family, family, List.filter_filter]
  apply List.filter_congr
  intro entry _
  cases lower : Key.isWithin entry.1 sub with
  | false => rfl
  | true => rw [Key.isWithin_trans lower within]; rfl

/-- A search that looks at nothing but what is kept finds the same in what is kept. -/
theorem filterMap_kept {α : Type} {f : Key × List String → Option α}
    {keep : Key × List String → Bool} (entries : List (Key × List String))
    (inside : ∀ entry a, f entry = some a → keep entry = true) :
    (entries.filter keep).filterMap f = entries.filterMap f := by
  rw [List.filterMap_filter]
  congr 1
  funext entry
  cases found : f entry with
  | none => split <;> rfl
  | some a => rw [if_pos (inside entry a found)]

/-- A search that looks at nothing outside of the family finds the same in the family. -/
theorem filterMap_family {α : Type} {f : Key × List String → Option α} (src : KeySource)
    {key : Key} (inside : ∀ entry a, f entry = some a → Key.isWithin entry.1 key = true) :
    (src.family key).filterMap f = src.entries.filterMap f :=
  filterMap_kept src.entries inside

/-- Leaving out entries of other keys does not change the texts of a key. -/
theorem lookup_kept {keep : Key × List String → Bool} (entries : List (Key × List String))
    {key : Key} (inside : ∀ texts, keep (key, texts) = true) :
    (entries.filter keep).lookup key = entries.lookup key := by
  rw [List.lookup_eq_findSome?, List.lookup_eq_findSome?, ← List.head?_filterMap,
    ← List.head?_filterMap, filterMap_kept]
  intro entry texts found
  split at found
  · rename_i same
    rw [show entry = (key, entry.2) from Prod.ext (eq_of_beq same).symm rfl]
    exact inside entry.2
  · cases found

theorem values_eq_family (src : KeySource) (key : Key) :
    src.values key = ((src.family key).lookup key).getD [] := by
  rw [values, family, lookup_kept]
  exact fun _ => Key.isWithin_self key

theorem hasParts_eq_family (src : KeySource) (key : Key) :
    src.hasParts key = (src.family key).any fun entry => Key.isPartOf entry.1 key := by
  rw [hasParts, family, List.any_filter]
  congr 1
  funext entry
  cases part : Key.isPartOf entry.1 key with
  | false => rw [Bool.and_false]
  | true => rw [Key.isWithin_of_isPartOf part]; rfl

theorem brackets_eq_family (src : KeySource) (key : Key) :
    src.brackets key = (src.family key).filterMap (Bracket.read? key) := by
  rw [brackets, filterMap_family]
  intro entry b read
  exact Key.isWithin_of_isPartOf (Bracket.isPartOf_of_read? read)

/-- A candidate that an entry addresses is one of the candidates. -/
theorem addressed?_eq_some {candidates : List Key} {entry sub : Key}
    (found : addressed? candidates entry = some sub) :
    sub ∈ candidates ∧ Key.isWithin entry sub = true :=
  ⟨List.mem_of_find?_eq_some found, List.find?_some (p := fun c => Key.isWithin entry c) found⟩

theorem partKey?_eq_family (src : KeySource) (key : Key) (part : String) :
    src.partKey? key part = (src.family key).findSome? fun entry =>
      addressed? [key.dotted part.toList, key.bracketed part.toList] entry.1 := by
  rw [partKey?, firstPresent?, ← List.head?_filterMap, ← List.head?_filterMap, filterMap_family]
  intro entry sub found
  obtain ⟨candidate, within⟩ := addressed?_eq_some found
  apply Key.isWithin_of_isPartOf
  apply Key.isPartOf_of_isWithin within
  simp only [List.mem_cons, List.not_mem_nil, or_false] at candidate
  rcases candidate with rfl | rfl
  · exact Key.isPartOf_dotted key _
  · exact Key.isPartOf_bracketed key _

/-- The key of a part of a record is spelled in one of the two ways. -/
theorem exists_spelled_of_partKey? {src : KeySource} {key sub : Key} {part : String}
    (found : src.partKey? key part = some sub) :
    ∃ s : Key.Spelling, sub = key.spelled s part.toList := by
  obtain ⟨entry, _, addressed⟩ := List.exists_of_findSome?_eq_some found
  have candidate := (addressed?_eq_some addressed).1
  simp only [List.mem_cons, List.not_mem_nil, or_false] at candidate
  rcases candidate with rfl | rfl
  · exact ⟨.dotted, rfl⟩
  · exact ⟨.bracketed, rfl⟩

/-- The key under which a part of a record is found is a part of the record's key. -/
theorem isPartOf_of_partKey? {src : KeySource} {key sub : Key} {part : String}
    (found : src.partKey? key part = some sub) : Key.isPartOf sub key = true := by
  obtain ⟨s, rfl⟩ := exists_spelled_of_partKey? found
  exact Key.isPartOf_spelled key s part.toList

/-- No key of a source is longer than the longest one. -/
theorem length_le_longest {src : KeySource} {entry : Key × List String}
    (member : entry ∈ src.entries) : entry.1.length ≤ src.longest := by
  have grows : ∀ (entries : List (Key × List String)) (n : Nat),
      n ≤ entries.foldl (fun n entry => max n entry.1.length) n := by
    intro entries
    induction entries with
    | nil => exact fun n => Nat.le_refl n
    | cons e rest ih => exact fun n => Nat.le_trans (Nat.le_max_left _ _) (ih _)
  have bounds : ∀ (entries : List (Key × List String)) (n : Nat), entry ∈ entries →
      entry.1.length ≤ entries.foldl (fun n entry => max n entry.1.length) n := by
    intro entries
    induction entries with
    | nil => exact fun _ none => nomatch none
    | cons e rest ih =>
      intro n present
      rcases List.mem_cons.mp present with rfl | later
      · exact Nat.le_trans (Nat.le_max_right _ _) (grows rest _)
      · exact ih _ later
  exact bounds src.entries 0 member

/-- A key that has parts is shorter than the longest one. -/
theorem length_lt_longest_of_hasParts {src : KeySource} {key : Key}
    (parts : src.hasParts key = true) : key.length < src.longest := by
  simp only [hasParts, List.any_eq_true] at parts
  obtain ⟨entry, member, part⟩ := parts
  exact Nat.lt_of_lt_of_le (Key.length_lt_of_isPartOf part) (length_le_longest member)

/-! ## Sources that agree on a family -/

/-- Two sources hold the same at a key and below it, and the same files, cookies and limit. -/
structure AgreeOn (key : Key) (src src' : KeySource) : Prop where
  family : src.family key = src'.family key
  files : src.files = src'.files
  cookies : src.cookies = src'.cookies
  maxIndex : src.maxIndex = src'.maxIndex

namespace AgreeOn

variable {key sub : Key} {src src' : KeySource}

theorem refl (key : Key) (src : KeySource) : AgreeOn key src src :=
  ⟨rfl, rfl, rfl, rfl⟩

/-- Sources that agree on a key agree on all its parts. -/
theorem mono (agree : AgreeOn key src src') (within : Key.isWithin sub key = true) :
    AgreeOn sub src src' where
  family := by rw [family_of_within src within, family_of_within src' within, agree.family]
  files := agree.files
  cookies := agree.cookies
  maxIndex := agree.maxIndex

theorem values (agree : AgreeOn key src src') : src.values key = src'.values key := by
  rw [values_eq_family, values_eq_family, agree.family]

theorem hasParts (agree : AgreeOn key src src') : src.hasParts key = src'.hasParts key := by
  rw [hasParts_eq_family, hasParts_eq_family, agree.family]

theorem brackets (agree : AgreeOn key src src') : src.brackets key = src'.brackets key := by
  rw [brackets_eq_family, brackets_eq_family, agree.family]

theorem partKey? (agree : AgreeOn key src src') (part : String) :
    src.partKey? key part = src'.partKey? key part := by
  rw [partKey?_eq_family, partKey?_eq_family, agree.family]

end AgreeOn

end KeySource

end RequestBinding
