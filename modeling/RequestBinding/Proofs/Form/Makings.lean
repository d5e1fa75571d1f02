import RequestBinding.Proofs.Form.Pairs

/-!
# Forms however they are made

A form comes about by adding values one by one, from pairs, and by taking over the values of other
forms, in any order and any number of times (`FormValues.Making`). Whatever the way, it is the form
of the pairs that it has been given (`FormValues.Making.form_eq`), where another form counts as its
entries in order, value by value. So it groups these pairs by key, and its index tells the places of
its keys and nothing else (`FormValues.groups_ofPairs`).

Taking over another form regroups its pairs, which no form can tell from the pairs themselves
(`FormValues.ofPairs_append_pairs`). With that taking over is associative
(`FormValues.Making.groups_given`).
-/

namespace RequestBinding

/-- Different keys in place of keys that repeat make no difference further on. -/
theorem eraseDups_append_eraseDups (front keys : List String) :
    (front ++ keys.eraseDups).eraseDups = (front ++ keys).eraseDups := by
  induction keys using List.reverseRecOn with
  | nil => rfl
  | append_singleton others key ih =>
    rw [eraseDups_concat, ← List.append_assoc, eraseDups_concat]
    split
    · rename_i old
      have known : key ∈ (front ++ others).eraseDups :=
        List.mem_eraseDups.mpr (List.mem_append_right _ (List.mem_eraseDups.mp old))
      rw [if_pos known, ih]
    · rw [← List.append_assoc, eraseDups_concat, ih]

namespace FormValues

/-! ## The index of a form of pairs -/

/-- The index of keys that stand one behind the other. -/
def indexOf (keys : List String) : Std.TreeMap String Nat :=
  keys.zipIdx.foldl (fun index entry => index.insert entry.1 entry.2) {}

theorem indexOf_concat (keys : List String) (key : String) :
    indexOf (keys ++ [key]) = (indexOf keys).insert key keys.length := by
  rw [indexOf, List.zipIdx_append, List.foldl_append, Nat.zero_add]
  rfl

/-- One more value leaves the index that of the keys. -/
theorem Indexed.index_append {form : FormValues} (indexed : Indexed form)
    (own : form.index = indexOf form.keys) (key value : String) :
    (form.append key value).index = indexOf (form.append key value).keys := by
  rw [indexed.keys_append]
  split
  · rename_i old
    obtain ⟨place, known⟩ := (indexed.mem_keys_iff key).mp old
    rw [FormValues.append, known]
    exact own
  · rename_i fresh
    have unknown : form.index[key]? = none := by
      cases known : form.index[key]? with
      | none => rfl
      | some place => exact absurd ((indexed.mem_keys_iff key).mpr ⟨place, known⟩) fresh
    have size : form.keys.length = form.entries.size := by simp [keys]
    rw [indexOf_concat, ← own, size, FormValues.append, unknown]

/-- The index of a form of pairs is that of its keys. -/
theorem index_ofPairs (pairs : List (String × String)) :
    (ofPairs pairs).index = indexOf (ofPairs pairs).keys := by
  induction pairs using List.reverseRecOn with
  | nil => rfl
  | append_singleton others pair ih =>
    have added : ofPairs (others ++ [pair]) = (ofPairs others).append pair.1 pair.2 :=
      (ofPairs_appendAll others [pair]).symm
    rw [added]
    exact (wellFormed_ofPairs others).indexed.index_append ih pair.1 pair.2

/-- Pairs with the same keys and the same values under each key make the same form. -/
theorem ofPairs_congr {pairs others : List (String × String)}
    (keys : (pairs.map (·.1)).eraseDups = (others.map (·.1)).eraseDups)
    (values : ∀ key, valuesUnder pairs key = valuesUnder others key) :
    ofPairs pairs = ofPairs others := by
  have named : (ofPairs pairs).keys = (ofPairs others).keys := by
    rw [keys_ofPairs, keys_ofPairs, keys]
  have entries : (ofPairs pairs).entries = (ofPairs others).entries := by
    apply toList_injective
    rw [(wellFormed_ofPairs pairs).toList_eq, (wellFormed_ofPairs others).toList_eq, named]
    apply List.map_congr_left
    intro key _
    rw [valuesAt_ofPairs, valuesAt_ofPairs, values]
  have index : (ofPairs pairs).index = (ofPairs others).index := by
    rw [index_ofPairs, index_ofPairs, named]
  calc ofPairs pairs = ⟨(ofPairs pairs).entries, (ofPairs pairs).index⟩ := rfl
    _ = ⟨(ofPairs others).entries, (ofPairs others).index⟩ := by rw [entries, index]
    _ = ofPairs others := rfl

/-- Pairs that have been regrouped by a form make the same as before, behind whatever else. -/
theorem ofPairs_append_pairs (front pairs : List (String × String)) :
    ofPairs (front ++ (ofPairs pairs).pairs) = ofPairs (front ++ pairs) := by
  have wellFormed := wellFormed_ofPairs pairs
  apply ofPairs_congr
  · have regrouped := wellFormed.eraseDups_pairs (front.map (·.1)) []
    rw [List.append_nil, List.append_nil] at regrouped
    rw [List.map_append, regrouped, keys_ofPairs, eraseDups_append_eraseDups, List.map_append]
  · intro key
    rw [valuesUnder_append, valuesUnder_append, wellFormed.valuesUnder_pairs, valuesAt_ofPairs]

/-! ## What a form says about its pairs -/

/-- The form groups the pairs by key. Its keys are the different keys of the pairs, each where it
comes first, and under a key it has the values that come with the key, in order; the index tells the
place of every key and of nothing else. -/
structure Groups (form : FormValues) (pairs : List (String × String)) : Prop where
  distinct : form.keys.Nodup
  valued : ∀ e ∈ form.entries, e.values ≠ #[]
  indexed : Indexed form
  get : ∀ key, form.get? key =
    if key ∈ pairs.map (·.1) then some (valuesUnder pairs key) else none
  first : ∀ key, form.first? key = (valuesUnder pairs key).head?
  keys : form.keys = (pairs.map (·.1)).eraseDups

theorem valuesUnder_eq_nil_iff {pairs : List (String × String)} {key : String} :
    valuesUnder pairs key = [] ↔ key ∉ pairs.map (·.1) := by
  rw [valuesUnder, List.map_eq_nil_iff, List.filter_eq_nil_iff, List.mem_map]
  constructor
  · rintro none ⟨pair, member, same⟩
    exact none pair member (beq_iff_eq.mpr same)
  · intro none pair member same
    exact none ⟨pair, member, beq_iff_eq.mp same⟩

theorem get?_ofPairs (pairs : List (String × String)) (key : String) :
    (ofPairs pairs).get? key =
      if key ∈ pairs.map (·.1) then some (valuesUnder pairs key) else none := by
  rw [(wellFormed_ofPairs pairs).get?_eq, valuesAt_ofPairs]
  by_cases member : key ∈ pairs.map (·.1)
  · rw [if_pos member, if_neg]
    rw [List.isEmpty_iff, valuesUnder_eq_nil_iff]
    exact not_not_intro member
  · rw [if_neg member, if_pos]
    rw [List.isEmpty_iff, valuesUnder_eq_nil_iff]
    exact member

theorem groups_ofPairs (pairs : List (String × String)) : (ofPairs pairs).Groups pairs where
  distinct := (wellFormed_ofPairs pairs).indexed.nodup_keys
  valued := by
    intro e member empty
    have wellFormed := wellFormed_ofPairs pairs
    have listed : (e.key, e.values.toList) ∈ (ofPairs pairs).toList :=
      List.mem_map.mpr ⟨e, Array.mem_toList_iff.mpr member, rfl⟩
    refine wellFormed.valued e.key ?_ ?_
    · rw [keys_eq]
      exact List.mem_map.mpr ⟨_, listed, rfl⟩
    · rw [wellFormed.valuesAt_of_mem listed, empty]
  indexed := (wellFormed_ofPairs pairs).indexed
  get := get?_ofPairs pairs
  first key := by
    rw [first?, get?_ofPairs]
    split
    · rfl
    · rename_i missing
      rw [valuesUnder_eq_nil_iff.mpr missing]
      rfl
  keys := keys_ofPairs pairs

/-! ## Ways to make a form -/

/-- A way to make a form. -/
inductive Making where
  /-- Nothing has been added. -/
  | empty
  /-- One more value is added under a key. -/
  | append (before : Making) (key value : String)
  /-- All values of another form are added. -/
  | extend (before other : Making)
  /-- The form is collected from pairs. -/
  | collect (pairs : List (String × String))

namespace Making

/-- The form that is made. -/
def form : Making → FormValues
  | empty => .empty
  | append before key value => before.form.append key value
  | extend before other => before.form.extend other.form
  | collect pairs => .ofPairs pairs

/-- The pairs that are given, one after the other. Another form gives its entries in order, value by
value. -/
def given : Making → List (String × String)
  | empty => []
  | append before key value => before.given ++ [(key, value)]
  | extend before other => before.given ++ other.form.pairs
  | collect pairs => pairs

/-- Whatever the way, the form is that of the pairs that have been given. -/
theorem form_eq (making : Making) : making.form = ofPairs making.given := by
  induction making with
  | empty => rfl
  | append before key value ih =>
    rw [form, ih]
    exact ofPairs_appendAll before.given [(key, value)]
  | extend before other ih _ =>
    rw [form, ih]
    exact ofPairs_appendAll before.given other.form.pairs
  | collect pairs => rfl

theorem ofPairs_pairs_form (making : Making) : ofPairs making.form.pairs = making.form := by
  rw [making.form_eq]
  exact ofPairs_append_pairs [] making.given

theorem extend_assoc (making middle last : Making) :
    (making.form.extend middle.form).extend last.form =
      making.form.extend (middle.form.extend last.form) := by
  have joined : middle.form.extend last.form = ofPairs (middle.form.pairs ++ last.form.pairs) :=
    calc middle.form.extend last.form
        = (ofPairs middle.form.pairs).appendAll last.form.pairs := by
          rw [middle.ofPairs_pairs_form]
          rfl
      _ = ofPairs (middle.form.pairs ++ last.form.pairs) := ofPairs_appendAll _ _
  rw [making.form_eq, joined]
  simp only [FormValues.extend, ofPairs_appendAll, ofPairs_append_pairs, List.append_assoc]

theorem wellFormed (making : Making) : making.form.WellFormed := by
  rw [making.form_eq]
  exact wellFormed_ofPairs making.given

/-- What has been taken over stands behind what was there. -/
theorem get?_extend (making other : Making) (key : String) :
    (making.form.extend other.form).get? key =
      Option.merge (· ++ ·) (making.form.get? key) (other.form.get? key) := by
  have values : (making.form.extend other.form).valuesAt key =
      making.form.valuesAt key ++ other.form.valuesAt key := by
    rw [FormValues.extend, making.wellFormed.indexed.valuesAt_appendAll,
      other.wellFormed.valuesUnder_pairs]
  have extended : (making.form.extend other.form).WellFormed := (making.extend other).wellFormed
  rw [extended.get?_eq, making.wellFormed.get?_eq, other.wellFormed.get?_eq, values]
  cases making.form.valuesAt key <;> cases other.form.valuesAt key <;> simp [Option.merge]

/-- A form groups what it has been given, in whatever way it was made, and taking over forms is
associative, with the empty form on either side for nothing: under each key stand the values of the
one form and then those of the other. -/
theorem groups_given (making : Making) :
    making.form.Groups making.given ∧
      (∀ middle last : Making, (making.form.extend middle.form).extend last.form =
        making.form.extend (middle.form.extend last.form)) ∧
      FormValues.empty.extend making.form = making.form ∧
      making.form.extend .empty = making.form ∧
      ∀ (other : Making) (key : String), (making.form.extend other.form).get? key =
        Option.merge (· ++ ·) (making.form.get? key) (other.form.get? key) := by
  refine ⟨?_, making.extend_assoc, making.ofPairs_pairs_form, rfl, making.get?_extend⟩
  rw [making.form_eq]
  exact groups_ofPairs making.given

end Making

end FormValues

end RequestBinding
