import RequestBinding.Tag

/-!
# What a tag map says

Entering a value under a key changes what is found under that key alone (`TagMap.get?_insert`), so
of several values that are entered under one key the last counts (`TagMap.get?_insertAll`).
-/

namespace RequestBinding.TagMap

theorem lookup_put (key other value : String) (entries : List (String × String)) :
    (put other value entries).lookup key =
      if key == other then some value else entries.lookup key := by
  induction entries with
  | nil =>
    rw [put, List.lookup_cons]
    cases key == other <;> rfl
  | cons entry rest ih =>
    obtain ⟨k, v⟩ := entry
    rw [put]
    by_cases replaced : (k == other) = true
    · obtain rfl := beq_iff_eq.mp replaced
      rw [if_pos replaced, List.lookup_cons, List.lookup_cons]
      cases key == k <;> rfl
    · rw [if_neg replaced, List.lookup_cons, List.lookup_cons, ih]
      cases own : key == k with
      | false => rfl
      | true =>
        obtain rfl := beq_iff_eq.mp own
        exact (if_neg replaced).symm

/-- Entering a value under a key changes what is found under that key alone. -/
theorem get?_insert (tags : TagMap) (key other value : String) :
    (tags.insert other value).get? key = if key == other then some value else tags.get? key :=
  lookup_put key other value tags.entries

theorem contains_of_get? {tags : TagMap} {key value : String} (found : tags.get? key = some value) :
    tags.contains key = true := by
  rw [contains, found, Option.isSome_some]

theorem contains_insert_self (tags : TagMap) (key value : String) :
    (tags.insert key value).contains key = true := by
  rw [contains, get?_insert, if_pos BEq.rfl, Option.isSome_some]

theorem contains_insert {tags : TagMap} {key other value : String}
    (occurs : tags.contains key = true) : (tags.insert other value).contains key = true := by
  rw [contains, get?_insert]
  split
  · rfl
  · exact occurs

/-- Enters values under keys, one after the other. -/
def insertAll (tags : TagMap) (pairs : List (String × String)) : TagMap :=
  pairs.foldl (fun tags pair => tags.insert pair.1 pair.2) tags

/-- Of the values that are entered under a key the last is found. -/
theorem get?_insertAll (tags : TagMap) (pairs : List (String × String)) (key : String) :
    (tags.insertAll pairs).get? key =
      ((pairs.filter (·.1 == key)).getLast?.map (·.2)).or (tags.get? key) := by
  induction pairs generalizing tags with
  | nil => rfl
  | cons pair rest ih =>
    rw [insertAll, List.foldl_cons, ← insertAll, ih, get?_insert, List.filter_cons]
    by_cases own : pair.1 = key
    · rw [if_pos (beq_iff_eq.mpr own), if_pos (beq_iff_eq.mpr own.symm), List.getLast?_cons]
      cases (rest.filter (·.1 == key)).getLast? <;> rfl
    · rw [if_neg (mt beq_iff_eq.mp own), if_neg (mt beq_iff_eq.mp (Ne.symm own))]

end RequestBinding.TagMap
