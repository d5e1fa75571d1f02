/-!
# Cutting texts

The part before and after the first separator, and what follows a given beginning. Both work on
lists of any kind, since keys are cut as characters and form bodies as bytes.
-/

namespace RequestBinding.Text

variable {α : Type} [BEq α]

/-- The part before the first `sep` and the part after it; `none` when there is no `sep`. -/
def cutAt (sep : α) (text : List α) : Option (List α × List α) :=
  match text.dropWhile (· != sep) with
  | [] => none
  | _ :: after => some (text.takeWhile (· != sep), after)

/-- What follows `lead` in a text that starts with it. -/
def dropLead? : (lead text : List α) → Option (List α)
  | [], text => some text
  | a :: lead, b :: text => if a == b then dropLead? lead text else none
  | _ :: _, [] => none

end RequestBinding.Text
