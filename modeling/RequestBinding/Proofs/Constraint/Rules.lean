import RequestBinding.Constraint.Validator

/-!
# What the rules say about single values

Each of the four rules of a validator is for some views only and is silent about all others.
`Validator.Obeys` says what they demand of a view, and `Validator.Breaks` says which rule a view
breaks and how that is reported. A sequence has nothing that the range, the length and the pattern
could look at; it is zero when it is empty.

* `Validator.report_eq_some_iff`: a rule reports a view exactly when the view breaks it.
* `Validator.checkSingle_eq_none_iff`: a view passes exactly when it obeys all rules.
* `Validator.checkSingle_eq_some_iff`: otherwise the first rule that it breaks is reported.
-/

namespace RequestBinding

/-- The number lies within the bounds. -/
def Bounds.Contains (bounds : Bounds Nat) (n : Nat) : Prop :=
  (∀ least ∈ bounds.least, least ≤ n) ∧ ∀ most ∈ bounds.most, n ≤ most

/-- The number is defined and lies within the bounds, or outside by no more than the accuracy. -/
def Bounds.Tolerates (bounds : Bounds Float) (x : Float) : Prop :=
  x.isNaN = false ∧
    (∀ least ∈ bounds.least, ¬ (x < least ∧ least - x > Validator.accuracy)) ∧
    ∀ most ∈ bounds.most, ¬ (x > most ∧ x - most > Validator.accuracy)

namespace Validator

/-- A rule of a validator. -/
inductive Rule where
  | range
  | nonzero
  | length
  | pattern
  deriving DecidableEq, Repr

/-- The rules in the order in which they are looked at. -/
def Rule.order : List Rule :=
  [.range, .nonzero, .length, .pattern]

/-- The view breaks a rule that the validator has: how, and with which details it is reported. What
lies outside on both sides of bounds counts as lying below. -/
inductive Breaks (v : Validator) : Rule → View → ViolationKind → String → Prop
  | undefined {bounds : Bounds Float} {x : Float} (declared : v.range = some bounds)
    (undefined : x.isNaN = true) :
    Breaks v .range (.number x) .tooSmall ("not a number: " ++ floatText x)
  | below {bounds : Bounds Float} {x least : Float} (declared : v.range = some bounds)
    (defined : x.isNaN = false) (bounded : bounds.least = some least) (less : x < least)
    (far : least - x > accuracy) :
    Breaks v .range (.number x) .tooSmall
      ("smaller than " ++ floatText least ++ ": " ++ floatText x)
  | above {bounds : Bounds Float} {x most : Float} (declared : v.range = some bounds)
    (defined : x.isNaN = false)
    (notBelow : ∀ least ∈ bounds.least, ¬ (x < least ∧ least - x > accuracy))
    (bounded : bounds.most = some most) (greater : x > most) (far : x - most > accuracy) :
    Breaks v .range (.number x) .tooBig ("bigger than " ++ floatText most ++ ": " ++ floatText x)
  | zero {view : View} (declared : v.nonzero = true) (zero : view.isZero = true) :
    Breaks v .nonzero view .notSet "not set"
  | short {bounds : Bounds Nat} {view : View} {n least : Nat} (declared : v.length = some bounds)
    (measured : lengthOf? view = some n) (bounded : bounds.least = some least) (less : n < least) :
    Breaks v .length view .tooShort ("shorter than " ++ toString least ++ ": " ++ view.display)
  | long {bounds : Bounds Nat} {view : View} {n most : Nat} (declared : v.length = some bounds)
    (measured : lengthOf? view = some n) (notShort : ∀ least ∈ bounds.least, least ≤ n)
    (bounded : bounds.most = some most) (greater : most < n) :
    Breaks v .length view .tooLong ("longer than " ++ toString most ++ ": " ++ view.display)
  | mismatch {pattern : FullMatch} {s : String} (declared : v.pattern = some pattern)
    (refused : pattern.accepts s = false) :
    Breaks v .pattern (.text s) .notMatching ("not match " ++ pattern.source ++ ": " ++ s)

/-- The view keeps every rule of the validator that is for views of its sort. -/
structure Obeys (v : Validator) (view : View) : Prop where
  range : ∀ bounds ∈ v.range, ∀ x, view = .number x → bounds.Tolerates x
  nonzero : v.nonzero = true → view.isZero = false
  length : ∀ bounds ∈ v.length, ∀ n, lengthOf? view = some n → bounds.Contains n
  pattern : ∀ pattern ∈ v.pattern, ∀ s, view = .text s → pattern.accepts s = true

/-- What a rule says about a view. -/
def report (v : Validator) (view : View) : Rule → Option (ViolationKind × String)
  | .range => v.range.bind (checkRange · view)
  | .nonzero => if v.nonzero then checkNonzero view else none
  | .length => v.length.bind (checkLength · view)
  | .pattern => v.pattern.bind (checkPattern · view)

variable {v : Validator} {view : View} {rule : Rule} {kind : ViolationKind} {detail : String}

/-! ## Rule by rule -/

theorem report_range_iff :
    v.report view .range = some (kind, detail) ↔ v.Breaks .range view kind detail := by
  constructor
  · intro reported
    obtain ⟨bounds, declared, said⟩ := Option.bind_eq_some_iff.mp reported
    cases view with
    | number x =>
      simp only [checkRange] at said
      split at said
      · rename_i undefined
        cases said
        exact .undefined declared undefined
      rename_i defined
      rw [Bool.not_eq_true] at defined
      split at said
      · rename_i least low
        obtain ⟨bounded, outside⟩ := Option.filter_eq_some_iff.mp low
        simp only [Bool.and_eq_true, decide_eq_true_eq] at outside
        cases said
        exact .below declared defined bounded outside.1 outside.2
      rename_i notBelow
      split at said
      · rename_i most high
        obtain ⟨bounded, outside⟩ := Option.filter_eq_some_iff.mp high
        simp only [Bool.and_eq_true, decide_eq_true_eq] at outside
        cases said
        refine .above declared defined ?_ bounded outside.1 outside.2
        intro least present below
        exact notBelow least (Option.filter_eq_some_iff.mpr ⟨present, by simp [below]⟩)
      · cases said
    | _ => cases said
  · intro broken
    cases broken with
    | undefined declared undefined =>
      rw [report, declared]
      exact if_pos undefined
    | @below bounds x least declared defined bounded less far =>
      have low : bounds.least.filter (fun a => decide (x < a) && decide (a - x > accuracy)) =
          some least := Option.filter_eq_some_iff.mpr ⟨bounded, by simp [less, far]⟩
      simp only [report, declared, Option.bind_some, checkRange, defined, low,
        Bool.false_eq_true, if_false]
    | @above bounds x most declared defined notBelow bounded greater far =>
      have quiet : bounds.least.filter (fun a => decide (x < a) && decide (a - x > accuracy)) =
          none := by
        rw [Option.filter_eq_none_iff]
        intro least present
        simpa using notBelow least present
      have high : bounds.most.filter (fun b => decide (x > b) && decide (x - b > accuracy)) =
          some most := Option.filter_eq_some_iff.mpr ⟨bounded, by simp [greater, far]⟩
      simp only [report, declared, Option.bind_some, checkRange, defined, quiet, high,
        Bool.false_eq_true, if_false]

theorem report_nonzero_iff :
    v.report view .nonzero = some (kind, detail) ↔ v.Breaks .nonzero view kind detail := by
  constructor
  · intro reported
    rw [report] at reported
    split at reported
    · rename_i declared
      unfold checkNonzero at reported
      split at reported
      · rename_i zero
        cases reported
        exact .zero declared zero
      · cases reported
    · cases reported
  · intro broken
    cases broken with
    | zero declared zero => rw [report, if_pos declared, checkNonzero, if_pos zero]

theorem report_length_iff :
    v.report view .length = some (kind, detail) ↔ v.Breaks .length view kind detail := by
  constructor
  · intro reported
    obtain ⟨bounds, declared, said⟩ := Option.bind_eq_some_iff.mp reported
    unfold checkLength at said
    split at said
    · cases said
    rename_i n measured
    split at said
    · rename_i least low
      obtain ⟨bounded, less⟩ := Option.filter_eq_some_iff.mp low
      cases said
      exact .short declared measured bounded (of_decide_eq_true less)
    rename_i notShort
    split at said
    · rename_i most high
      obtain ⟨bounded, greater⟩ := Option.filter_eq_some_iff.mp high
      cases said
      refine .long declared measured ?_ bounded (of_decide_eq_true greater)
      intro least present
      refine Nat.le_of_not_lt fun below => ?_
      exact notShort least (Option.filter_eq_some_iff.mpr ⟨present, decide_eq_true below⟩)
    · cases said
  · intro broken
    cases broken with
    | @short bounds _ n least declared measured bounded less =>
      have low : bounds.least.filter (fun least => decide (n < least)) = some least :=
        Option.filter_eq_some_iff.mpr ⟨bounded, decide_eq_true less⟩
      simp [report, declared, checkLength, measured, low]
    | @long bounds _ n most declared measured notShort bounded greater =>
      have quiet : bounds.least.filter (fun least => decide (n < least)) = none := by
        rw [Option.filter_eq_none_iff]
        intro least present
        simpa using notShort least present
      have high : bounds.most.filter (fun most => decide (n > most)) = some most :=
        Option.filter_eq_some_iff.mpr ⟨bounded, decide_eq_true greater⟩
      simp [report, declared, checkLength, measured, quiet, high]

theorem report_pattern_iff :
    v.report view .pattern = some (kind, detail) ↔ v.Breaks .pattern view kind detail := by
  constructor
  · intro reported
    obtain ⟨pattern, declared, said⟩ := Option.bind_eq_some_iff.mp reported
    cases view with
    | text s =>
      simp only [checkPattern] at said
      split at said
      · cases said
      · rename_i refused
        cases said
        exact .mismatch declared (Bool.not_eq_true _ ▸ refused)
    | _ => cases said
  · intro broken
    cases broken with
    | mismatch declared refused => simp [report, declared, checkPattern, refused]

/-- A rule reports a view exactly when the view breaks it. -/
theorem report_eq_some_iff :
    v.report view rule = some (kind, detail) ↔ v.Breaks rule view kind detail := by
  cases rule with
  | range => exact report_range_iff
  | nonzero => exact report_nonzero_iff
  | length => exact report_length_iff
  | pattern => exact report_pattern_iff

/-! ## All rules -/

/-- A view that breaks no rule obeys them all. -/
theorem obeys_iff : v.Obeys view ↔ ∀ rule kind detail, ¬ v.Breaks rule view kind detail := by
  constructor
  · intro obeys rule kind detail broken
    cases broken with
    | undefined declared undefined =>
      have tolerated := obeys.range _ declared _ rfl
      exact absurd (undefined.symm.trans tolerated.1) Bool.true_eq_false.mp
    | below declared defined bounded less far =>
      exact (obeys.range _ declared _ rfl).2.1 _ bounded ⟨less, far⟩
    | above declared defined notBelow bounded greater far =>
      exact (obeys.range _ declared _ rfl).2.2 _ bounded ⟨greater, far⟩
    | zero declared zero =>
      exact absurd (zero.symm.trans (obeys.nonzero declared)) Bool.true_eq_false.mp
    | short declared measured bounded less =>
      exact absurd ((obeys.length _ declared _ measured).1 _ bounded) (Nat.not_le_of_lt less)
    | long declared measured notShort bounded greater =>
      exact absurd ((obeys.length _ declared _ measured).2 _ bounded) (Nat.not_le_of_lt greater)
    | mismatch declared refused =>
      exact absurd (refused.symm.trans (obeys.pattern _ declared _ rfl)) Bool.false_ne_true
  · intro unbroken
    refine ⟨?_, ?_, ?_, ?_⟩
    · rintro bounds declared x rfl
      have defined : x.isNaN = false :=
        Bool.eq_false_iff.mpr fun undefined => unbroken _ _ _ (.undefined declared undefined)
      have notBelow : ∀ least ∈ bounds.least, ¬ (x < least ∧ least - x > accuracy) :=
        fun least bounded out => unbroken _ _ _ (.below declared defined bounded out.1 out.2)
      refine ⟨defined, notBelow, fun most bounded out => ?_⟩
      exact unbroken _ _ _ (.above declared defined notBelow bounded out.1 out.2)
    · intro declared
      exact Bool.eq_false_iff.mpr fun zero => unbroken _ _ _ (.zero declared zero)
    · intro bounds declared n measured
      have notShort : ∀ least ∈ bounds.least, least ≤ n := fun least bounded =>
        Nat.le_of_not_lt fun less => unbroken _ _ _ (.short declared measured bounded less)
      refine ⟨notShort, fun most bounded => Nat.le_of_not_lt fun greater => ?_⟩
      exact unbroken _ _ _ (.long declared measured notShort bounded greater)
    · rintro pattern declared s rfl
      refine Bool.not_eq_false _ ▸ fun refused => ?_
      exact unbroken _ _ _ (.mismatch declared refused)

/-- The first rule that the view breaks, and how it does. -/
def BreaksFirst (v : Validator) (view : View) (kind : ViolationKind) (detail : String) : Prop :=
  ∃ before rule after, Rule.order = before ++ rule :: after ∧ v.Breaks rule view kind detail ∧
    ∀ earlier ∈ before, ∀ kind detail, ¬ v.Breaks earlier view kind detail

theorem report_eq_none_iff :
    v.report view rule = none ↔ ∀ kind detail, ¬ v.Breaks rule view kind detail := by
  simp only [← report_eq_some_iff, Option.eq_none_iff_forall_ne_some, Prod.forall, ne_eq]

theorem checkSingle_eq_findSome? : v.checkSingle view = Rule.order.findSome? (v.report view) := by
  simp only [Rule.order, List.findSome?_cons, List.findSome?_nil]
  show (v.report view .range).or ((v.report view .nonzero).or
    ((v.report view .length).or (v.report view .pattern))) = _
  cases v.report view .range <;> cases v.report view .nonzero <;> cases v.report view .length <;>
    cases v.report view .pattern <;> rfl

/-- Of the rules that a view breaks the first is reported. -/
theorem checkSingle_eq_some_iff :
    v.checkSingle view = some (kind, detail) ↔ v.BreaksFirst view kind detail := by
  rw [checkSingle_eq_findSome?, List.findSome?_eq_some_iff]
  simp only [report_eq_some_iff, report_eq_none_iff]
  exact Iff.rfl

/-- A view passes exactly when it obeys all rules. -/
theorem checkSingle_eq_none_iff : v.checkSingle view = none ↔ v.Obeys view := by
  rw [checkSingle_eq_findSome?, List.findSome?_eq_none_iff, obeys_iff]
  simp only [report_eq_none_iff]
  refine ⟨fun quiet rule => quiet rule ?_, fun unbroken rule _ => unbroken rule⟩
  cases rule <;> decide

end Validator

end RequestBinding
