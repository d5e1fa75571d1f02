import Mathlib.Data.List.Forall2
import RequestBinding.Proofs.Outcome
import RequestBinding.Source.Bracket

/-!
# Sources that differ in their values only

Two sources are alike when nothing but the raw texts, the contents of files and the values of
cookies differ: they have the same keys in the same order, with the same numbers of values, and the
same names of files and cookies. A source without its values (`KeySource.blank`) is what alike
sources have in common. What a search asks about keys it can ask of the blank source: which keys
have parts, which of two spellings comes first, which brackets follow a key, how many values there
are.
-/

namespace RequestBinding

/-! ## Presence and number -/

/-- Two optional values of which both are there or neither. -/
theorem rel_of_isSome_eq {α β : Type} {a : Option α} {b : Option β}
    (presence : a.isSome = b.isSome) : Option.Rel (fun _ _ => True) a b := by
  cases a with
  | none =>
    cases b with
    | none => exact .none
    | some _ => cases presence
  | some _ =>
    cases b with
    | none => cases presence
    | some _ => exact .some trivial

/-- Two lists of one length, item beside item. -/
theorem forall₂_of_length_eq {α β : Type} {l : List α} {m : List β}
    (counted : l.length = m.length) : List.Forall₂ (fun _ _ => True) l m :=
  List.forall₂_iff_get.mpr ⟨counted, fun _ _ _ => trivial⟩

/-! ## Forms -/

/-- The texts without what they say. -/
def blankTexts (texts : List String) : List String :=
  texts.map fun _ => ""

/-- The pairs without their values. -/
def blankPairs (pairs : List (String × String)) : List (String × String) :=
  pairs.map fun pair => (pair.1, "")

namespace FormValues

/-- The form without its values. -/
def blank (form : FormValues) : FormValues :=
  { form with entries := form.entries.map fun e => ⟨e.key, e.values.map fun _ => ""⟩ }

/-- The forms have the same keys in the same order, each with the same number of values. -/
def Alike (form other : FormValues) : Prop :=
  form.blank.toList = other.blank.toList

instance (form other : FormValues) : Decidable (form.Alike other) :=
  inferInstanceAs (Decidable (_ = _))

theorem Alike.size_eq {form other : FormValues} (alike : form.Alike other) :
    form.size = other.size := by
  have lengths := congrArg List.length alike
  simpa [toList, blank, size] using lengths

theorem blank_append (form : FormValues) (key value : String) :
    (form.append key value).blank = form.blank.append key "" := by
  unfold append blank
  cases form.index[key]? with
  | none => simp
  | some place =>
    simp only [mk.injEq, and_true]
    apply Array.ext
    · simp
    · intro i _ _
      simp only [Array.getElem_map, Array.getElem_modify]
      split
      · simp [FormEntry.push]
      · rfl

theorem blank_ofPairs (pairs : List (String × String)) :
    (ofPairs pairs).blank = ofPairs (blankPairs pairs) := by
  have added : ∀ form : FormValues,
      (form.appendAll pairs).blank = form.blank.appendAll (blankPairs pairs) := by
    induction pairs with
    | nil => exact fun _ => rfl
    | cons pair rest ih =>
      intro form
      show ((form.append pair.1 pair.2).appendAll rest).blank = _
      rw [ih, blank_append]
      rfl
  have nothing : empty.blank = empty := by simp [empty, blank]
  rw [ofPairs, added, nothing]
  rfl

end FormValues

/-! ## Brackets -/

namespace Bracket

/-- The bracket without the texts that come with it. -/
def blank : Bracket → Bracket
  | unindexed values => unindexed (blankTexts values)
  | index n digits part => index n digits part
  | named name part => named name part

theorem read?_blank (key : Key) (entry : Key × List String) :
    read? key (entry.1, blankTexts entry.2) = (read? key entry).map blank := by
  unfold read?
  cases Text.dropLead? (key ++ ['[']) entry.1 with
  | none => rfl
  | some rest =>
    simp only
    rcases Text.cutAt ']' rest with _ | ⟨_ | ⟨c, inner⟩, after⟩
    · rfl
    · simp only
      split <;> rfl
    · simp only
      split <;> rfl

@[simp] theorem index?_blank (b : Bracket) : b.blank.index? = b.index? := by
  cases b <;> rfl

@[simp] theorem mapKey?_blank (b : Bracket) : b.blank.mapKey? = b.mapKey? := by
  cases b <;> rfl

@[simp] theorem appended_blank (b : Bracket) : b.blank.appended = blankTexts b.appended := by
  cases b <;> rfl

end Bracket

/-! ## Sources -/

/-- The source without its values. -/
def KeySource.blank (src : KeySource) : KeySource :=
  { src with
    entries := src.entries.map fun entry => (entry.1, blankTexts entry.2)
    files := src.files.map fun f => { field := f.field }
    cookies := src.cookies.map fun c => { name := c.name } }

namespace KeySource

/-- The sources differ in their values only. -/
def Alike (src other : KeySource) : Prop :=
  src.blank = other.blank

theorem blank_ofForm (form : FormValues) (maxIndex : Nat) :
    (ofForm form maxIndex).blank = ofForm form.blank maxIndex := by
  simp [blank, ofForm, FormValues.blank, FormValues.toList, blankTexts]

theorem alike_ofForm {form other : FormValues} (alike : form.Alike other) (maxIndex : Nat) :
    (ofForm form maxIndex).Alike (ofForm other maxIndex) := by
  unfold Alike
  rw [blank_ofForm, blank_ofForm, ofForm, ofForm, alike]

theorem alike_ofPairs {pairs others : List (String × String)}
    (names : pairs.map (·.1) = others.map (·.1)) (maxIndex : Nat) :
    (ofPairs pairs maxIndex).Alike (ofPairs others maxIndex) := by
  have blanks : blankPairs pairs = blankPairs others := by
    have paired := congrArg (List.map fun name => (name, "")) names
    rwa [List.map_map, List.map_map] at paired
  apply alike_ofForm
  rw [FormValues.Alike, FormValues.blank_ofPairs, FormValues.blank_ofPairs, blanks]

theorem Alike.with_files {src other : KeySource} (alike : src.Alike other)
    {files files' : List UploadedFile} (names : files.map (·.field) = files'.map (·.field)) :
    { src with files }.Alike { other with files := files' } := by
  have blanks := congrArg (List.map fun field : String => ({ field } : UploadedFile)) names
  rw [List.map_map, List.map_map] at blanks
  obtain ⟨entries, _, cookies, maxIndex⟩ := KeySource.mk.inj alike
  simp only [Alike, blank, mk.injEq]
  exact ⟨entries, blanks, cookies, maxIndex⟩

theorem Alike.with_cookies {src other : KeySource} (alike : src.Alike other)
    {cookies cookies' : List Cookie} (names : cookies.map (·.name) = cookies'.map (·.name)) :
    { src with cookies }.Alike { other with cookies := cookies' } := by
  have blanks := congrArg (List.map fun name : String => ({ name } : Cookie)) names
  rw [List.map_map, List.map_map] at blanks
  obtain ⟨entries, files, _, maxIndex⟩ := KeySource.mk.inj alike
  simp only [Alike, blank, mk.injEq]
  exact ⟨entries, files, blanks, maxIndex⟩

/-! ## What the keys tell -/

section

variable (src : KeySource) (key : Key)

theorem values_blank : src.blank.values key = blankTexts (src.values key) := by
  have lookups : ∀ entries : List (Key × List String),
      (entries.map fun entry => (entry.1, blankTexts entry.2)).lookup key =
        (entries.lookup key).map blankTexts := by
    intro entries
    induction entries with
    | nil => rfl
    | cons entry rest ih =>
      rw [List.map_cons, List.lookup_cons, List.lookup_cons, ih]
      cases key == entry.1 <;> rfl
  rw [values, values, blank, lookups]
  cases src.entries.lookup key <;> rfl

theorem filesAt_blank :
    src.blank.filesAt key = (src.filesAt key).map fun f => { field := f.field } := by
  rw [filesAt, filesAt, blank, List.filter_map]
  rfl

theorem cookie?_blank :
    src.blank.cookie? key = (src.cookie? key).map fun c => { name := c.name } := by
  rw [cookie?, cookie?, blank, List.find?_map]
  rfl

theorem hasParts_blank : src.blank.hasParts key = src.hasParts key := by
  rw [hasParts, hasParts, blank, List.any_map]
  rfl

theorem firstPresent?_blank (candidates : List Key) :
    src.blank.firstPresent? candidates = src.firstPresent? candidates := by
  rw [firstPresent?, firstPresent?, blank, List.findSome?_map]
  rfl

theorem longest_blank : src.blank.longest = src.longest := by
  rw [longest, longest, blank, List.foldl_map]

theorem brackets_blank : src.blank.brackets key = (src.brackets key).map Bracket.blank := by
  rw [brackets, brackets, blank, List.filterMap_map, List.map_filterMap]
  exact congrArg (List.filterMap · src.entries) (funext (Bracket.read?_blank key))

end

namespace Alike

variable {src other : KeySource} (alike : src.Alike other) (key : Key)

include alike

theorem maxIndex_eq : src.maxIndex = other.maxIndex := by
  show src.blank.maxIndex = other.blank.maxIndex
  rw [alike]

theorem longest_eq : src.longest = other.longest := by
  rw [← longest_blank src, alike, longest_blank]

theorem hasParts_eq : src.hasParts key = other.hasParts key := by
  rw [← hasParts_blank src, alike, hasParts_blank]

omit key in
theorem firstPresent?_eq (candidates : List Key) :
    src.firstPresent? candidates = other.firstPresent? candidates := by
  rw [← firstPresent?_blank src, alike, firstPresent?_blank]

theorem length_values_eq : (src.values key).length = (other.values key).length := by
  have blanks := values_blank src key
  rw [alike, values_blank] at blanks
  simpa [blankTexts] using (congrArg List.length blanks).symm

theorem length_filesAt_eq : (src.filesAt key).length = (other.filesAt key).length := by
  have blanks := filesAt_blank src key
  rw [alike, filesAt_blank] at blanks
  simpa using (congrArg List.length blanks).symm

theorem isEmpty_values_eq : (src.values key).isEmpty = (other.values key).isEmpty := by
  rw [Bool.eq_iff_iff, List.isEmpty_iff_length_eq_zero, List.isEmpty_iff_length_eq_zero,
    alike.length_values_eq key]

theorem isEmpty_filesAt_eq : (src.filesAt key).isEmpty = (other.filesAt key).isEmpty := by
  rw [Bool.eq_iff_iff, List.isEmpty_iff_length_eq_zero, List.isEmpty_iff_length_eq_zero,
    alike.length_filesAt_eq key]

theorem isSome_cookie?_eq : (src.cookie? key).isSome = (other.cookie? key).isSome := by
  have blanks := cookie?_blank src key
  rw [alike, cookie?_blank] at blanks
  simpa using (congrArg Option.isSome blanks).symm

theorem brackets_eq :
    (src.brackets key).map Bracket.blank = (other.brackets key).map Bracket.blank := by
  rw [← brackets_blank, alike, brackets_blank]

end Alike

end KeySource

end RequestBinding
