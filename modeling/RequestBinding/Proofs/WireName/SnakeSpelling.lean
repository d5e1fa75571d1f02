import RequestBinding.Proofs.WireName.HeaderSpelling

/-!
# Names in words

A name of capitals and small letters becomes words in lower case, joined by underscores. The words
of an ASCII name are the name in lower case with underscores put in, each directly between two
letters or digits (`WireName.Separated`, `WireName.separated_snakeFrom`). From this follow the other
laws: without its underscores the result is the name in lower case without its own, and as it has no
capital nothing is put in when it is taken apart again.

Where an underscore is put in depends on the characters of the name alone. A loop that also looks at
what it has written, so as never to put one underscore behind another, does the same
(`WireName.snakeOnto_eq`): in front of the place there is a letter or a digit.
-/

namespace RequestBinding.WireName

open Text

/-- The second text is the first with underscores put in, each directly between two letters or
digits; `prev` is the character before. -/
inductive Separated : (prev : Option Char) → (plain spaced : List Char) → Prop
  | nil {prev : Option Char} : Separated prev [] []
  | keep {prev : Option Char} {c : Char} {plain spaced : List Char}
    (separated : Separated (some c) plain spaced) : Separated prev (c :: plain) (c :: spaced)
  | insert {p c : Char} {plain spaced : List Char} (before : isAlphanumeric p = true)
    (after : isAlphanumeric c = true) (separated : Separated (some c) plain spaced) :
    Separated (some p) (c :: plain) ('_' :: c :: spaced)

/-- Nothing is lost, and nothing changes its place. -/
theorem Separated.filter_eq {prev : Option Char} {plain spaced : List Char}
    (separated : Separated prev plain spaced) :
    spaced.filter (· != '_') = plain.filter (· != '_') := by
  induction separated with
  | nil => rfl
  | keep _ ih => rw [List.filter_cons, List.filter_cons, ih]
  | insert _ _ _ ih =>
    rw [List.filter_cons_of_neg (by decide), List.filter_cons, List.filter_cons, ih]

/-- What is put in are underscores. -/
theorem Separated.mem {prev : Option Char} {plain spaced : List Char}
    (separated : Separated prev plain spaced) {c : Char} (member : c ∈ spaced) :
    c = '_' ∨ c ∈ plain := by
  induction separated with
  | nil => cases member
  | keep _ ih =>
    rcases List.mem_cons.mp member with rfl | later
    · exact Or.inr List.mem_cons_self
    · exact (ih later).imp_right (List.mem_cons_of_mem _)
  | insert _ _ _ ih =>
    rcases List.mem_cons.mp member with rfl | later
    · exact Or.inl rfl
    rcases List.mem_cons.mp later with rfl | later
    · exact Or.inr List.mem_cons_self
    · exact (ih later).imp_right (List.mem_cons_of_mem _)

/-! ## The words of a name -/

/-- A text without capitals is its own words. -/
theorem snakeFrom_of_small {cs : List Char} (small : ∀ c ∈ cs, isUpper c = false)
    (prev : Option Char) : snakeFrom prev cs = cs := by
  induction cs generalizing prev with
  | nil => rfl
  | cons c rest ih =>
    obtain ⟨first, others⟩ := List.forall_mem_cons.mp small
    rw [snakeFrom, first, if_neg Bool.false_ne_true, ih others]
    rfl

theorem isAlphanumeric_asciiLower_of_isUpper {c : Char} (ascii : isAscii c = true)
    (capital : isUpper c = true) : isAlphanumeric (asciiLower c) = true :=
  forall_ascii (P := fun c => isUpper c = true → isAlphanumeric (asciiLower c) = true)
    (by decide +kernel) ascii capital

/-- A word begins behind a letter or a digit. -/
theorem isAlphanumeric_of_beginsWord {p : Char} {next : Option Char} (ascii : isAscii p = true)
    (begins : beginsWord (some p) next = true) : isAlphanumeric (asciiLower p) = true := by
  have joined : isLower p = true ∨ isDigit p = true ∨ isUpper p = true := by
    simp only [beginsWord, Bool.or_eq_true, Bool.and_eq_true] at begins
    rcases begins with (small | digit) | ⟨capital, -⟩
    · exact Or.inl small
    · exact Or.inr (Or.inl digit)
    · exact Or.inr (Or.inr capital)
  exact forall_ascii
    (P := fun p => isLower p = true ∨ isDigit p = true ∨ isUpper p = true →
      isAlphanumeric (asciiLower p) = true) (by decide +kernel) ascii joined

/-- One character of an ASCII name: its small letter, behind an underscore if it is a capital that
begins a word. -/
theorem snakeFrom_cons {c : Char} (ascii : isAscii c = true) (prev : Option Char)
    (rest : List Char) :
    snakeFrom prev (c :: rest) =
      (if isUpper c && beginsWord prev rest.head? then ['_'] else []) ++
        asciiLower c :: snakeFrom (some c) rest := by
  rw [snakeFrom, toLower_of_ascii ascii]
  cases capital : isUpper c with
  | true => simp
  | false => simp [asciiLower_of_not_isUpper ascii capital]

/-- The words of an ASCII name are the name in lower case with underscores put in. The induction is
on what is left of the name; `prev` is the character before it. -/
theorem separated_snakeFrom {cs : List Char} (ascii : ∀ c ∈ cs, isAscii c = true)
    (prev : Option Char) (asciiPrev : ∀ p ∈ prev, isAscii p = true) :
    Separated (prev.map asciiLower) (cs.map asciiLower) (snakeFrom prev cs) := by
  induction cs generalizing prev with
  | nil => exact .nil
  | cons c rest ih =>
    obtain ⟨first, others⟩ := List.forall_mem_cons.mp ascii
    have later : Separated (some (asciiLower c)) (rest.map asciiLower) (snakeFrom (some c) rest) :=
      ih others (some c) fun p same => Option.some.inj same ▸ first
    rw [snakeFrom_cons first, List.map_cons]
    split
    · rename_i begins
      obtain ⟨capital, word⟩ := Bool.and_eq_true_iff.mp begins
      cases prev with
      | none => cases word
      | some p =>
        exact .insert (isAlphanumeric_of_beginsWord (asciiPrev p rfl) word)
          (isAlphanumeric_asciiLower_of_isUpper first capital) later
    · exact .keep later

/-! ## The loop that looks at what it has written -/

/-- The words of a name by a loop that looks at what it has written, the last character first, and
puts no underscore behind another one. -/
def snakeOnto (written : List Char) : (prev : Option Char) → List Char → List Char
  | _, [] => written.reverse
  | prev, c :: rest =>
    if isUpper c then
      let parted :=
        if beginsWord prev rest.head? && written.head? != some '_' then '_' :: written else written
      snakeOnto ((toLower c).reverse ++ parted) (some c) rest
    else snakeOnto (c :: written) (some c) rest

/-- What has been written ends in the character before, so there is no underscore where a word
begins. -/
theorem snakeOnto_eq {cs : List Char} (ascii : ∀ c ∈ cs, isAscii c = true) (prev : Option Char)
    (asciiPrev : ∀ p ∈ prev, isAscii p = true) {written : List Char}
    (ends : written.head? = prev.map asciiLower) :
    snakeOnto written prev cs = written.reverse ++ snakeFrom prev cs := by
  induction cs generalizing prev written with
  | nil => exact (List.append_nil _).symm
  | cons c rest ih =>
    obtain ⟨first, others⟩ := List.forall_mem_cons.mp ascii
    have onward (front : List Char) : snakeOnto (asciiLower c :: front) (some c) rest =
        front.reverse ++ asciiLower c :: snakeFrom (some c) rest := by
      rw [ih others (some c) (fun p same => Option.some.inj same ▸ first) rfl, List.reverse_cons,
        List.append_assoc]
      rfl
    have unguarded : (beginsWord prev rest.head? && written.head? != some '_') =
        beginsWord prev rest.head? := by
      rw [Bool.and_eq_left_iff_imp]
      intro word
      cases prev with
      | none => cases word
      | some p =>
        have letter := isAlphanumeric_of_beginsWord (asciiPrev p rfl) word
        rw [ends, bne_iff_ne]
        intro same
        rw [Option.some.inj same] at letter
        exact absurd letter (by decide)
    rw [snakeOnto, snakeFrom_cons first, toLower_of_ascii first, unguarded]
    cases capital : isUpper c with
    | false =>
      have same := asciiLower_of_not_isUpper first capital
      simpa [same] using onward written
    | true =>
      cases beginsWord prev rest.head? with
      | true => simpa using onward ('_' :: written)
      | false => simpa using onward written

/-! ## Normal forms -/

/-- The two spellings of an ASCII name. The canonical one names the same header, and it is the same
for all names of that header. The one in words is in lower case; it is the name in lower case with
underscores put in between letters or digits, and nowhere else. Spelling either again changes
nothing. -/
theorem spellings_of_ascii (name : String) (ascii : ∀ c ∈ name.toList, isAscii c = true) :
    (canonicalHeader (canonicalHeader name) = canonicalHeader name ∧
      eqIgnoringAsciiCase (canonicalHeader name).toList name.toList = true ∧
      (∀ r : Request, r.rawHeader (canonicalHeader name) = r.rawHeader name) ∧
      ∀ other : String, eqIgnoringAsciiCase other.toList name.toList = true →
        canonicalHeader other = canonicalHeader name) ∧
    (snake (snake name) = snake name ∧
      (∀ c ∈ (snake name).toList, isUpper c = false) ∧
      (snake name).toList.filter (· != '_') =
        (name.toList.map asciiLower).filter (· != '_') ∧
      Separated none (name.toList.map asciiLower) (snake name).toList ∧
      snakeOnto [] none name.toList = (snake name).toList) := by
  have spelled : (snake name).toList = snakeFrom none name.toList := String.toList_ofList
  have separated : Separated none (name.toList.map asciiLower) (snake name).toList := by
    rw [spelled]
    exact separated_snakeFrom ascii none nofun
  have small : ∀ c ∈ (snake name).toList, isUpper c = false := by
    intro c member
    rcases separated.mem member with rfl | own
    · decide
    · obtain ⟨d, present, rfl⟩ := List.mem_map.mp own
      exact isUpper_asciiLower (ascii d present)
  have same := sameHeader_canonicalHeader ascii
  refine ⟨⟨canonicalHeader_congr ascii same, same, Request.rawHeader_congr same,
    fun other => canonicalHeader_congr ascii⟩, ?_, small, separated.filter_eq, separated, ?_⟩
  · rw [snake, snakeFrom_of_small small, String.ofList_toList]
  · rw [spelled, snakeOnto_eq ascii none nofun rfl]
    rfl

/-- Runs of capitals, digits, underscores of the name's own and a hyphen. -/
theorem spellings_of_ascii_parsed :
    let name := "_parsedHTTPUrl2X__Y-zA"
    (∀ c ∈ name.toList, isAscii c = true) ∧
      snake name = "_parsed_http_url2_x__y-z_a" ∧ snake (snake name) = snake name ∧
      Separated none (name.toList.map asciiLower) "_parsed_http_url2_x__y-z_a".toList ∧
      canonicalHeader name = "_parsedhttpurl2x__y-Za" ∧
      canonicalHeader "_PARSEDhttpurl2x__Y-Za" = canonicalHeader name := by
  intro name
  have ascii : ∀ c ∈ name.toList, isAscii c = true := List.all_eq_true.mp (by decide +kernel)
  have words : snake name = "_parsed_http_url2_x__y-z_a" := by decide +kernel
  have spelled : canonicalHeader name = "_parsedhttpurl2x__y-Za" := by decide +kernel
  obtain ⟨⟨-, -, -, shared⟩, again, -, -, separated, -⟩ := spellings_of_ascii name ascii
  rw [words] at separated
  exact ⟨ascii, words, again, separated, spelled, shared _ (by decide)⟩

end RequestBinding.WireName
