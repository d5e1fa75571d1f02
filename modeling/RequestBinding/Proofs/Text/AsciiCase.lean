import RequestBinding.Text.Letters

/-!
# Case on ASCII

The case of ASCII letters, as far as names are concerned: either mapping forgets what the other has
done, and lower case is ASCII and touches nothing but capitals. The facts about single characters
are checked at each of the 128 code points (`Text.forall_ascii`).
-/

namespace RequestBinding.Text

/-- What holds at the first 128 code points holds of every ASCII character. -/
theorem forall_ascii {P : Char → Prop} (each : ∀ n < 128, P (Char.ofNat n)) {c : Char}
    (ascii : isAscii c = true) : P c := by
  have below : c.toNat < 128 := of_decide_eq_true ascii
  rw [← Char.ofNat_toNat c]
  exact each c.toNat below

variable {c : Char}

section

variable (ascii : isAscii c = true)

include ascii

theorem toLower_of_ascii : toLower c = [asciiLower c] :=
  if_pos ascii

theorem toUpper_of_ascii : toUpper c = [asciiUpper c] :=
  if_pos ascii

theorem isAscii_asciiLower : isAscii (asciiLower c) = true :=
  forall_ascii (P := fun c => isAscii (asciiLower c) = true) (by decide +kernel) ascii

theorem asciiLower_asciiLower : asciiLower (asciiLower c) = asciiLower c :=
  forall_ascii (P := fun c => asciiLower (asciiLower c) = asciiLower c) (by decide +kernel) ascii

theorem asciiLower_asciiUpper : asciiLower (asciiUpper c) = asciiLower c :=
  forall_ascii (P := fun c => asciiLower (asciiUpper c) = asciiLower c) (by decide +kernel) ascii

theorem asciiUpper_asciiLower : asciiUpper (asciiLower c) = asciiUpper c :=
  forall_ascii (P := fun c => asciiUpper (asciiLower c) = asciiUpper c) (by decide +kernel) ascii

theorem asciiLower_beq_hyphen : (asciiLower c == '-') = (c == '-') :=
  forall_ascii (P := fun c => (asciiLower c == '-') = (c == '-')) (by decide +kernel) ascii

theorem isUpper_asciiLower : isUpper (asciiLower c) = false :=
  forall_ascii (P := fun c => isUpper (asciiLower c) = false) (by decide +kernel) ascii

theorem asciiLower_of_not_isUpper (small : isUpper c = false) : asciiLower c = c :=
  forall_ascii (P := fun c => isUpper c = false → asciiLower c = c) (by decide +kernel) ascii small

end

/-- What is an ASCII character in lower case is one. -/
theorem isAscii_of_isAscii_asciiLower (ascii : isAscii (asciiLower c) = true) :
    isAscii c = true := by
  unfold asciiLower at ascii
  split at ascii
  · rename_i capital
    have bounds : 'A' ≤ c ∧ c ≤ 'Z' := by simpa [isAsciiUpper] using capital
    have last : c.toNat ≤ 90 := bounds.2
    exact decide_eq_true (by omega)
  · exact ascii

/-- A text that is ASCII up to the case of its letters is ASCII. -/
theorem ascii_of_eqIgnoringAsciiCase {a b : List Char} (same : eqIgnoringAsciiCase a b = true)
    (ascii : ∀ c ∈ b, isAscii c = true) : ∀ c ∈ a, isAscii c = true := by
  intro c member
  have lowered : asciiLower c ∈ b.map asciiLower := by
    rw [← eq_of_beq same]
    exact List.mem_map_of_mem member
  obtain ⟨d, present, equal⟩ := List.mem_map.mp lowered
  apply isAscii_of_isAscii_asciiLower
  rw [← equal]
  exact isAscii_asciiLower (ascii d present)

end RequestBinding.Text
