import RequestBinding.Proofs.Text.AsciiCase
import RequestBinding.Request.Basic
import RequestBinding.WireName

/-!
# Canonical header names

The canonical spelling of an ASCII name is the name itself up to the case of its letters
(`WireName.sameHeader_canonicalHeader`), so a header is found under it as under the name. It depends
on nothing else: names that differ in case alone have one canonical spelling
(`WireName.canonicalHeader_congr`), the canonical spelling among them.
-/

namespace RequestBinding

namespace WireName

open Text

theorem canonicalFrom_cons {c : Char} (ascii : isAscii c = true) (start : Bool)
    (rest : List Char) :
    canonicalFrom start (c :: rest) =
      (if start then asciiUpper c else asciiLower c) :: canonicalFrom (c == '-') rest := by
  rw [canonicalFrom, toUpper_of_ascii ascii, toLower_of_ascii ascii]
  cases start <;> rfl

section

variable {cs : List Char} (ascii : ∀ c ∈ cs, isAscii c = true)

include ascii

/-- The canonical spelling changes nothing but the case of letters. -/
theorem map_asciiLower_canonicalFrom (start : Bool) :
    (canonicalFrom start cs).map asciiLower = cs.map asciiLower := by
  induction cs generalizing start with
  | nil => rfl
  | cons c rest ih =>
    obtain ⟨first, others⟩ := List.forall_mem_cons.mp ascii
    have own : asciiLower (if start then asciiUpper c else asciiLower c) = asciiLower c := by
      cases start with
      | true => exact asciiLower_asciiUpper first
      | false => exact asciiLower_asciiLower first
    rw [canonicalFrom_cons first, List.map_cons, List.map_cons, own, ih others]

/-- The canonical spelling does not look at the case of letters. -/
theorem canonicalFrom_map_asciiLower (start : Bool) :
    canonicalFrom start (cs.map asciiLower) = canonicalFrom start cs := by
  induction cs generalizing start with
  | nil => rfl
  | cons c rest ih =>
    obtain ⟨first, others⟩ := List.forall_mem_cons.mp ascii
    rw [List.map_cons, canonicalFrom_cons (isAscii_asciiLower first), canonicalFrom_cons first,
      asciiUpper_asciiLower first, asciiLower_asciiLower first, asciiLower_beq_hyphen first,
      ih others]

end

variable {name other : String} (ascii : ∀ c ∈ name.toList, isAscii c = true)

include ascii

/-- The canonical spelling names the same header. -/
theorem sameHeader_canonicalHeader : Request.sameHeader (canonicalHeader name) name = true := by
  rw [Request.sameHeader, eqIgnoringAsciiCase, canonicalHeader, String.toList_ofList,
    map_asciiLower_canonicalFrom ascii, BEq.rfl]

/-- All names of one header have one canonical spelling. -/
theorem canonicalHeader_congr (same : Request.sameHeader other name = true) :
    canonicalHeader other = canonicalHeader name := by
  have asciiOther := ascii_of_eqIgnoringAsciiCase same ascii
  rw [canonicalHeader, canonicalHeader, ← canonicalFrom_map_asciiLower asciiOther,
    ← canonicalFrom_map_asciiLower ascii, eq_of_beq same]

end WireName

/-- A header is found under every name of it. -/
theorem Request.rawHeader_congr {a b : String} (same : sameHeader a b = true) (r : Request) :
    r.rawHeader a = r.rawHeader b := by
  have equal : a.toList.map Text.asciiLower = b.toList.map Text.asciiLower := eq_of_beq same
  simp only [rawHeader, sameHeader, Text.eqIgnoringAsciiCase, equal]

end RequestBinding
