import RequestBinding.Number.Integer
import RequestBinding.Text.Blank
import RequestBinding.Text.Split

/-!
# Settings

The limits of binding: the cap on form payloads in octets and the largest index of a list. Both can
be set by environment variables, in decimal or hexadecimal; a variable that cannot be read counts
as not set.
-/

namespace RequestBinding

/-- The octets of a mebibyte. -/
def mebibyte : Nat := Nat.pow 2 20

/-- The octets of a number of mebibytes, at most the largest number of 64 bits. -/
def mebibytes (n : Nat) : Nat :=
  min (n * mebibyte) wordMax

/-- The limits. -/
structure Settings where
  maxMemory : Nat := mebibytes 32
  maxIndex : Nat := 1024
  deriving DecidableEq, Repr

namespace Settings

/-- Looks up the value of an environment variable. -/
abbrev Lookup := String → Option String

/-- The variable of the cap on form payloads, in mebibytes. -/
def memoryVariable : String := "PARAMBIND_MAX_MEMORY_MB"

/-- The variable of the largest index. -/
def indexVariable : String := "PARAMBIND_MAX_ARRAY_INDEX"

/-- Reads a number, hexadecimal behind `0x` and else decimal. -/
def readNumber? (text : String) : Option Nat :=
  let cs := Text.trimChars text.toList
  match Text.dropLead? "0x".toList cs with
  | some digits => (Numeral.readNat 16 wordMax digits).toOption
  | none => Numeral.readWord? cs

/-- The limits that variables set. -/
def ofLookup (lookup : Lookup) : Settings :=
  let memory := ((lookup memoryVariable).bind readNumber?).filter (· > 0)
  let index := (lookup indexVariable).bind readNumber?
  { maxMemory := memory.elim ({} : Settings).maxMemory mebibytes
    maxIndex := index.getD ({} : Settings).maxIndex }

end Settings

end RequestBinding
