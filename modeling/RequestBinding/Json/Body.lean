import RequestBinding.Json.Reader
import RequestBinding.Text.Utf8

/-!
# JSON bodies

The octets of a body as structured data. They must be well-formed UTF-8.
-/

namespace RequestBinding.Json

/-- The value that the octets of a body write. -/
def ofOctets? (body : Text.Bytes) : Option Json :=
  (String.fromUTF8? ⟨body.toArray⟩).bind parse?

end RequestBinding.Json
