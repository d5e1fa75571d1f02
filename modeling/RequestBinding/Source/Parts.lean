import RequestBinding.Text.Utf8

/-!
# Files and cookies

What a request carries besides texts under keys: uploaded files and cookies.
-/

namespace RequestBinding

/-- A file that was uploaded under a form field. -/
structure UploadedFile where
  field : String := ""
  name : String := ""
  contentType : Option String := none
  data : Text.Bytes := []
  deriving DecidableEq, Repr

/-- The number of octets of the file. -/
def UploadedFile.size (f : UploadedFile) : Nat :=
  f.data.length

/-- A cookie of a request. -/
structure Cookie where
  name : String := ""
  value : String := ""
  deriving DecidableEq, Repr

end RequestBinding
