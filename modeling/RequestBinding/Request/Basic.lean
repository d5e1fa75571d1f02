import RequestBinding.Form.UrlEncoded
import RequestBinding.Request.Target
import RequestBinding.Source.Parts
import RequestBinding.Text.Blank
import RequestBinding.Text.Letters

/-!
# Requests

A request as a binder reads from it: what came in, and what has been read of it so far. The query,
the form and the cookies are read once and kept; the body is handed out once.
-/

namespace RequestBinding

/-- A form in parts that has already been taken apart: its texts and its files. -/
structure MultipartForm where
  values : FormValues := {}
  files : List UploadedFile := []

/-- The octets of the texts and of the files. -/
def MultipartForm.byteSize (form : MultipartForm) : Nat :=
  form.files.foldl (fun n f => n + f.size) form.values.byteSize

/-- Why a form cannot be read. -/
inductive FormFailure where
  /-- The parts of the form have more octets than the limit allows. -/
  | partsTooLarge (size limit : Nat)
  /-- The body has more octets than the limit allows. -/
  | bodyTooLarge (size limit : Nat)
  deriving DecidableEq, Repr

/-- The wording of the failure. -/
def FormFailure.message : FormFailure → String
  | partsTooLarge size limit =>
    "multipart form of " ++ toString size ++ " bytes exceeds the limit of " ++ toString limit
      ++ " bytes"
  | bodyTooLarge size limit =>
    "request body of " ++ toString size ++ " bytes exceeds the limit of " ++ toString limit
      ++ " bytes"

/-- Path parameters in the order of the route. -/
abbrev PathParams := List (String × String)

/-- The first path parameter of a name. -/
def PathParams.get? (params : PathParams) (name : String) : Option String :=
  params.lookup name

/-- A request and what has been read of it. -/
structure Request where
  method : String := "GET"
  target : Target := {}
  /-- Headers in order of arrival. -/
  headers : List (String × Text.Bytes) := []
  /-- The body as long as nobody has taken it. -/
  body : Option Text.Bytes := some []
  pathParams : PathParams := []
  multipart : Option MultipartForm := none
  /-- The query once it has been read. -/
  readQuery : Option FormValues := none
  /-- The form, or why there is none, once somebody has asked for it. -/
  readForm : Option (Except FormFailure FormValues) := none
  /-- The cookies once they have been read. -/
  readCookies : Option (List Cookie) := none

namespace Request

/-- Two header names are the same: their case does not count. -/
def sameHeader (a b : String) : Bool :=
  Text.eqIgnoringAsciiCase a.toList b.toList

/-- The values of a header in order of arrival. -/
def rawHeader (r : Request) (name : String) : List Text.Bytes :=
  (r.headers.filter fun header => sameHeader header.1 name).map (·.2)

/-- The values of a header as texts. -/
def header (r : Request) (name : String) : List String :=
  (r.rawHeader name).map Text.Utf8.decode

/-- An octet of a header value that is plain text: visible, a space or a tab. -/
def isPlainOctet (b : UInt8) : Bool :=
  (0x20 ≤ b && b ≤ 0x7E) || b == 9

/-- A header value as a text, if all of it is plain. -/
def plainText? (value : Text.Bytes) : Option (List Char) :=
  if value.all isPlainOctet then some (value.map fun b => Char.ofNat b.toNat) else none

/-- The files of a form in parts. -/
def files (r : Request) : List UploadedFile :=
  r.multipart.elim [] (·.files)

/-- The media type of a url-encoded form. -/
def urlEncodedType : String := "application/x-www-form-urlencoded"

/-- The first content type says that the body is a url-encoded form. -/
def isUrlEncoded (r : Request) : Bool :=
  ((r.rawHeader "content-type").head?.bind plainText?).any fun value =>
    Text.eqIgnoringAsciiCase (Text.trimChars (value.takeWhile (· != ';'))) urlEncodedType.toList

end Request

end RequestBinding
