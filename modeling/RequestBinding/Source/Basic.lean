import RequestBinding.Source.Key
import RequestBinding.Source.Parts
import RequestBinding.Form.Values

/-!
# Sources of values

Where a value is taken from: keys with their raw texts in the order in which the keys came,
uploaded files, cookies, and the largest index that a list may be given. A source is only read.
-/

namespace RequestBinding

/-- A source. No key occurs twice among the entries of a source that is made from a form. -/
structure KeySource where
  entries : List (Key × List String) := []
  files : List UploadedFile := []
  cookies : List Cookie := []
  maxIndex : Nat := 0

namespace KeySource

/-- The source of a form's values. -/
def ofForm (form : FormValues) (maxIndex : Nat) : KeySource :=
  { entries := form.toList.map fun (key, values) => (key.toList, values), maxIndex }

/-- The source of pairs under their keys. -/
def ofPairs (pairs : List (String × String)) (maxIndex : Nat) : KeySource :=
  ofForm (.ofPairs pairs) maxIndex

/-- All raw texts of a key. -/
def values (src : KeySource) (key : Key) : List String :=
  (src.entries.lookup key).getD []

/-- The first raw text of a key. -/
def firstValue? (src : KeySource) (key : Key) : Option String :=
  (src.values key).head?

/-- The files that were uploaded under a key. -/
def filesAt (src : KeySource) (key : Key) : List UploadedFile :=
  src.files.filter (·.field.toList == key)

/-- The first cookie of a name. -/
def cookie? (src : KeySource) (name : Key) : Option Cookie :=
  src.cookies.find? (·.name.toList == name)

/-- Some key addresses a part of what `key` addresses. -/
def hasParts (src : KeySource) (key : Key) : Bool :=
  src.entries.any fun entry => Key.isPartOf entry.1 key

/-- The first candidate that an entry addresses, itself or one of its parts. -/
def addressed? (candidates : List Key) (entry : Key) : Option Key :=
  candidates.find? fun candidate => entry == candidate || Key.isPartOf entry candidate

/-- Of the candidates the one that comes first in the source, itself or as the beginning of a
longer key. -/
def firstPresent? (src : KeySource) (candidates : List Key) : Option Key :=
  src.entries.findSome? fun entry => addressed? candidates entry.1

/-- The length of the longest key. -/
def longest (src : KeySource) : Nat :=
  src.entries.foldl (fun n entry => max n entry.1.length) 0

end KeySource

end RequestBinding
