import RequestBinding.Text.Blank

/-!
# Binding tags

A field's tag is a text of tokens `<key:value>` or `<key>`. The first colon of a token ends its
key; spaces around key and value do not count; a backslash makes the angle bracket behind it part
of the text. What stands outside of tokens is ignored, and so is a token that is never closed. Of
several tokens with one key the last counts.
-/

namespace RequestBinding

/-- What a tag says: a value for each key that occurs, in the order of first occurrence. -/
structure TagMap where
  entries : List (String × String) := []
  deriving DecidableEq, Repr

namespace TagMap

/-- Replaces the value of a key where it stands, or adds the key at the end. -/
def put (key value : String) : List (String × String) → List (String × String)
  | [] => [(key, value)]
  | (k, v) :: rest => if k == key then (key, value) :: rest else (k, v) :: put key value rest

/-- The map with a new value for a key. -/
def insert (tags : TagMap) (key value : String) : TagMap :=
  ⟨put key value tags.entries⟩

/-- The value of a key. -/
def get? (tags : TagMap) (key : String) : Option String :=
  tags.entries.lookup key

/-- The key occurs. -/
def contains (tags : TagMap) (key : String) : Bool :=
  (tags.get? key).isSome

end TagMap

namespace Tag

/-! ## Known keys -/

/-- Source position of the field. -/
def positionKey := "in"
/-- Wire name of the field. -/
def nameKey := "name"
/-- The value must be supplied. -/
def requiredKey := "required"
/-- Free description. -/
def descriptionKey := "desc"
/-- Bounds on the length. -/
def lengthKey := "len"
/-- Bounds on the number. -/
def rangeKey := "range"
/-- The value must differ from zero. -/
def nonzeroKey := "nonzero"
/-- Pattern for the whole text. -/
def patternKey := "regexp"
/-- Cap on the form payload in mebibytes. -/
def capKey := "maxmb"
/-- Text that replaces the generated error. -/
def errorKey := "err"

/-- The tag is the mark that excludes a field. -/
def isIgnored (tag : String) : Bool :=
  Text.trim tag == "-"

/-! ## Reading -/

/-- A token that has been opened: its key once a colon has ended it, the text since then with the
last character first, whether spaces are still skipped, and whether a backslash came just
before. -/
structure Draft where
  key : Option (List Char) := none
  text : List Char := []
  skipping : Bool := true
  escaped : Bool := false

namespace Draft

/-- The text of the draft in reading order, without the spaces at its end. -/
def settled (d : Draft) : String :=
  String.ofList (Text.dropTrailingSpaces d.text.reverse)

/-- Adds characters, the last one first. -/
def push (d : Draft) (cs : List Char) : Draft :=
  { d with text := cs ++ d.text, skipping := false, escaped := false }

/-- Key and value of the token, now that it is closed. A token without colon is a key alone. -/
def close (d : Draft) : String × String :=
  match d.key with
  | some key => (String.ofList key, d.settled)
  | none => (d.settled, "")

end Draft

/-- Where a reader of a tag stands. -/
inductive Place where
  | outside
  | inside (d : Draft)

/-- The reader of a tag: its place and what the tokens closed so far say. -/
structure Reader where
  place : Place := .outside
  tags : TagMap := {}

/-- Takes one character inside of a token. -/
def Draft.next (d : Draft) (tags : TagMap) (c : Char) : Reader :=
  if d.escaped then
    ⟨.inside (d.push (if c == '<' || c == '>' then [c] else [c, '\\'])), tags⟩
  else if c == '>' then
    ⟨.outside, tags.insert d.close.1 d.close.2⟩
  else if c == '\\' then
    ⟨.inside { d with skipping := false, escaped := true }, tags⟩
  else if c == ':' && d.key.isNone then
    ⟨.inside { key := some d.settled.toList }, tags⟩
  else if c == ' ' && d.skipping then
    ⟨.inside d, tags⟩
  else
    ⟨.inside (d.push [c]), tags⟩

/-- Takes one character. -/
def Reader.next (r : Reader) (c : Char) : Reader :=
  match r.place with
  | .outside => if c == '<' then ⟨.inside {}, r.tags⟩ else r
  | .inside d => d.next r.tags c

/-- What a tag says. Every text can be read. -/
def parse (tag : String) : TagMap :=
  (tag.toList.foldl Reader.next {}).tags

end Tag

end RequestBinding
