/-!
# Positions

The parts of a request that a field's value can be drawn from.
-/

namespace RequestBinding

/-- A part of a request. -/
inductive Position where
  | path
  | query
  | formData
  | body
  | header
  | cookie
  deriving DecidableEq, Repr

namespace Position

/-- The name of the position in tags and messages. -/
def name : Position → String
  | path => "path"
  | query => "query"
  | formData => "formData"
  | body => "body"
  | header => "header"
  | cookie => "cookie"

/-- The position of a name. -/
def ofName? (s : String) : Option Position :=
  [path, query, formData, body, header, cookie].find? (·.name == s)

/-- The wording of the complaint about a name that is no position. -/
def unknownMessage (s : String) : String :=
  "invalid position `" ++ s ++ "`"

end Position

end RequestBinding
