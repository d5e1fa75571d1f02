import RequestBinding.Text.Split

/-!
# Request targets

What a request asks for: a path and an optional query. The target is written as a path, as a whole
address with scheme and authority, as an authority alone, or as an asterisk; a fragment does not
belong to it.
-/

namespace RequestBinding

/-- The target of a request. -/
structure Target where
  path : String := "/"
  query : Option String := none
  deriving DecidableEq, Repr

namespace Target

/-- What stands behind the scheme and its two slashes. -/
def dropScheme? : List Char → Option (List Char)
  | [] => none
  | ':' :: '/' :: '/' :: rest => some rest
  | _ :: rest => dropScheme? rest

/-- The end of an authority. -/
def endsAuthority (c : Char) : Bool :=
  c == '/' || c == '?'

/-- A path, empty for the root, and a query behind it. -/
def ofPath (cs : List Char) : Target :=
  let (path, query) :=
    match Text.cutAt '?' cs with
    | some (path, query) => (path, some (String.ofList query))
    | none => (cs, none)
  { path := if path.isEmpty then "/" else String.ofList path, query }

/-- The target that a text writes. -/
def parse (text : String) : Target :=
  let cs := text.toList.takeWhile (· != '#')
  match cs with
  | '/' :: _ => ofPath cs
  | ['*'] => ofPath cs
  | _ =>
    match dropScheme? cs with
    | some rest => ofPath (rest.dropWhile (!endsAuthority ·))
    | none => { path := "", query := none }

end Target

end RequestBinding
