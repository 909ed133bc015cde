/-!
# URIs of requests

A request names its target by a path, by a whole URI, or by an authority alone. `Uri.parse` reads
all three.
-/

namespace SdkForge.Http

/-- The target of a request. -/
structure Uri where
  scheme : Option String := none
  authority : Option String := none
  path : String := ""
  query : Option String := none
  deriving DecidableEq, Inhabited, Repr

namespace Uri

/-- The greatest number of bytes that a URI has. -/
def maxLength : Nat := 65534

/-! ## Writing -/

protected def toString (u : Uri) : String :=
  ((u.scheme.map (· ++ "://")).getD "") ++ u.authority.getD "" ++ u.path ++
    ((u.query.map ("?" ++ ·)).getD "")

instance : ToString Uri := ⟨Uri.toString⟩

/-! ## Paths and queries -/

/-- Whether a character can stand in a path. Beside what the standard allows these are the quotes
and braces that some clients send, and everything beyond ASCII. -/
def inPath (c : Char) : Bool :=
  0x80 ≤ c.toNat || c.isAlphanum || "!\"$%&'()*+,-./:;=@[\\]^_|~\x7b\x7d".toList.contains c

/-- Whether a character can stand in a query. -/
def inQuery (c : Char) : Bool := 0x21 ≤ c.toNat && !(['"', '#', '<', '>', '\x7f'].contains c)

/-- A path with the query that may follow. A fragment is dropped. -/
def parsePath? (text : List Char) : Option (List Char × Option (List Char)) :=
  let text := text.takeWhile (· != '#')
  let path := text.takeWhile (· != '?')
  if !path.all inPath then none
  else match text.dropWhile (· != '?') with
    | [] => some (path, none)
    | _ :: query => if query.all inQuery then some (path, some query) else none

/-! ## Schemes -/

/-- Whether a character can stand in a scheme. -/
def inScheme (c : Char) : Bool := c.isAlphanum || c == '+' || c == '-' || c == '.' || c == '~'

/-- The greatest number of characters that a scheme has. -/
def maxScheme : Nat := 64

/-- The schemes that are read in any case. -/
def usualSchemes : List String := ["http", "https"]

/-- What stands before `://`, if it is there, and what follows. -/
def splitScheme (text : List Char) : Option String × List Char :=
  match text.dropWhile inScheme with
  | ':' :: '/' :: '/' :: rest =>
    let scheme := String.ofList (text.takeWhile inScheme)
    (some (if usualSchemes.contains scheme.toLower then scheme.toLower else scheme), rest)
  | _ => (none, text)

/-! ## Authorities -/

/-- What has been seen of an authority. A colon counts, and a `%` is refused, only outside of
brackets and of what stands before an `@`. -/
structure AuthorityScan where
  colons : Nat := 0
  opened : Bool := false
  closed : Bool := false
  percent : Bool := false

/-- The greatest number of colons in brackets. -/
def maxColons : Nat := 8

namespace AuthorityScan

/-- Looks at one more character. -/
def step (s : AuthorityScan) (c : Char) : Option AuthorityScan :=
  if c == ':' then if s.colons ≥ maxColons then none else some { s with colons := s.colons + 1 }
  else if c == '[' then if s.percent || s.opened then none else some { s with opened := true }
  else if c == ']' then
    if !s.opened || s.closed then none
      else some { s with closed := true, colons := 0, percent := false }
  else if c == '@' then some { s with colons := 0, percent := false }
  else if c == '%' then some { s with percent := true }
  else if c.isAlphanum || "!$&'()*+,-.;=_~".toList.contains c then some s
  else none

/-- Whether what has been seen is a whole authority. -/
def isWhole (s : AuthorityScan) : Bool := s.opened == s.closed && s.colons ≤ 1 && !s.percent

end AuthorityScan

/-- Whether a text is an authority. Something has to follow an `@`. -/
def isAuthority (text : List Char) : Bool :=
  ((text.foldlM AuthorityScan.step {}).any (·.isWhole)) && text.getLast? != some '@'

/-- Whether a character belongs to the authority that stands before it. -/
def inAuthority (c : Char) : Bool := c != '/' && c != '?' && c != '#'

/-! ## Reading -/

/-- A URI with the path and the query of a text. -/
def withPath? (u : Uri) (text : List Char) : Option Uri :=
  (parsePath? text).map fun (path, query) =>
    { u with path := if path.isEmpty then "/" else String.ofList path,
             query := query.map String.ofList }

/-- Reads a text that does not start with a path. -/
def parseFull? (text : List Char) : Option Uri :=
  let (scheme, rest) := splitScheme text
  let authority := rest.takeWhile inAuthority
  let path := rest.dropWhile inAuthority
  if !isAuthority authority || authority.isEmpty then none
  else match scheme with
    | some scheme =>
      if scheme.length > maxScheme then none
      else withPath? { scheme := some scheme, authority := some (String.ofList authority) } path
    | none => if path.isEmpty then some { authority := some (String.ofList authority) } else none

/-- Reads a URI. -/
def parse? (text : String) : Option Uri :=
  if text.utf8ByteSize > maxLength then none
  else match text.toList with
    | [] => none
    | ['*'] => some { path := "*" }
    | '/' :: rest => withPath? {} ('/' :: rest)
    | other => parseFull? other

end Uri

end SdkForge.Http
