import SdkForge.Fragment
import SdkForge.Text.Quoted
import SdkForge.Trait

/-!
# Bindings

A binding says which requests reach an operation: those with a method, a path and some query items,
or those with a target. `Binding.ofHttp` reads one from an operation's HTTP trait, and
`Binding.fragment` writes the expression that makes the runtime's form of it.
-/

namespace SdkForge

/-- A piece of a path. -/
inductive PathPart where
  | literal (text : String)
  /-- Any one segment. -/
  | label (name : String)
  /-- Any segments, one at least. -/
  | greedy (name : String)
  deriving DecidableEq, Repr

/-- A query item that has to be there. -/
inductive QueryItem where
  | key (key : String)
  | keyValue (key value : String)
  deriving DecidableEq, Repr

/-- Which requests reach an operation. -/
inductive Binding where
  /-- Those with a method, a path and query items. -/
  | http (method : String) (path : List PathPart) (query : List QueryItem)
  /-- Those that name a target. -/
  | call (target : String)
  deriving DecidableEq, Repr

namespace Binding

/-! ## Reading -/

/-- What braces enclose, if they do. -/
def inBraces : List Char → Option (List Char)
  | '\x7b' :: rest => if rest.getLast? = some '\x7d' then some rest.dropLast else none
  | _ => none

/-- The piece that a segment of a pattern stands for. -/
def readPart (segment : List Char) : PathPart :=
  match inBraces segment with
  | some label =>
    if label.getLast? = some '+' then .greedy (String.ofList label.dropLast)
      else .label (String.ofList label)
  | none => .literal (String.ofList segment)

/-- The query item that a piece of a pattern stands for. -/
def readItem (item : List Char) : QueryItem :=
  match Text.splitFirst '=' item with
  | some (key, value) => .keyValue (String.ofList key) (String.ofList value)
  | none => .key (String.ofList item)

/-- The pieces between separators that hold a character. -/
def pieces (sep : Char) (text : List Char) : List (List Char) :=
  (Text.splitAll (· == sep) text).filter (· ≠ [])

/-- The binding that an HTTP trait describes. -/
def ofHttp (t : HttpBinding) : Binding :=
  let (path, query) := (Text.splitFirst '?' t.uri.toList).getD (t.uri.toList, [])
  .http t.method.toUpper ((pieces '/' path).map readPart) ((pieces '&' query).map readItem)

/-! ## Writing -/

/-- The methods that have a constant. -/
def standardMethods : List String :=
  ["GET", "POST", "PUT", "DELETE", "PATCH", "HEAD", "OPTIONS", "CONNECT", "TRACE"]

/-- The expression for a method. -/
def methodText (crate method : String) : String :=
  if standardMethods.contains method then s!"{crate}::http::Method::{method}"
  else s!"{crate}::http::Method::from_bytes(b{Text.quote method}).expect(\"valid HTTP method\")"

/-- The module of the runtime that dispatches requests. -/
def routing (crate : String) : String := s!"{crate}::routing"

/-- The expression for a piece of a path. -/
def partText (crate : String) : PathPart → String
  | .literal text => s!"{routing crate}::PathSegment::literal({Text.quote text}),"
  | .label _ => s!"{routing crate}::PathSegment::Label,"
  | .greedy _ => s!"{routing crate}::PathSegment::Greedy,"

/-- The expression for a query item. -/
def itemText (crate : String) : QueryItem → String
  | .key key => s!"{routing crate}::QuerySegment::key({Text.quote key}),"
  | .keyValue key value =>
    s!"{routing crate}::QuerySegment::key_value({Text.quote key}, {Text.quote value}),"

/-- The expression for a list. -/
def vector (items : List String) : Fragment :=
  if items.isEmpty then .line "vec![]," else .block "vec![" (Fragment.lines items) (some "],")

/-- The expression for a binding; `crate` is the runtime's crate. -/
def fragment (crate : String) : Binding → Fragment
  | call target => .line s!"{routing crate}::RequestSpec::rpc({Text.quote target})"
  | http method path query => .block s!"{routing crate}::RequestSpec::rest("
    [.line s!"{methodText crate method},", vector (path.map (partText crate)),
      vector (query.map (itemText crate))]
    (some ")")

end Binding

end SdkForge
