import SdkForge.Binding
import SdkForge.Http.Message
import SdkForge.Text.Split

/-!
# Which requests reach an operation

A spec is the server's form of a binding: labels have lost their names. `RequestSpec.admits` says
whether a request reaches the operation, and `rank` how specific the spec is.
-/

namespace SdkForge.Server

/-- A piece of a path. -/
inductive Segment where
  | literal (text : String)
  /-- Any one segment. -/
  | label
  /-- Any segments, one at least. -/
  | greedy
  deriving DecidableEq, Repr

/-- Which requests reach an operation. -/
inductive RequestSpec where
  | rest (method : String) (path : List Segment) (query : List QueryItem)
  /-- Requests that name a target. -/
  | rpc (target : String)
  deriving DecidableEq, Repr

/-- Whether a request reaches an operation. -/
inductive Match where
  | no
  /-- The request would reach the operation with another method. -/
  | methodNotAllowed
  | yes
  deriving DecidableEq, Repr

/-! ## Paths -/

/-- The segments of a path: the pieces between slashes that hold a character. -/
def segments (path : String) : List String :=
  ((Text.splitAll (· == '/') path.toList).filter (· ≠ [])).map String.ofList

mutual
/-- Whether a pattern matches segments. -/
def matchesPath : List Segment → List String → Bool
  | [], segments => segments.isEmpty
  | .literal text :: rest, segment :: more => segment == text && matchesPath rest more
  | .label :: rest, _ :: more => matchesPath rest more
  | .greedy :: rest, _ :: more => matchesAfter rest more
  | _ :: _, [] => false
  termination_by pattern segments => (pattern.length, segments.length + 1)
/-- Whether a pattern matches the segments, or those that are left without some of the first. -/
def matchesAfter (pattern : List Segment) : List String → Bool
  | [] => matchesPath pattern []
  | segment :: more => matchesPath pattern (segment :: more) || matchesAfter pattern more
  termination_by segments => (pattern.length + 1, segments.length)
end

/-! ## Queries -/

/-- A query item with its value; an item without `=` has an empty one. -/
def queryPair (item : List Char) : String × String :=
  match Text.splitFirst '=' item with
  | some (key, value) => (String.ofList key, String.ofList value)
  | none => (String.ofList item, "")

/-- The items of a query. -/
def queryPairs (query : String) : List (String × String) :=
  ((Text.splitAll (· == '&') query.toList).filter (· ≠ [])).map queryPair

/-- Whether a query has an item. -/
def hasItem (pairs : List (String × String)) : QueryItem → Bool
  | .key key => pairs.any (·.1 == key)
  | .keyValue key value => pairs.contains (key, value)

/-! ## Requests -/

namespace RequestSpec

/-- The spec of a binding. -/
def ofBinding : Binding → RequestSpec
  | .http method path query => .rest method (path.map fun
      | .literal text => .literal text
      | .label _ => .label
      | .greedy _ => .greedy) query
  | .call target => .rpc target

/-- How specific the spec is. -/
def rank : RequestSpec → Nat
  | rest _ path query => path.length + query.length
  | rpc _ => 0

/-- The header that names a target. -/
def targetHeader : String := "x-amz-target"

/-- The method of requests that name a target. -/
def targetMethod : String := "POST"

/-- The target that a request names. -/
def target? (r : Http.Request) : Option String := (r.headers.get? targetHeader).filter Http.isPlain

/-- A match that a method decides. -/
def byMethod (expected actual : String) : Match :=
  if actual == expected then .yes else .methodNotAllowed

/-- Whether a request reaches the operation. -/
def admits (r : Http.Request) : RequestSpec → Match
  | rpc target =>
    if target? r == some target && r.uri.path == "/" then byMethod targetMethod r.method else .no
  | rest method path query =>
    if matchesPath path (segments r.uri.path) &&
      query.all (hasItem (queryPairs (r.uri.query.getD ""))) then
      byMethod method r.method
    else .no

end RequestSpec

end SdkForge.Server
