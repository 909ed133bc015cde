import SdkForge.Http.Token
import SdkForge.Http.Uri

/-!
# Requests and responses

The names of headers are kept in small letters. A message can have several headers of one name.
-/

namespace SdkForge.Http

/-- The headers of a message, in the order in which they came in. -/
abbrev Headers := List (String × String)

/-- The first value of a header. -/
def Headers.get? (headers : Headers) (name : String) : Option String := headers.lookup name

/-! ## Requests -/

/-- A request. -/
structure Request where
  method : String
  uri : Uri
  headers : Headers := []
  body : String := ""
  deriving DecidableEq, Inhabited, Repr

/-- The header with a name and a value, if they can be those of a header. -/
def header? (name value : String) : Option (String × String) :=
  if isToken name && isHeaderValue value then some (name.toLower, value) else none

/-- A request, if its parts are such as a request can have. -/
def Request.make? (method uri : String) (headers : Headers) (body : String) : Option Request := do
  let uri ← Uri.parse? uri
  let headers ← headers.mapM fun (name, value) => header? name value
  if isToken method then some { method, uri, headers, body } else none

/-! ## Responses -/

/-- A response. -/
structure Response where
  status : Nat := 200
  headers : Headers := []
  body : String := ""
  deriving DecidableEq, Inhabited, Repr

namespace Response

/-- Adds a header, if the value can be that of one. -/
def append (r : Response) (name value : String) : Response :=
  if isHeaderValue value then { r with headers := r.headers ++ [(name, value)] } else r

/-- The headers by name, and those of one name as they came in. -/
def sortedHeaders (r : Response) : Headers := r.headers.mergeSort fun a b => (compare a.1 b.1).isLE

end Response

end SdkForge.Http
