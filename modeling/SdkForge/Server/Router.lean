import SdkForge.Server.RequestSpec

/-!
# Routers

A router sends a request to the first operation that it reaches, where more specific specs come
before others. A request that reaches none gets the response that the protocol has for it.
-/

namespace SdkForge.Server

/-! ## Requests that reach nothing -/

/-- Why a request reaches nothing. -/
inductive RoutingError where
  | notFound (method path : String)
  /-- Something would be reached with another method. -/
  | methodNotAllowed (method path : String)
  deriving DecidableEq, Repr

namespace RoutingError

def message : RoutingError → String
  | notFound method path => s!"no operation matches {method} {path}"
  | methodNotAllowed method path => s!"{method} is not allowed for {path}"

/-- The status of protocols that tell the two apart. -/
def status : RoutingError → Nat
  | notFound .. => 404
  | methodNotAllowed .. => 405

/-- The code of the error in a response. -/
def code : String := "UnknownOperationException"

/-- A response with a body of some type. -/
def answer (status : Nat) (contentType body : String) : Http.Response :=
  ({ status, body } : Http.Response).append "content-type" contentType

/-- The response of calls in JSON, which know one status only. -/
def answerCall (contentType : String) : Http.Response :=
  answer 404 contentType ("\x7b\"__type\":\"" ++ code ++ "\"\x7d")

/-- The response that a protocol has for the error. -/
def response (e : RoutingError) : WireProtocol → Http.Response
  | .restJson1 => (answer e.status "application/json" "\x7b\x7d").append "x-amzn-errortype" code
  | .restXml =>
    answer e.status "application/xml"
      s!"<ErrorResponse><Error><Code>{code}</Code></Error></ErrorResponse>"
  | .awsJson1_0 => answerCall "application/x-amz-json-1.0"
  | .awsJson1_1 => answerCall "application/x-amz-json-1.1"

end RoutingError

/-! ## Routers -/

/-- What requests of a protocol reach: services with their specs, in the order in which they are
tried. -/
structure Router (σ : Type) where
  protocol : WireProtocol
  routes : List (RequestSpec × σ)

namespace Router

variable {σ τ : Type}

/-- The router of services with their specs; of specs that are equally specific the first is tried
first. -/
def ofList (protocol : WireProtocol) (routes : List (RequestSpec × σ)) : Router σ :=
  ⟨protocol, routes.mergeSort fun a b => b.1.rank ≤ a.1.rank⟩

def size (r : Router σ) : Nat := r.routes.length

def isEmpty (r : Router σ) : Bool := r.routes.isEmpty

/-- The router with other services. -/
def map (f : σ → τ) (r : Router σ) : Router τ :=
  ⟨r.protocol, r.routes.map fun (spec, service) => (spec, f service)⟩

/-- Why a request reaches none of the routes. -/
def failure (routes : List (RequestSpec × σ)) (request : Http.Request) : RoutingError :=
  if routes.any fun route => route.1.admits request = .methodNotAllowed then
    .methodNotAllowed request.method request.uri.path
  else .notFound request.method request.uri.path

/-- The service that a request reaches. -/
def find (r : Router σ) (request : Http.Request) : Except RoutingError σ :=
  match r.routes.find? fun route => route.1.admits request = .yes with
  | some (_, service) => .ok service
  | none => .error (failure r.routes request)

end Router

/-! ## Services -/

/-- What answers a request. -/
abbrev Service := Http.Request → Http.Response

/-- The response to a request: that of the service it reaches, or the protocol's for a request that
reaches none. -/
def Router.call (r : Router Service) : Service := fun request =>
  match r.find request with
  | .ok service => service request
  | .error e => e.response r.protocol

end SdkForge.Server
