import SdkForge.Code.Function
import SdkForge.Protocol

/-!
# The standard protocols

REST over JSON and XML, which bind operations by their HTTP trait, and the two versions of JSON
calls, which bind them by target.
-/

namespace SdkForge.Protocol

/-! ## Parts that protocols share -/

/-- The name of the function that reads an error of which only the envelope is known. -/
def genericErrorName : String := "parse_http_generic_error"

/-- That function, with its body. -/
def genericErrorFunction (p : Project) (body : List Fragment) : Fragment :=
  let types := p.typesCrate
  Code.Function.fragment {
    name := genericErrorName
    params := [⟨"response", s!"&{types}::http::Response<{types}::bytes::Bytes>"⟩]
    returns := some s!"Result<{types}::error::ErrorMetadataBuilder, {types}::error::DecodeError>"
    body := [.seq body] }

/-- The type that stands for a protocol of the server's runtime. -/
def serverMarker (name : String) (p : Project) : String := s!"{p.serverCrate}::protocol::{name}"

/-- The type that dispatches requests in the server's runtime. -/
def serverRouter (p : Project) : String := s!"{p.serverCrate}::routing::Router"

/-- The call that reads a generic error in the types' runtime. -/
def genericErrorCall (module args : String) (p : Project) : String :=
  s!"{p.typesCrate}::protocol::{module}::parse_generic_error({args})"

/-- The arguments that a protocol with headers of its own needs. -/
def headersAndBody : String := "response.headers(), response.body().as_ref()"

/-! ## REST -/

/-- The binding by the operation's HTTP trait. -/
def httpBinding (operation : Shape) : Except Fault Binding :=
  match operation.traits.http with
  | some http => .ok (.ofHttp http)
  | none => .error (.missingTrait operation.id .http)

def restJson : Protocol where
  id := .restJson1
  marker := serverMarker "RestJson1"
  router := serverRouter
  binding _ := httpBinding
  genericError p _ := genericErrorFunction p [.line (genericErrorCall "rest_json" headersAndBody p)]

/-- The call that reads a generic error in XML. -/
def xmlErrorCall (p : Project) : String := genericErrorCall "rest_xml" "response.body().as_ref()" p

def restXml : Protocol where
  id := .restXml
  marker := serverMarker "RestXml"
  router := serverRouter
  binding _ := httpBinding
  genericError p _ := genericErrorFunction p [.line (xmlErrorCall p)]

/-! ## JSON calls -/

/-- The binding by a target, which the first service that has the operation names. -/
def targetBinding (model : Model) (operation : Shape) : Except Fault Binding :=
  match model.toList.find? fun shape => shape.kind = .service ∧ operation.id ∈ shape.references with
  | some service => .ok (.call s!"{service.id.name}.{operation.id.name}")
  | none => .error (.unboundOperation operation.id)

/-- Calls in a version of the protocol. -/
def jsonCalls (id : WireProtocol) (markerName : String) : Protocol where
  id
  marker := serverMarker markerName
  router := serverRouter
  binding := targetBinding
  genericError p _ := genericErrorFunction p [.line (genericErrorCall "aws_json" headersAndBody p)]

/-! ## All of them -/

def standard : List Protocol :=
  [restJson, restXml, jsonCalls .awsJson1_0 "AwsJson1_0", jsonCalls .awsJson1_1 "AwsJson1_1"]

/-- The standard protocols by id. -/
def standardMap : ProtocolMap := .ofList (standard.map fun p => (p.id, p))

end SdkForge.Protocol
