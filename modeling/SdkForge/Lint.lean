import SdkForge.Diagnostic
import SdkForge.Project

/-!
# Lints

A lint looks at a project and says what is wrong with it: a service without exactly one protocol, a
stream of something else than a blob, two operations that would give one field, a service without
operations.
-/

namespace SdkForge

/-- A check of a project. -/
structure Lint where
  name : String
  description : String
  check : Project → List Diagnostic

namespace Lint

/-- The phase that runs lints. -/
def phase : String := "validate"

/-- A diagnostic of a lint about a shape. -/
def report (severity : Severity) (message : String) (shape : ShapeId) : Diagnostic :=
  { severity, phase, message, location := some (toString shape) }

/-- A model that cannot be used as the lint needs it. -/
def unusable (e : ModelError) (shape : ShapeId) : List Diagnostic := [report .error e.message shape]

/-! ## The protocol -/

/-- What is wrong with the number of declared protocols. -/
def checkProtocols (service : Shape) : List Diagnostic :=
  match service.traits.protocols with
  | [_] => []
  | [] => [report .error "service declares no supported protocol trait" service.id]
  | several =>
    let names := ", ".intercalate (several.map toString)
    [report .error s!"service declares several protocols ({names}); exactly one is supported"
      service.id]

def protocol : Lint where
  name := "protocol"
  description := "Require exactly one supported protocol trait on the service"
  check p := match p.serviceShape with
    | .ok service => checkProtocols service
    | .error e => unusable e p.service

/-! ## Streams -/

/-- What is wrong with the target of a streaming member. -/
def checkStream (model : Model) (member : Shape) : List Diagnostic :=
  match model.memberTarget member with
  | .ok target =>
    if target.isBlob then []
    else [report .error
      s!"streaming member targets a {target.kind.name} (`{target.id}`), expected a blob" member.id]
  | .error e => unusable e member.id

def streamingTarget : Lint where
  name := "streaming-target"
  description := "Streaming members must target a blob"
  check p :=
    (p.model.toList.filter fun s => s.isMember && p.model.isStreaming s).flatMap
      (checkStream p.model)

/-! ## Names of operations -/

/-- The operations whose field an earlier one has; `seen` are the first operations of each field so
far. -/
def collisions (seen : List (String × ShapeId)) : List ShapeId → List (ShapeId × ShapeId × String)
  | [] => []
  | operation :: rest =>
    let field := Project.operationField operation
    match seen.lookup field with
    | some first => (first, operation, field) :: collisions seen rest
    | none => collisions ((field, operation) :: seen) rest

def operationNaming : Lint where
  name := "operation-naming"
  description := "Detect operations whose generated field names collide"
  check p := match p.operations with
    | .ok operations => (collisions [] (operations.map (·.id))).map fun (first, second, field) =>
        report .error s!"operations `{first}` and `{second}` both generate the field `{field}`"
          second
    | .error e => unusable e p.service

/-! ## Empty services -/

def emptyService : Lint where
  name := "empty-service"
  description := "Warn about services without operations"
  check p := match p.operations with
    | .ok [] => [report .warning "service has no operations" p.service]
    | _ => []

/-- The lints of every run, in their order. -/
def all : List Lint := [protocol, streamingTarget, operationNaming, emptyService]

end Lint

end SdkForge
