import SdkForge.Binding
import SdkForge.Project

/-!
# Protocols

A protocol knows how requests reach an operation and how responses are read. A service has to
declare exactly one, for which `Protocol.resolve` finds the generator.
-/

namespace SdkForge

/-- The generator for a wire protocol. -/
structure Protocol where
  id : WireProtocol
  /-- The type that stands for the protocol at run time. -/
  marker : Project → String
  /-- The type that dispatches requests. -/
  router : Project → String
  /-- Which requests reach an operation of a model. -/
  binding : Model → Shape → Except Fault Binding
  /-- The function that reads an error of which only the envelope is known. -/
  genericError : Project → Shape → Fragment

/-- The generators by protocol. -/
abbrev ProtocolMap := OrderedMap WireProtocol Protocol

/-- The generator for the one protocol that a service declares. -/
def Protocol.resolve (service : Shape) (protocols : ProtocolMap) : Except Fault Protocol :=
  let declared := service.traits.protocols
  match declared with
  | [id] => (protocols.get? id).elim (.error (.unsupportedProtocol service.id declared)) .ok
  | _ => .error (.unsupportedProtocol service.id declared)

end SdkForge
