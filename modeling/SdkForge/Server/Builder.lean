import SdkForge.Server.Router

/-!
# Building services

A builder has a slot for each operation that is declared. A slot is filled by the operation's
handler, wrapped by the plugin in force at that time. `build` gives a router if all slots are
filled, and `buildUnchecked` fills those that are not with a handler that fails.
-/

namespace SdkForge.Server

/-! ## Missing operations -/

/-- Operations of a service that have no handler, each with the function that sets one. -/
structure MissingOperations where
  service : String
  entries : List (String × String) := []
  deriving DecidableEq, Repr

namespace MissingOperations

def operations (m : MissingOperations) : List String := m.entries.map (·.1)

def setters (m : MissingOperations) : List String := m.entries.map (·.2)

/-- A list with one text a line. -/
def bullets (texts : List String) : String := String.join (texts.map fun text => s!"- {text}\n")

def message (m : MissingOperations) : String :=
  s!"You must specify a handler for all operations attached to `{m.service}`.\n" ++
    "We are missing handlers for the following operations:\n" ++ bullets m.operations ++
    s!"\nUse the dedicated methods on `{m.service}Builder` to register the missing handlers:\n" ++
      bullets m.setters

end MissingOperations

/-! ## Plugins -/

/-- A change to the service of an operation. -/
abbrev Plugin := String → Service → Service

namespace Plugin

/-- The plugin that changes nothing. -/
def identity : Plugin := fun _ service => service

/-- Two plugins, of which the first is the inner one. -/
def pair (first second : Plugin) : Plugin :=
  fun operation service => second operation (first operation service)

end Plugin

/-- The header that names an operation without a handler. -/
def missingHandlerHeader : String := "x-kiln-missing-handler"

/-- The service of an operation without a handler. -/
def failOnMissing (operation : String) : Service := fun _ =>
  ({ status := 500, body := s!"no handler registered for operation `{operation}`" } :
    Http.Response).append missingHandlerHeader operation

/-! ## Builders -/

/-- The place of an operation. -/
structure Slot where
  operation : String
  setter : String
  spec : RequestSpec
  /-- The service of the operation, once it is set. -/
  service : Option Service := none

/-- A service under construction. -/
structure ServiceBuilder where
  name : String
  plugin : Plugin := .identity
  slots : List Slot := []

/-- Why a builder refuses an operation. -/
inductive BuilderError where
  | duplicateOperation (service operation : String)
  | unknownOperation (service operation : String)
  deriving DecidableEq, Repr

def BuilderError.message : BuilderError → String
  | .duplicateOperation service operation =>
    s!"operation `{operation}` is declared twice on `{service}`"
  | .unknownOperation service operation => s!"`{service}` has no operation `{operation}`"

namespace ServiceBuilder

/-- Whether an operation is declared. -/
def declares (b : ServiceBuilder) (operation : String) : Bool :=
  b.slots.any (·.operation == operation)

/-- Declares an operation. -/
def declare (b : ServiceBuilder) (operation setter : String) (spec : RequestSpec) :
    Except BuilderError ServiceBuilder :=
  if b.declares operation then .error (.duplicateOperation b.name operation)
  else .ok { b with slots := b.slots ++ [{ operation, setter, spec }] }

/-- Sets the handler of an operation, in place of an earlier one. -/
def set (b : ServiceBuilder) (operation : String) (handler : Service) :
    Except BuilderError ServiceBuilder :=
  if b.declares operation then
    .ok { b with slots := b.slots.map fun slot =>
      if slot.operation = operation then { slot with service := some (b.plugin operation handler) }
        else slot }
  else .error (.unknownOperation b.name operation)

/-- Puts another plugin in force. -/
def withPlugin (b : ServiceBuilder) (plugin : Plugin) : ServiceBuilder := { b with plugin }

/-- Whether an operation has a handler. -/
def isSet (b : ServiceBuilder) (operation : String) : Bool :=
  b.slots.any fun slot => slot.operation == operation && slot.service.isSome

/-- The slots without a handler. -/
def unsetSlots (b : ServiceBuilder) : List Slot := b.slots.filter (·.service.isNone)

/-- The operations without a handler. -/
def unset (b : ServiceBuilder) : List String := b.unsetSlots.map (·.operation)

/-- The operations without a handler by name, each with the call that sets one. -/
def missing (b : ServiceBuilder) : MissingOperations where
  service := b.name
  entries :=
    (b.unsetSlots.mergeSort fun s t => (compare s.operation t.operation).isLE).map fun slot =>
      (slot.operation, s!".{slot.setter}()")

/-- The router of the services, if there is one for every operation. -/
def build (b : ServiceBuilder) (protocol : WireProtocol) :
    Except MissingOperations (Router Service) :=
  if b.unset.isEmpty then
    .ok (.ofList protocol (b.slots.filterMap fun slot => slot.service.map (slot.spec, ·)))
  else .error b.missing

/-- The service of a slot, which fails if there is no handler. -/
def serviceOf (b : ServiceBuilder) (slot : Slot) : Service :=
  slot.service.getD (b.plugin slot.operation (failOnMissing slot.operation))

/-- The router of the services, some of which may fail. -/
def buildUnchecked (b : ServiceBuilder) (protocol : WireProtocol) : Router Service :=
  .ofList protocol (b.slots.map fun slot => (slot.spec, b.serviceOf slot))

end ServiceBuilder

end SdkForge.Server
