import SdkForge.Model.Walk
import SdkForge.Symbol.Plain

/-!
# Stages of symbols

What is changed about the plain symbols: streams in envelopes, types that the server wraps, members
that contain their own structure, instances that streams do not have, and reserved names.
-/

namespace SdkForge.SymbolStage

/-- The module of the server's crate that has its types. -/
def serverTypes (crate : String) : String := s!"{crate}::types"

/-! ## Streams -/

/-- Whether a shape is a streaming member of an envelope. -/
def isEnvelopeStream (model : Model) (shape : Shape) : Except ModelError Bool :=
  match shape.container? with
  | none => return false
  | some container =>
    if model.isStreaming shape then return (← model.expect container).traits.isSynthetic
      else return false

/-- The runtime's stream. -/
def stream (crate : String) : Symbol :=
  { Symbol.external "ByteStream" (some (serverTypes crate)) with wrapped := true }

/-- A streaming member of an envelope has the runtime's stream as its type. It is always there: an
empty body is an empty stream. -/
def streams (model : Model) (crate : String) : SymbolStage := fun inner =>
  { inner with
    name := "streaming-shape"
    symbol := fun shape => do
      if ← Fault.ofModel (isEnvelopeStream model shape) then return stream crate
        else inner.symbol shape }

/-! ## Wrapped types -/

/-- The type of the server's crate that stands for what a shape holds in the end. -/
def wrapperWithin (model : Model) : Nat → Shape → Option String
  | 0, _ => none
  | fuel + 1, shape =>
    match shape.body with
    | .blob => if shape.traits.streaming then none else some "Blob"
    | .timestamp => some "DateTime"
    | .member _ next | .list next | .map _ next => (model.get? next).bind (wrapperWithin model fuel)
    | _ => none

/-- The type of the server's crate that stands for what a shape holds in the end. -/
def wrapper? (model : Model) (shape : Shape) : Option String :=
  wrapperWithin model (model.size + 1) shape

/-- The type with another one at its core. -/
def replaceCore (replacement : TypeExpr) : TypeExpr → TypeExpr
  | .named .. => replacement
  | .option inner => .option (replaceCore replacement inner)
  | .list inner => .list (replaceCore replacement inner)
  | .map key value => .map key (replaceCore replacement value)
  | .box inner => .box (replaceCore replacement inner)
  | .reference inner => .reference (replaceCore replacement inner)

/-- The symbol with the type of the server's crate at its core, unless it is wrapped already. -/
def wrap (model : Model) (crate : String) (shape : Shape) (symbol : Symbol) : Symbol :=
  match if symbol.wrapped then none else wrapper? model shape with
  | some name =>
    { symbol with type := replaceCore (.named name (some (serverTypes crate))) symbol.type,
                  wrapped := true }
  | none => symbol

/-- Blobs and points in time have the server's types. -/
def wrappers (model : Model) (crate : String) : SymbolStage := fun inner =>
  inner.mapSymbol "wrapper-types" (wrap model crate)

/-! ## Boxes -/

/-- Whether a member of a structure or union holds what leads back to it, other than through lists
and maps. -/
def isRecursive (model : Model) (shape : Shape) : Bool :=
  match shape.body with
  | .member container target =>
    ((model.get? container).any (·.isAggregate)) && model.reaches target container .cut
  | _ => false

/-- The symbol in a box, if the shape is recursive. -/
def boxRecursive (model : Model) (shape : Shape) (symbol : Symbol) : Symbol :=
  if isRecursive model shape then symbol.box else symbol

/-- A recursive member is put into a box. -/
def boxes (model : Model) : SymbolStage := fun inner =>
  inner.mapSymbol "recursive-shape-boxer" (boxRecursive model)

/-! ## Instances -/

/-- The symbol without equality, if the shape has a streaming member. -/
def dropEquality (model : Model) (shape : Shape) (symbol : Symbol) : Symbol :=
  if shape.isAggregate && model.hasStreamingMember shape then
    { symbol with derives := symbol.derives.filter fun i => i ≠ .partialEq ∧ i ≠ .eq }
  else symbol

/-- What holds a stream cannot be compared. -/
def streamInstances (model : Model) : SymbolStage := fun inner =>
  inner.mapSymbol "streaming-shape-metadata" (dropEquality model)

/-! ## Names -/

/-- The symbol with another name for a generated type whose name is reserved. -/
def escapeReserved (symbol : Symbol) : Symbol :=
  if symbol.isGenerated && Naming.isReservedType symbol.name then
    symbol.rename (Naming.escapeType symbol.name)
  else symbol

/-- No generated type has a reserved name, and no field. -/
def reservedNames : SymbolStage := fun inner =>
  { inner.mapSymbol "reserved-words" (fun _ symbol => escapeReserved symbol) with
    memberName := fun member => Naming.fieldName member.id.lastName }

end SdkForge.SymbolStage

namespace SdkForge

/-- The plain symbols of a project. -/
def plainChain (p : Project) : SymbolChain := .ofProvider (PlainSymbols.provider (.ofProject p))

/-- A chain with the stages that come after the one for streams. -/
def SymbolChain.complete (c : SymbolChain) (p : Project) : SymbolChain :=
  let wrapped :=
    if p.codegen.wrapperTypes then c.wrap (SymbolStage.wrappers p.model p.serverCrate) else c
  ((wrapped.wrap (SymbolStage.boxes p.model)).wrap (SymbolStage.streamInstances p.model)).wrap
    SymbolStage.reservedNames

/-- The symbols of generated code. -/
def symbolChain (p : Project) : SymbolChain :=
  ((plainChain p).wrap (SymbolStage.streams p.model p.serverCrate)).complete p

end SdkForge
