import SdkForge.Model

/-!
# Envelopes of operations

Generated code takes the input of an operation, and gives its output, as a structure of the
operation's own. Normalizing a model gives every operation such an envelope: a structure in a
synthetic namespace, with copies of the members of the structure that the operation named. A shape
that already carries the envelope's marker is kept as it is.
-/

namespace SdkForge

/-- The two ends of an operation. -/
inductive Envelope where
  | input | output
  deriving DecidableEq, Repr

namespace Envelope

/-- What an envelope's name ends in. -/
def ending : Envelope → String
  | .input => "Input"
  | .output => "Output"

/-- The trait that marks the envelope of an operation. -/
def marker (operation : ShapeId) : Envelope → Trait
  | .input => .syntheticInput operation
  | .output => .syntheticOutput operation

/-- Whether a shape is an envelope of this end already. -/
def marks (ts : Traits) : Envelope → Bool
  | .input => ts.syntheticInput.isSome
  | .output => ts.syntheticOutput.isSome

/-- What the namespaces of envelopes end in. -/
def namespaceEnding : String := ".synthetic"

/-- The id of an operation's envelope. -/
def id (envelope : Envelope) (operation : ShapeId) : ShapeId :=
  ⟨operation.ns ++ namespaceEnding, operation.name ++ envelope.ending, none⟩

/-- The traits of an envelope made from a shape with `ts`. -/
def traits (envelope : Envelope) (operation : ShapeId) (ts : Traits) : Traits :=
  ((ts.erase .syntheticInput).erase .syntheticOutput).insert (envelope.marker operation)

/-- The copy of a member in the structure `owner`, if `shape` is a member. -/
def copyMember (owner : ShapeId) (source : ShapeId) (shape : Shape) : Option Shape :=
  shape.target?.map fun target =>
    { Shape.ofMember (owner.withMember source.lastName) target with
      traits := shape.traits.insert (.refactoredMember source) }

/-- The copies of the members of a shape. -/
def copyMembers (model : Model) (owner : ShapeId) (source : Option Shape) :
    Except ModelError (List Shape) := do
  let members := (source.map (·.members)).getD []
  return (← members.mapM fun id => return copyMember owner id (← model.expect id)).filterMap (·)

/-- The shapes that make up the envelope of a source, and the envelope's id. A marked source makes
none. -/
def wrap (envelope : Envelope) (model : Model) (operation : ShapeId) (source : Option ShapeId) :
    Except ModelError (List Shape × ShapeId) := do
  let source ← source.mapM model.expect
  match source.filter (marks ·.traits envelope) with
  | some marked => return ([], marked.id)
  | none =>
    let id := envelope.id operation
    let members ← copyMembers model id source
    let body := ShapeBody.record (members.map (·.id))
    let ts := (source.map (·.traits)).getD {}
    return (members ++ [{ id, traits := envelope.traits operation ts, body }], id)

end Envelope

namespace Model

/-- The shapes that normalization puts in for an operation: its envelopes, and the operation that
points at them. -/
def normalizeOperation (model : Model) (shape : Shape) : Except ModelError (List Shape) :=
  match shape.body with
  | .operation input output errors => do
    let (inputs, input) ← Envelope.input.wrap model shape.id input
    let (outputs, output) ← Envelope.output.wrap model shape.id output
    return inputs ++ outputs ++
      [{ shape with body := .operation (some input) (some output) errors }]
  | _ => return []

/-- The model in which every operation has envelopes of its own. -/
def normalize (model : Model) : Except ModelError Model := do
  let changes ← model.toList.mapM model.normalizeOperation
  (changes.flatten.foldl Draft.insert model.toDraft).build

end Model

end SdkForge
