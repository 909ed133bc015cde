import SdkForge.OrderedMap
import SdkForge.Shape

/-!
# Models

A model is a set of shapes by id in which every reference can be followed. It comes from a `Draft`,
whose shapes change freely until `Draft.build` adds the prelude and checks the references.
-/

namespace SdkForge

/-! ## Errors -/

/-- Why a trait's value is not what the trait takes. -/
inductive TraitFault where
  | notString
  | notEnumList
  | enumWithoutValue
  | badStatus
  | fieldNotString (name : String)
  | notBlame
  deriving DecidableEq, Repr

def TraitFault.reason : TraitFault → String
  | .notString => "expected a string"
  | .notEnumList => "expected an array of enum definitions"
  | .enumWithoutValue => "enum definition without `value`"
  | .badStatus => "`code` must be an HTTP status code"
  | .fieldNotString name => s!"expected string field `{name}`"
  | .notBlame => "expected \"client\" or \"server\""

/-- Why a model cannot be read, built or used. -/
inductive ModelError where
  | invalidShapeId (text : String) (fault : ShapeId.Fault)
  | missingShape (id : ShapeId)
  | unresolvedReference (shape target : ShapeId)
  | wrongKind (id : ShapeId) (expected actual : ShapeKind)
  | malformedTrait (shape : ShapeId) (traitId : String) (fault : TraitFault)
  | unsupportedKind (id : ShapeId) (kind : String)
  /-- A list without member, or a map without key or value. -/
  | missingPart (id : ShapeId) (part : String)
  /-- The document is no JSON, or not of the form of a model. -/
  | badDocument
  deriving DecidableEq, Repr

def ModelError.message : ModelError → String
  | .invalidShapeId text fault => s!"invalid shape id `{text}`: {fault.reason}"
  | .missingShape id => s!"shape `{id}` not found in model"
  | .unresolvedReference shape target =>
    s!"shape `{shape}` references `{target}`, which is not in the model"
  | .wrongKind id expected actual => s!"shape `{id}` is a {actual.name}, expected a {expected.name}"
  | .malformedTrait shape traitId fault =>
    s!"malformed trait `{traitId}` on `{shape}`: {fault.reason}"
  | .unsupportedKind id kind => s!"shape `{id}` has unsupported type `{kind}`"
  | .missingPart id part => s!"shape `{id}` has unsupported type `shape without `{part}``"
  | .badDocument => "failed to parse model JSON"

/-- Reads an id. -/
def ShapeId.read (text : String) : Except ModelError ShapeId :=
  (ShapeId.parse text).mapError (.invalidShapeId text)

/-! ## Models -/

/-- Shapes by id. -/
structure Model where
  shapes : OrderedMap ShapeId Shape := .empty
  deriving DecidableEq, Inhabited

namespace Model

/-- The shape with the id. -/
def get? (model : Model) (id : ShapeId) : Option Shape := model.shapes.get? id

def contains (model : Model) (id : ShapeId) : Bool := model.shapes.contains id

/-- The shapes by increasing id. -/
def toList (model : Model) : List Shape := model.shapes.values

def size (model : Model) : Nat := model.shapes.size

/-- The shape with the id, which has to be there. -/
def expect (model : Model) (id : ShapeId) : Except ModelError Shape :=
  (model.get? id).elim (.error (.missingShape id)) .ok

/-- The shape with the id, which has to be of the kind. -/
def expectKind (model : Model) (id : ShapeId) (kind : ShapeKind) : Except ModelError Shape := do
  let shape ← model.expect id
  if shape.kind = kind then return shape else throw (.wrongKind id kind shape.kind)

theorem expect_eq_ok {model : Model} {id : ShapeId} {shape : Shape} :
    model.expect id = .ok shape ↔ model.get? id = some shape := by
  unfold expect
  cases model.get? id <;> simp

/-- The operations of a service by increasing id, each once. -/
def operations (model : Model) (service : ShapeId) : Except ModelError (List Shape) := do
  let shape ← model.expectKind service .service
  (OrderedMap.ofList (shape.references.map (·, ()))).keys.mapM (model.expectKind · .operation)

/-- The shape that a member holds. -/
def memberTarget (model : Model) (member : Shape) : Except ModelError Shape :=
  match member.target? with
  | some target => model.expect target
  | none => throw (.wrongKind member.id .member member.kind)

theorem memberTarget_eq_ok {model : Model} {member shape : Shape} :
    model.memberTarget member = .ok shape ↔ ∃ target, member.target? = some target ∧
      model.get? target = some shape := by
  unfold memberTarget
  cases member.target? with
  | none => simp [throw, throwThe, MonadExceptOf.throw]
  | some target => simp [expect_eq_ok]

/-- Whether a member, or the shape it holds, is a stream. -/
def isStreaming (model : Model) (member : Shape) : Bool :=
  member.traits.streaming || ((member.target?.bind model.get?).map (·.traits.streaming)).getD false

/-- Whether a structure or union has a member that is a stream. -/
def hasStreamingMember (model : Model) (shape : Shape) : Bool :=
  (shape.members.filterMap model.get?).any model.isStreaming

/-! ## Drafts -/

/-- Shapes on their way to a model. -/
structure Draft where
  shapes : OrderedMap ShapeId Shape := .empty
  deriving Inhabited

/-- The shapes of the model, to be changed. -/
def toDraft (model : Model) : Draft := ⟨model.shapes⟩

/-- The namespace of the shapes that every model has. -/
def preludeNamespace : String := "smithy.api"

/-- The shapes that every model has unless it defines its own. -/
def prelude : List Shape :=
  ([("String", .string), ("Blob", .blob), ("Boolean", .boolean), ("Timestamp", .timestamp),
    ("Byte", .number .byte), ("Short", .number .short), ("Integer", .number .integer),
    ("Long", .number .long), ("Float", .number .float), ("Double", .number .double),
    ("BigInteger", .number .bigInteger), ("BigDecimal", .number .bigDecimal)] :
    List (String × ShapeBody)).map fun (name, body) =>
      { id := ⟨preludeNamespace, name, none⟩, body }

namespace Draft

def get? (draft : Draft) (id : ShapeId) : Option Shape := draft.shapes.get? id

/-- The draft with a shape, in place of one with its id. -/
def insert (draft : Draft) (shape : Shape) : Draft := ⟨draft.shapes.insert shape.id shape⟩

def erase (draft : Draft) (id : ShapeId) : Draft := ⟨draft.shapes.erase id⟩

/-- The draft with a trait added to a shape that is there. -/
def addTrait (draft : Draft) (id : ShapeId) (t : Trait) : Draft :=
  match draft.get? id with
  | some shape => ⟨draft.shapes.insert id (shape.withTrait t)⟩
  | none => draft

def ofList (shapes : List Shape) : Draft := shapes.foldl insert {}

/-- The draft of the images of the shapes, of which the last with an id counts. -/
def map (draft : Draft) (f : Shape → Shape) : Draft := ofList (draft.shapes.values.map f)

/-- The shapes with those of the prelude that have no shape of their id yet. -/
def withPrelude (shapes : OrderedMap ShapeId Shape) : OrderedMap ShapeId Shape :=
  prelude.foldl (fun m shape => if m.contains shape.id then m else m.insert shape.id shape) shapes

/-- The first reference of a shape that leads nowhere, its container counted last. -/
def unresolved (shapes : OrderedMap ShapeId Shape) (shape : Shape) : Option ModelError :=
  ((shape.references ++ shape.container?.toList).find? (!shapes.contains ·)).map
    (.unresolvedReference shape.id)

/-- The model of the shapes and the prelude, if every reference leads to one of them. -/
def build (draft : Draft) : Except ModelError Model :=
  let shapes := withPrelude draft.shapes
  (shapes.values.findSome? (unresolved shapes)).elim (.ok ⟨shapes⟩) .error

end Draft

end Model

end SdkForge
