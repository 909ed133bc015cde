import SdkForge.Trait

/-!
# Shapes

A shape is a node of a model: an id, its traits, and a body that says what kind of shape it is and
which other shapes it refers to.
-/

namespace SdkForge

/-- The kinds of number. -/
inductive NumberKind where
  | byte | short | integer | long | float | double | bigInteger | bigDecimal
  deriving DecidableEq, Repr

/-- The kinds of shape. -/
inductive ShapeKind where
  | record | union | member | operation | service | string
  | number (kind : NumberKind)
  | boolean | blob | timestamp | list | map
  deriving DecidableEq, Repr

def NumberKind.name : NumberKind → String
  | .byte => "byte"
  | .short => "short"
  | .integer => "integer"
  | .long => "long"
  | .float => "float"
  | .double => "double"
  | .bigInteger => "bigInteger"
  | .bigDecimal => "bigDecimal"

/-- The kind as a model names it. -/
def ShapeKind.name : ShapeKind → String
  | .record => "structure"
  | .union => "union"
  | .member => "member"
  | .operation => "operation"
  | .service => "service"
  | .string => "string"
  | .number kind => kind.name
  | .boolean => "boolean"
  | .blob => "blob"
  | .timestamp => "timestamp"
  | .list => "list"
  | .map => "map"

namespace ShapeKind

def all : List ShapeKind :=
  [record, union, member, operation, service, string, boolean, blob, timestamp, list, map] ++
    [NumberKind.byte, .short, .integer, .long, .float, .double, .bigInteger, .bigDecimal].map number

def ofName? (name : String) : Option ShapeKind := all.find? (·.name == name)

end ShapeKind

/-- What a shape is made of. -/
inductive ShapeBody where
  /-- A structure with its members, in the order of their declaration. -/
  | record (members : List ShapeId)
  | union (members : List ShapeId)
  /-- A place in `container` that holds a `target`. -/
  | member (container target : ShapeId)
  | operation (input output : Option ShapeId) (errors : List ShapeId)
  | service (version : String) (operations : List ShapeId)
  | string
  | number (kind : NumberKind)
  | boolean
  | blob
  | timestamp
  /-- A list, with the member that says what it holds. -/
  | list (member : ShapeId)
  | map (key value : ShapeId)
  deriving DecidableEq, Inhabited, Repr

/-- A node of a model. -/
structure Shape where
  id : ShapeId
  traits : Traits := {}
  body : ShapeBody
  deriving DecidableEq, Inhabited, Repr

namespace Shape

/-- A member of the shape that its id names. -/
def ofMember (id target : ShapeId) : Shape := { id, body := .member id.root target }

def withTrait (shape : Shape) (t : Trait) : Shape := { shape with traits := shape.traits.insert t }

def kind (shape : Shape) : ShapeKind :=
  match shape.body with
  | .record _ => .record
  | .union _ => .union
  | .member .. => .member
  | .operation .. => .operation
  | .service .. => .service
  | .string => .string
  | .number kind => .number kind
  | .boolean => .boolean
  | .blob => .blob
  | .timestamp => .timestamp
  | .list _ => .list
  | .map .. => .map

/-- The members of a structure or union. -/
def members (shape : Shape) : List ShapeId :=
  match shape.body with
  | .record members | .union members => members
  | _ => []

/-- The shape that a member stands in. -/
def container? (shape : Shape) : Option ShapeId :=
  match shape.body with
  | .member container _ => some container
  | _ => none

/-- The shape that a member holds. -/
def target? (shape : Shape) : Option ShapeId :=
  match shape.body with
  | .member _ target => some target
  | _ => none

/-- The shapes that the shape refers to, in the order of their declaration. -/
def references (shape : Shape) : List ShapeId :=
  match shape.body with
  | .record members | .union members => members
  | .member _ target => [target]
  | .operation input output errors => input.toList ++ output.toList ++ errors
  | .service _ operations => operations
  | .list member => [member]
  | .map key value => [key, value]
  | .string | .number _ | .boolean | .blob | .timestamp => []

def isRecord (shape : Shape) : Bool := shape.kind = .record
def isUnion (shape : Shape) : Bool := shape.kind = .union
def isMember (shape : Shape) : Bool := shape.kind = .member
def isOperation (shape : Shape) : Bool := shape.kind = .operation
def isBlob (shape : Shape) : Bool := shape.kind = .blob

/-- A structure or union. -/
def isAggregate (shape : Shape) : Bool := shape.isRecord || shape.isUnion

/-- A list or map. -/
def isCollection (shape : Shape) : Bool := shape.kind = .list || shape.kind = .map

end Shape

end SdkForge
