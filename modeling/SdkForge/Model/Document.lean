import SdkForge.JsonValue.Reader
import SdkForge.Model

/-!
# Models written as JSON

A document lists shapes by id. `Document.ofJson?` checks the form of the document, `Document.drafts`
makes shapes of its entries, and `Model.ofText` goes all the way from text to model.

A record of the document may be an object, whose unknown fields do not matter and whose known fields
stand once, or an array of the fields in their order.
-/

namespace SdkForge

/-! ## The form of a document -/

/-- A member as a document describes it. -/
structure MemberEntry where
  target : String
  traits : List (String × JsonValue)

/-- A shape as a document describes it. -/
structure ShapeEntry where
  kind : String
  members : List (String × MemberEntry)
  member : Option MemberEntry
  key : Option MemberEntry
  value : Option MemberEntry
  input : Option String
  output : Option String
  errors : List String
  version : String
  operations : List String
  traits : List (String × JsonValue)

/-- The shapes of a document, in their order. -/
structure Document where
  shapes : List (String × ShapeEntry)

namespace Document

/-- What stands at the place of a field. -/
inductive Place where
  | given (json : JsonValue)
  /-- The object does not have the field. -/
  | absent
  /-- The array ends before the field. -/
  | beyond

/-- The places of the named fields in a record. -/
def places (names : List String) : JsonValue → Option (List Place)
  | .object fields =>
    if fields.all (·.1.isSome) then
      names.mapM fun name => match fields.filter (·.1 == some name) with
        | [] => some .absent
        | [(_, json)] => some (.given json)
        | _ => none
    else none
  | .array items =>
    if items.length ≤ names.length then
      some (items.map .given ++ List.replicate (names.length - items.length) .beyond)
    else none
  | _ => none

/-- A field that has to be there. -/
def Place.required (read : JsonValue → Option α) : Place → Option α
  | .given json => read json
  | _ => none

/-- A field that stands for `default` where it is missing. -/
def Place.orDefault (default : α) (read : JsonValue → Option α) : Place → Option α
  | .given json => read json
  | _ => some default

/-- A field that may be missing or null; an array has to reach it. -/
def Place.optional (read : JsonValue → Option α) : Place → Option (Option α)
  | .given .null | .absent => some none
  | .given json => (read json).map some
  | .beyond => none

/-- The entries of a map: a repeated key keeps its first place and its last value. -/
def entries? (read : JsonValue → Option α) : JsonValue → Option (List (String × α))
  | .object fields => do
    let read ← fields.mapM fun (name, json) => return (← name, ← read json)
    return read.foldl put []
  | _ => none
where
  put (entries : List (String × α)) (entry : String × α) : List (String × α) :=
    if entries.any (·.1 == entry.1) then entries.map fun e => if e.1 == entry.1 then entry else e
    else entries ++ [entry]

/-- How deep arrays and objects may nest in a document. -/
def depth : Nat := 128

/-- The values of traits, in a record that is `outer` levels deep. -/
def traits? (outer : Nat) : JsonValue → Option (List (String × JsonValue)) :=
  entries? fun json => if json.isSound (depth - outer) then some json else none

def memberEntry? (json : JsonValue) : Option MemberEntry := do
  let [target, traits] ← places ["target", "traits"] json | none
  return { target := ← target.required JsonValue.text?,
           traits := ← traits.orDefault [] (traits? 6) }

/-- As `memberEntry?`, for the members that a shape names itself. -/
def partEntry? (json : JsonValue) : Option MemberEntry := do
  let [target, traits] ← places ["target", "traits"] json | none
  return { target := ← target.required JsonValue.text?,
           traits := ← traits.orDefault [] (traits? 5) }

def target? (json : JsonValue) : Option String := do
  let [target] ← places ["target"] json | none
  target.required JsonValue.text?

def targets? (json : JsonValue) : Option (List String) := json.items?.bind (·.mapM target?)

def shapeEntry? (json : JsonValue) : Option ShapeEntry := do
  let [kind, members, member, key, value, input, output, errors, version, operations, traits] ←
    places ["type", "members", "member", "key", "value", "input", "output", "errors", "version",
      "operations", "traits"] json | none
  return {
    kind := ← kind.required JsonValue.text?
    members := ← members.orDefault [] (entries? memberEntry?)
    member := ← member.optional partEntry?
    key := ← key.optional partEntry?
    value := ← value.optional partEntry?
    input := ← input.optional target?
    output := ← output.optional target?
    errors := ← errors.orDefault [] targets?
    version := ← version.orDefault "" JsonValue.text?
    operations := ← operations.orDefault [] targets?
    traits := ← traits.orDefault [] (traits? 4) }

/-- The document that a value describes, if it has the form of one. -/
def ofJson? (json : JsonValue) : Option Document := do
  let [shapes] ← places ["shapes"] json | none
  return { shapes := ← shapes.orDefault [] (entries? shapeEntry?) }

/-! ## Traits -/

/-- The trait that the value of an enum's member carries. -/
def enumValueId : String := "smithy.api#enumValue"

/-- The trait of an id and a value; nothing for an id that is not known. -/
def readTrait (shape : ShapeId) (traitId : String) (json : JsonValue) :
    Except ModelError (Option Trait) :=
  let malformed {α : Type} (fault : TraitFault) : Except ModelError α :=
    .error (.malformedTrait shape traitId fault)
  let text := json.text?.elim (malformed .notString) .ok
  let field (name : String) := (json.textField? name).elim (malformed (.fieldNotString name)) .ok
  match TraitKind.ofId? traitId with
  | none => return none
  | some kind => some <$> match kind with
    | .protocol p => return .protocol p
    | .documentation => .documentation <$> text
    | .required => return .required
    | .streaming => return .streaming
    | .pattern => .pattern <$> text
    | .enum => do
      let items ← json.items?.elim (malformed .notEnumList) .ok
      .enum <$> items.mapM fun item =>
        match item.textField? "value" with
        | some value => return ⟨value, item.textField? "name"⟩
        | none => malformed .enumWithoutValue
    | .http => do
      let code ← match json.field? "code" with
        | none => pure 200
        | some (.number n) => n.toUInt16?.elim (malformed .badStatus) .ok
        | some _ => malformed .badStatus
      return .http { method := ← field "method", uri := ← field "uri", code }
    | .error => match json.text? with
      | some "client" => return .error .client
      | some "server" => return .error .server
      | _ => malformed .notBlame
    | .syntheticInput => do return .syntheticInput (← ShapeId.read (← field "operation"))
    | .syntheticOutput => do return .syntheticOutput (← ShapeId.read (← field "operation"))
    | .refactoredMember => do return .refactoredMember (← ShapeId.read (← field "originalSource"))
    | .allowInvalidXmlRoot => return .allowInvalidXmlRoot

/-- The traits of a shape; those that are not known are dropped. -/
def readTraits (shape : ShapeId) (entries : List (String × JsonValue)) :
    Except ModelError Traits := do
  let traits ← entries.mapM fun (traitId, json) => readTrait shape traitId json
  return Traits.ofList (traits.filterMap (·))

/-! ## Shapes -/

/-- The member of a shape. -/
def readMember (id : ShapeId) (name : String) (entry : MemberEntry) : Except ModelError Shape := do
  let target ← ShapeId.read entry.target
  return { Shape.ofMember (id.withMember name) target with traits :=
                                                             ← readTraits (id.withMember name)
                                                             entry.traits }

/-- The id that an operation names, unless it is the one that stands for nothing. -/
def readEnd (target : Option String) : Except ModelError (Option ShapeId) :=
  (target.filter (· != "smithy.api#Unit")).mapM ShapeId.read

/-- The kinds without parts. -/
def simpleBody? : String → Option ShapeBody
  | "string" | "enum" => some .string
  | "boolean" => some .boolean
  | "blob" => some .blob
  | "timestamp" => some .timestamp
  | "byte" => some (.number .byte)
  | "short" => some (.number .short)
  | "integer" => some (.number .integer)
  | "long" => some (.number .long)
  | "float" => some (.number .float)
  | "double" => some (.number .double)
  | "bigInteger" => some (.number .bigInteger)
  | "bigDecimal" => some (.number .bigDecimal)
  | _ => none

/-- The members that a shape brings along, and its body. -/
def readBody (id : ShapeId) (entry : ShapeEntry) : Except ModelError (List Shape × ShapeBody) :=
  let part (name : String) (entry : Option MemberEntry) :=
    entry.elim (.error (.missingPart id name)) .ok
  let named := entry.members.mapM fun (name, member) => readMember id name member
  match entry.kind with
  | "structure" => do let members ← named; return (members, .record (members.map (·.id)))
  | "union" => do let members ← named; return (members, .union (members.map (·.id)))
  | "list" | "set" => do
    let member ← readMember id "member" (← part "member" entry.member)
    return ([member], .list member.id)
  | "map" => do
    let key ← part "key" entry.key
    let value ← part "value" entry.value
    let key ← readMember id "key" key
    let value ← readMember id "value" value
    return ([key, value], .map key.id value.id)
  | "operation" => do
    return ([], .operation (← readEnd entry.input) (← readEnd entry.output)
      (← entry.errors.mapM ShapeId.read))
  | "service" => return ([], .service entry.version (← entry.operations.mapM ShapeId.read))
  | kind => (simpleBody? kind).elim (.error (.unsupportedKind id kind)) fun body => .ok ([], body)

/-- The values of an enum, one per member, by the member's trait or else its name. -/
def enumValues (entry : ShapeEntry) : List EnumValue :=
  entry.members.map fun (name, member) =>
    let given := (member.traits.find? (·.1 == enumValueId)).bind (·.2.text?)
    ⟨given.getD name, some name⟩

/-- The shapes of an entry: its members, then itself. -/
def readShape (rawId : String) (entry : ShapeEntry) : Except ModelError (List Shape) := do
  let id ← ShapeId.read rawId
  let (members, body) ← readBody id entry
  let traits ← readTraits id entry.traits
  let traits := if entry.kind = "enum" then traits.insert (.enum (enumValues entry)) else traits
  return members ++ [{ id, traits, body }]

/-- The shapes of a document, in their order. -/
def draft (document : Document) : Except ModelError Model.Draft := do
  let shapes ← document.shapes.mapM fun (rawId, entry) => readShape rawId entry
  return .ofList shapes.flatten

end Document

/-- Reads a model. -/
def Model.ofText (text : String) : Except ModelError Model := do
  let document ← ((JsonValue.parse text).bind Document.ofJson?).elim (.error .badDocument) .ok
  (← document.draft).build

end SdkForge
