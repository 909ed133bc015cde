import SdkForge.ShapeId

/-!
# Traits

A trait is a fact about a shape: its documentation, that a member is required, how an operation
binds to HTTP. A shape has at most one trait of a kind, so `Traits` is a record with one place per
kind; `get?`, `insert` and `erase` reach the places by kind, and `toList` lists what is there in the
order of `TraitKind.all`.
-/

namespace SdkForge

/-! ## Protocols -/

/-- A wire protocol that a service can declare. -/
inductive WireProtocol where
  | restJson1 | restXml | awsJson1_0 | awsJson1_1
  deriving DecidableEq, Inhabited, Repr

namespace WireProtocol

def all : List WireProtocol := [.restJson1, .restXml, .awsJson1_0, .awsJson1_1]

protected def toString : WireProtocol → String
  | .restJson1 => "restJson1"
  | .restXml => "restXml"
  | .awsJson1_0 => "awsJson1_0"
  | .awsJson1_1 => "awsJson1_1"

instance : ToString WireProtocol := ⟨WireProtocol.toString⟩

def ofName? (name : String) : Option WireProtocol := all.find? (toString · == name)

/-- The place of the protocol in `all`. -/
def rank : WireProtocol → Nat
  | .restJson1 => 0
  | .restXml => 1
  | .awsJson1_0 => 2
  | .awsJson1_1 => 3

theorem rank_injective {a b : WireProtocol} (h : a.rank = b.rank) : a = b := by
  cases a <;> cases b <;> simp_all [rank]

/-- The order of `all`. -/
def order : WireProtocol → WireProtocol → Ordering := compareOn rank

instance : Ord WireProtocol := ⟨order⟩

instance : Std.TransOrd WireProtocol := inferInstanceAs (Std.TransCmp (compareOn rank))

instance : Std.LawfulEqOrd WireProtocol where
  eq_of_compare {a b} h := by
    have h : compare a.rank b.rank = .eq := h
    exact rank_injective (Std.LawfulEqCmp.eq_of_compare h)

/-- The id of the trait that declares the protocol. -/
def traitId (p : WireProtocol) : String := "aws.protocols#" ++ toString p

def ofTraitId? (id : String) : Option WireProtocol := all.find? (·.traitId == id)

end WireProtocol

/-! ## Traits -/

/-- Who is to blame for an error. -/
inductive Blame where
  | client | server
  deriving DecidableEq, Repr

protected def Blame.toString : Blame → String
  | .client => "client"
  | .server => "server"

instance : ToString Blame := ⟨Blame.toString⟩

/-- A value of a string enum, and the name it goes by. -/
structure EnumValue where
  value : String
  name : Option String
  deriving DecidableEq, Repr

/-- How an operation binds to HTTP. -/
structure HttpBinding where
  method : String
  uri : String
  code : UInt16 := 200
  deriving DecidableEq, Repr

/-- A fact about a shape. -/
inductive Trait where
  | documentation (text : String)
  | required
  | streaming
  | pattern (regex : String)
  | enum (values : List EnumValue)
  | http (binding : HttpBinding)
  | error (blame : Blame)
  | protocol (p : WireProtocol)
  /-- The shape is the input envelope of the operation. -/
  | syntheticInput (operation : ShapeId)
  /-- The shape is the output envelope of the operation. -/
  | syntheticOutput (operation : ShapeId)
  /-- The member was copied from another one. -/
  | refactoredMember (source : ShapeId)
  | allowInvalidXmlRoot
  deriving DecidableEq, Repr

/-- The kinds of trait; a shape has one trait of a kind at most. -/
inductive TraitKind where
  | documentation | required | streaming | pattern | enum | http | error
  | protocol (p : WireProtocol)
  | syntheticInput | syntheticOutput | refactoredMember | allowInvalidXmlRoot
  deriving DecidableEq, Repr

namespace TraitKind

/-- The kinds in the order in which traits are listed. -/
def all : List TraitKind :=
  [documentation, required, streaming, pattern, enum, http, error] ++
    WireProtocol.all.map protocol ++ [syntheticInput, syntheticOutput, refactoredMember,
      allowInvalidXmlRoot]

/-- The shape id of the trait. -/
def id : TraitKind → String
  | documentation => "smithy.api#documentation"
  | required => "smithy.api#required"
  | streaming => "smithy.api#streaming"
  | pattern => "smithy.api#pattern"
  | enum => "smithy.api#enum"
  | http => "smithy.api#http"
  | error => "smithy.api#error"
  | protocol p => p.traitId
  | syntheticInput => "kiln.synthetic#syntheticInput"
  | syntheticOutput => "kiln.synthetic#syntheticOutput"
  | refactoredMember => "smithy.api.internal#refactoredMember"
  | allowInvalidXmlRoot => "kiln.synthetic#allowInvalidXmlRoot"

def ofId? (id : String) : Option TraitKind := all.find? (·.id == id)

end TraitKind

def Trait.kind : Trait → TraitKind
  | .documentation _ => .documentation
  | .required => .required
  | .streaming => .streaming
  | .pattern _ => .pattern
  | .enum _ => .enum
  | .http _ => .http
  | .error _ => .error
  | .protocol p => .protocol p
  | .syntheticInput _ => .syntheticInput
  | .syntheticOutput _ => .syntheticOutput
  | .refactoredMember _ => .refactoredMember
  | .allowInvalidXmlRoot => .allowInvalidXmlRoot

/-! ## The traits of a shape -/

/-- The traits of one shape. -/
structure Traits where
  documentation : Option String := none
  required : Bool := false
  streaming : Bool := false
  pattern : Option String := none
  enumValues : Option (List EnumValue) := none
  http : Option HttpBinding := none
  error : Option Blame := none
  /-- The declared protocols, in the order of `WireProtocol.all`. -/
  protocols : List WireProtocol := []
  /-- The operation whose input the shape wraps. -/
  syntheticInput : Option ShapeId := none
  /-- The operation whose output the shape wraps. -/
  syntheticOutput : Option ShapeId := none
  /-- The member that this one was copied from. -/
  refactoredFrom : Option ShapeId := none
  allowInvalidXmlRoot : Bool := false
  deriving DecidableEq, Inhabited, Repr

namespace Traits

/-- A trait that is there or not. -/
def given (present : Bool) (t : Trait) : Option Trait := if present then some t else none

@[simp] theorem given_true (t : Trait) : given true t = some t := rfl
@[simp] theorem given_false (t : Trait) : given false t = none := rfl

/-- The trait of a kind. -/
def get? (ts : Traits) : TraitKind → Option Trait
  | .documentation => ts.documentation.map .documentation
  | .required => given ts.required .required
  | .streaming => given ts.streaming .streaming
  | .pattern => ts.pattern.map .pattern
  | .enum => ts.enumValues.map .enum
  | .http => ts.http.map .http
  | .error => ts.error.map .error
  | .protocol p => given (ts.protocols.contains p) (.protocol p)
  | .syntheticInput => ts.syntheticInput.map .syntheticInput
  | .syntheticOutput => ts.syntheticOutput.map .syntheticOutput
  | .refactoredMember => ts.refactoredFrom.map .refactoredMember
  | .allowInvalidXmlRoot => given ts.allowInvalidXmlRoot .allowInvalidXmlRoot

/-- Whether there is a trait of the kind. -/
def has (ts : Traits) (kind : TraitKind) : Bool := (ts.get? kind).isSome

/-- The traits with one more, in place of one of its kind. -/
def insert (ts : Traits) : Trait → Traits
  | .documentation text => { ts with documentation := some text }
  | .required => { ts with required := true }
  | .streaming => { ts with streaming := true }
  | .pattern regex => { ts with pattern := some regex }
  | .enum values => { ts with enumValues := some values }
  | .http binding => { ts with http := some binding }
  | .error blame => { ts with error := some blame }
  | .protocol p =>
    { ts with protocols := WireProtocol.all.filter fun q => q == p || ts.protocols.contains q }
  | .syntheticInput operation => { ts with syntheticInput := some operation }
  | .syntheticOutput operation => { ts with syntheticOutput := some operation }
  | .refactoredMember source => { ts with refactoredFrom := some source }
  | .allowInvalidXmlRoot => { ts with allowInvalidXmlRoot := true }

/-- The traits without those of a kind. -/
def erase (ts : Traits) : TraitKind → Traits
  | .documentation => { ts with documentation := none }
  | .required => { ts with required := false }
  | .streaming => { ts with streaming := false }
  | .pattern => { ts with pattern := none }
  | .enum => { ts with enumValues := none }
  | .http => { ts with http := none }
  | .error => { ts with error := none }
  | .protocol p => { ts with protocols := ts.protocols.filter (· ≠ p) }
  | .syntheticInput => { ts with syntheticInput := none }
  | .syntheticOutput => { ts with syntheticOutput := none }
  | .refactoredMember => { ts with refactoredFrom := none }
  | .allowInvalidXmlRoot => { ts with allowInvalidXmlRoot := false }

/-- The traits that a list gives, of which the last of a kind counts. -/
def ofList (traits : List Trait) : Traits := traits.foldl insert {}

/-- The traits in the order of `TraitKind.all`. -/
def toList (ts : Traits) : List Trait := TraitKind.all.filterMap ts.get?

/-- Whether there is no trait. -/
def isEmpty (ts : Traits) : Bool := ts.toList.isEmpty

/-- Whether the shape is an envelope that normalization made. -/
def isSynthetic (ts : Traits) : Bool := ts.syntheticInput.isSome || ts.syntheticOutput.isSome

/-! ## The view by kind -/

theorem mem_allProtocols (p : WireProtocol) : p ∈ WireProtocol.all := by cases p <;> decide

theorem get?_insert (ts : Traits) (t : Trait) (kind : TraitKind) :
    (ts.insert t).get? kind = if kind = t.kind then some t else ts.get? kind := by
  cases t with
  | protocol p =>
    cases kind with
    | protocol q => by_cases h : q = p <;> simp [insert, get?, Trait.kind, mem_allProtocols, h]
    | _ => simp [insert, get?, Trait.kind]
  | _ => cases kind <;> simp [insert, get?, Trait.kind]

theorem get?_erase (ts : Traits) (kind other : TraitKind) :
    (ts.erase kind).get? other = if other = kind then none else ts.get? other := by
  cases kind with
  | protocol p =>
    cases other with
    | protocol q => by_cases h : q = p <;> simp [erase, get?, h]
    | _ => simp [erase, get?]
  | _ => cases other <;> simp [erase, get?]

end Traits

end SdkForge
