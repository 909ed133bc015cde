import SdkForge.Code.Declaration

/-!
# Symbols

A symbol is what a shape is called in the generated code: a type, the module that defines it if it
is generated, and what the generators have to know about it.
-/

namespace SdkForge

/-! ## Types -/

/-- A type of the generated code. -/
inductive TypeExpr where
  | named (name : String) (ns : Option String := none)
  | option (inner : TypeExpr)
  | list (inner : TypeExpr)
  | map (key value : TypeExpr)
  | box (inner : TypeExpr)
  | reference (inner : TypeExpr)
  deriving DecidableEq, Inhabited, Repr

namespace TypeExpr

/-- The name at the core of a type, and its path. A map's core is that of its values. -/
def core : TypeExpr → String × Option String
  | named name ns => (name, ns)
  | option inner | list inner | box inner | reference inner => inner.core
  | map _ value => value.core

protected def toString : TypeExpr → String
  | named name (some ns) => s!"{ns}::{name}"
  | named name none => name
  | option inner => s!"Option<{inner.toString}>"
  | list inner => s!"Vec<{inner.toString}>"
  | map key value => s!"std::collections::HashMap<{key.toString}, {value.toString}>"
  | box inner => s!"Box<{inner.toString}>"
  | reference inner => s!"&{inner.toString}"

instance : ToString TypeExpr := ⟨TypeExpr.toString⟩

/-- The type with another name at its core. -/
def rename (newName : String) : TypeExpr → TypeExpr
  | named _ ns => named newName ns
  | option inner => option (inner.rename newName)
  | list inner => list (inner.rename newName)
  | map key value => map key (value.rename newName)
  | box inner => box (inner.rename newName)
  | reference inner => reference (inner.rename newName)

def isOption : TypeExpr → Bool
  | option _ => true
  | _ => false

/-- Puts the type, or what is optional in it, into a box. -/
def boxed : TypeExpr → TypeExpr
  | option inner => option (box inner)
  | other => box other

end TypeExpr

/-! ## Symbols -/

/-- An instance that can be derived for a type. -/
inductive Instance where
  | debug | clone | copy | partialEq | eq | hash | partialOrd | ord | default
  deriving DecidableEq, Repr

def Instance.name : Instance → String
  | debug => "Debug"
  | clone => "Clone"
  | copy => "Copy"
  | partialEq => "PartialEq"
  | eq => "Eq"
  | hash => "Hash"
  | partialOrd => "PartialOrd"
  | ord => "Ord"
  | default => "Default"

/-- What a shape is called in the generated code. -/
structure Symbol where
  type : TypeExpr
  /-- The module that defines the type; nothing for a type that is there already. -/
  module : Option String := none
  /-- The instances to derive, in the order of their constructors. -/
  derives : List Instance := []
  visibility : Code.Visibility := .everywhere
  nullable : Bool := false
  /-- The type is one that the runtime crates wrap around a plain one. -/
  wrapped : Bool := false
  boxed : Bool := false
  deriving DecidableEq, Inhabited, Repr

namespace Symbol

/-- A type that is there already. -/
def external (name : String) (ns : Option String := none) : Symbol := { type := .named name ns }

/-- A type that the generated crate defines. -/
def generated (name module : String) : Symbol :=
  { type := .named name (some s!"crate::{module}"), module := some module }

/-- The name at the core of the type. -/
def name (s : Symbol) : String := s.type.core.1

/-- The path of the type's core. -/
def ns? (s : Symbol) : Option String := s.type.core.2

/-- The type as code spells it. -/
def fullName (s : Symbol) : String := toString s.type

def isGenerated (s : Symbol) : Bool := s.module.isSome

def isOptional (s : Symbol) : Bool := s.type.isOption

/-- The symbol of a value that may be missing. -/
def optional (s : Symbol) : Symbol :=
  if s.isOptional then s else { s with type := .option s.type, nullable := true }

/-- The symbol of a value that is there. -/
def required (s : Symbol) : Symbol :=
  match s.type with
  | .option inner => { s with type := inner, nullable := false }
  | _ => { s with nullable := false }

/-- The symbol of a value in a box. -/
def box (s : Symbol) : Symbol :=
  if s.boxed then s else { s with type := s.type.boxed, boxed := true }

/-- The symbol with another name at its core. -/
def rename (s : Symbol) (newName : String) : Symbol := { s with type := s.type.rename newName }

end Symbol

end SdkForge
