import SdkForge.Crate.Blueprint
import SdkForge.Pattern

/-!
# Checked strings

A string that has to match a pattern becomes a type of its own, which can only be made of strings
that match.
-/

namespace SdkForge.Crate

/-- A type for the strings that match a pattern. -/
structure CheckedString where
  name : String
  doc : Option String
  derives : List String
  pattern : String
  /-- The crate that has the type of compiled patterns. -/
  server : String
  deriving Repr

namespace CheckedString

/-- The type for a string with a pattern that compiles. -/
def ofShape (b : Blueprint) (shape : Shape) (symbol : Symbol) : Except Fault CheckedString :=
  match shape.traits.pattern with
  | none => .error (.missingTrait shape.id .pattern)
  | some pattern =>
    if Pattern.isValid pattern then
      .ok ⟨symbol.name, shape.traits.documentation, symbol.derives.map (·.name), pattern, b.server⟩
    else .error (.invalidPattern shape.id)

/-- The type of compiled patterns. -/
def regexType (c : CheckedString) : String := s!"{c.server}::regex::Regex"

def decl (c : CheckedString) : Fragment :=
  .seq (Code.preamble c.doc [] [] ++
    [.line (Code.deriveLine c.derives), .line s!"pub struct {c.name}(String);"])

/-- The function that compiles the pattern. -/
def compileName : String := "compile_regex"

def compileFunction (c : CheckedString) : Code.Function where
  name := compileName
  doc := some "The compiled pattern, built on first use."
  returns := some s!"&'static {c.regexType}"
  body := [
    .line s!"static REGEX: std::sync::OnceLock<{c.regexType}> = std::sync::OnceLock::new();",
    .block "REGEX.get_or_init(|| \x7b"
      [.line (s!"{c.regexType}::new({Text.quote c.pattern})" ++
        ".expect(\"pattern is checked when the crate is generated\")")]
      (some "\x7d)")]

/-- The functions that give the string. -/
def accessors : List Code.Function := [
  { name := "as_str", params := [⟨"&self", ""⟩], returns := some "&str",
    body := [.line "&self.0"] },
  { name := "into_inner", params := [⟨"self", ""⟩], returns := some "String",
    body := [.line "self.0"] }]

/-- The function that makes the type of a string that matches. -/
def tryFunction : Code.Function where
  name := "try_from"
  visibility := .module
  params := [⟨"value", "String"⟩]
  returns := some "Result<Self, Self::Error>"
  body := [
    .block (s!"if Self::{compileName}().is_match(&value) " ++ "\x7b") [.line "Ok(Self(value))"]
    (some "\x7d else \x7b"), .indent [.line "Err(value)"],
    .line "\x7d"]

def fragment (c : CheckedString) : Fragment :=
  .separated [c.decl,
    ((c.compileFunction :: accessors).foldl Code.Implementation.method { type := c.name }).fragment,
    ((({ type := c.name, trait := some "TryFrom<String>" } : Code.Implementation).item
      (.line "type Error = String;")).method tryFunction).fragment]

end CheckedString

end SdkForge.Crate
