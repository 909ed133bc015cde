/-!
# Settings of the command line

What can be said on the command line: a verb, and settings written with a letter or a name. Each has
its words for the help texts.
-/

namespace SdkForge.Command

/-- Something that can be set on the command line. -/
inductive Setting where
  | config | output | dryRun | denyWarnings | verbose | help | version
  deriving DecidableEq, Repr

namespace Setting

/-- The name, as it is written after `--`. -/
def name : Setting → String
  | config => "config"
  | output => "output"
  | dryRun => "dry-run"
  | denyWarnings => "deny-warnings"
  | verbose => "verbose"
  | help => "help"
  | version => "version"

/-- The letter, as it is written after `-`. -/
def letter? : Setting → Option Char
  | config => some 'c'
  | output => some 'o'
  | verbose => some 'v'
  | help => some 'h'
  | version => some 'V'
  | dryRun | denyWarnings => none

/-- The value that holds where none is given; settings without one take no value. -/
def initial? : Setting → Option String
  | config => some "kiln.toml"
  | output => some "."
  | _ => none

/-- Whether the setting is followed by a value. -/
def takesValue (s : Setting) : Bool := s.initial?.isSome

/-- Whether the setting may be given again. -/
def repeats (s : Setting) : Bool := s = verbose

/-- What the setting is for. -/
def about : Setting → String
  | config => "Path to kiln.toml (defaults to ./kiln.toml)"
  | output => "Output directory (defaults to current directory)"
  | dryRun => "Preview generated code without writing to disk"
  | denyWarnings => "Treat validation warnings as errors"
  | verbose => "More logging (-v info, -vv debug); RUST_LOG overrides"
  | help => "Print help"
  | version => "Print version"

end Setting

/-- What can be asked for. -/
inductive Verb where
  | generate | check | info
  deriving DecidableEq, Repr

namespace Verb

def all : List Verb := [generate, check, info]

def name : Verb → String
  | generate => "generate"
  | check => "check"
  | info => "info"

def ofName? (name : String) : Option Verb := all.find? (·.name == name)

/-- What the verb does. -/
def about : Verb → String
  | generate => "Generate the SDK crate described by kiln.toml"
  | check => "Validate kiln.toml and the model without generating code"
  | info => "Show the service, resolver stages, decorators and sections"

/-- The settings that may follow the verb, in the order of the help text. -/
def settings : Verb → List Setting
  | generate => [.config, .verbose, .output, .dryRun, .denyWarnings, .help]
  | check | info => [.config, .verbose, .help]

end Verb

/-- The settings that may stand before the verb. -/
def generalSettings : List Setting := [.verbose, .help, .version]

end SdkForge.Command
