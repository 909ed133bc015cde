import SdkForge.Command.Help

/-!
# Reading the command line

`Line.read` turns words into what is asked for. Settings are read from left to right: one that asks
for a text ends the reading, and so does the first word that cannot be read. A value may stand in
the word of its setting or be the next word.
-/

namespace SdkForge.Command

/-- What is asked for. -/
inductive Ask where
  | generate (config output : String) (dryRun denyWarnings : Bool)
  | check (config : String)
  | info (config : String)
  deriving DecidableEq, Repr

/-- Why there is nothing to do. -/
inductive Stop where
  /-- Only a text is asked for. -/
  | text (lines : List String)
  /-- A word cannot be read, or one is missing. -/
  | misuse
  deriving DecidableEq, Repr

namespace Line

/-- The settings that were given, with their values. -/
abbrev Given := List (Setting × String)

/-- The text that a setting asks for; `help` are the lines of the help. -/
def textOf? (help : List String) : Setting → Option (List String)
  | .help => some help
  | .version => some [versionLine]
  | _ => none

/-- One more setting that was given. -/
def add (help : List String) (given : Given) (s : Setting) (value : String) : Except Stop Given :=
  match textOf? help s with
  | some lines => .error (.text lines)
  | none =>
    if !s.repeats && given.any (·.1 = s) then .error .misuse
    else if s.takesValue && value.isEmpty then .error .misuse
    else .ok (given ++ [(s, value)])

/-- Whether a word can be the value of the setting before it. -/
def isValue (word : String) : Bool := !word.startsWith "-" || word = "-"

/-- The value in the next word, and the words after it. -/
def takeValue : List String → Except Stop (String × List String)
  | [] => .error .misuse
  | word :: rest => if isValue word then .ok (word, rest) else .error .misuse

/-- The value that stands directly after a letter, without the `=` before it. -/
def attached : List Char → String
  | '=' :: value => String.ofList value
  | value => String.ofList value

/-- Reads letters after a `-`: the settings after it, and the words that are left. -/
def readLetters (known : List Setting) (help : List String) (given : Given) (rest : List String) :
    List Char → Except Stop (Given × List String)
  | [] => .ok (given, rest)
  | letter :: letters =>
    match known.find? (·.letter? = some letter) with
    | none => .error .misuse
    | some s =>
      if !s.takesValue then do readLetters known help (← add help given s "") rest letters
      else if letters.isEmpty then do
        let (value, rest) ← takeValue rest
        return (← add help given s value, rest)
      else return (← add help given s (attached letters), rest)

/-- Reads a name after `--`, which may have its value after a `=`. -/
def readName (known : List Setting) (help : List String) (given : Given) (rest : List String)
    (word : List Char) :
    Except Stop (Given × List String) :=
  let (name, value) := word.span (· != '=')
  match known.find? (·.name.toList = name), value with
  | none, _ => .error .misuse
  | some s, [] =>
    if s.takesValue then do
      let (value, rest) ← takeValue rest
      return (← add help given s value, rest)
    else return (← add help given s "", rest)
  | some s, _ :: value =>
    if s.takesValue then return (← add help given s (String.ofList value), rest) else .error .misuse

/-- Reads settings up to the first word that is none; each step uses up a word, so as many steps as
there are words do. -/
def readSettings (known : List Setting) (help : List String) :
    Nat → Given → List String → Except Stop (Given × List String)
  | 0, given, words => .ok (given, words)
  | _ + 1, given, [] => .ok (given, [])
  | steps + 1, given, word :: rest =>
    match word.toList with
    | ['-', '-'] => .ok (given, word :: rest)
    | '-' :: '-' :: name => do
      let (given, rest) ← readName known help given rest name
      readSettings known help steps given rest
    | '-' :: letter :: letters => do
      let (given, rest) ← readLetters known help given rest (letter :: letters)
      readSettings known help steps given rest
    | _ => .ok (given, word :: rest)

/-- The value of a setting. -/
def valueOf (given : Given) (s : Setting) : String := (given.lookup s <|> s.initial?).getD ""

/-- What a verb with settings asks for. -/
def ask (given : Given) : Verb → Ask
  | .generate =>
    .generate (valueOf given .config) (valueOf given .output) (given.lookup .dryRun).isSome
      (given.lookup .denyWarnings).isSome
  | .check => .check (valueOf given .config)
  | .info => .info (valueOf given .config)

/-- Reads what follows a verb. At the end there may be a `--`, but nothing after it. -/
def readVerb (v : Verb) (words : List String) : Except Stop Ask := do
  match ← readSettings v.settings (Help.ofVerb v) words.length [] words with
  | (given, []) | (given, ["--"]) => return ask given v
  | _ => .error .misuse

/-- The help that the words after `help` ask for. -/
def helpOn : List String → Stop
  | [] => .text Help.general
  | [word] =>
    if word = Help.helpRow.1 then .text Help.ofHelp else (Verb.ofName? word).elim .misuse fun v =>
      .text (Help.ofVerb v)
  | _ => .misuse

/-- Reads a command line. -/
def read (words : List String) : Except Stop Ask := do
  match ← readSettings generalSettings Help.general words.length [] words with
  | (_, []) => .error .misuse
  | (_, word :: rest) =>
    if word = Help.helpRow.1 then .error (helpOn rest)
    else match Verb.ofName? word with
      | some v => readVerb v rest
      | none => .error .misuse

end Line

end SdkForge.Command
