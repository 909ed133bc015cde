import SdkForge.Command.Setting

/-!
# Help texts

The lines that say how the command is used. A help text has a first line, a line with the form of
the call, and tables of the verbs, arguments and settings, each with its own column of explanations.
-/

namespace SdkForge.Command

/-- The name of the command. -/
def programName : String := "kiln"

/-- The line that says which version of the command this is. -/
def versionLine : String := programName ++ " 0.3.0"

/-- A text with spaces after it up to a width. -/
def pad (width : Nat) (text : String) : String := text ++ "".pushn ' ' (width - text.length)

namespace Help

/-- A table under a title: terms, and what they mean. -/
def table (title : String) (rows : List (String × String)) : List String :=
  let width := (rows.map (·.1.length)).foldl max 0 + 2
  "" :: (title ++ ":") :: rows.map fun (term, meaning) => "  " ++ pad width term ++ meaning

/-- What stands after the name of a setting. -/
def valueText (s : Setting) : String :=
  if s.takesValue then s!" <{s.name.toUpper}>" else if s.repeats then "..." else ""

/-- A setting as it is written. -/
def term (s : Setting) : String :=
  (s.letter?.elim "    " fun letter => s!"-{letter}, ") ++ s!"--{s.name}" ++ valueText s

/-- What a setting means, with the value that holds where none is given. -/
def meaning (s : Setting) : String :=
  s.about ++ s.initial?.elim "" fun value => s!" [default: {value}]"

def settingsTable (settings : List Setting) : List String :=
  table "Options" (settings.map fun s => (term s, meaning s))

/-- How the help is asked for and what it says of itself. -/
def helpRow : String × String :=
  ("help", "Print this message or the help of the given subcommand(s)")

/-- The first lines of a help text. -/
def head (about form : String) : List String := [about, "", s!"Usage: {programName} {form}"]

/-- The help on the command. -/
def general : List String :=
  head "Generate typed Rust SDKs from service models" "[OPTIONS] <COMMAND>" ++
    table "Commands" (Verb.all.map (fun v => (v.name, v.about)) ++ [helpRow]) ++
      settingsTable generalSettings

/-- The help on a verb. -/
def ofVerb (v : Verb) : List String :=
  head v.about s!"{v.name} [OPTIONS]" ++ settingsTable v.settings

/-- The help on the help. -/
def ofHelp : List String :=
  head helpRow.2 s!"{helpRow.1} [COMMAND]..." ++
    table "Arguments" [("[COMMAND]...", "Print help for the subcommand(s)")]

end Help

end SdkForge.Command
