/-!
# Sets of files to write

A run makes files of three categories. A category has rules that say whether a file that is there is
replaced and what stands at its head; a file can have rules of its own. The files are written in the
order of `ordered`, and `preview` shows what would be written.
-/

namespace SdkForge

/-- The first line of generated code. -/
def generatedHeader : String := "// Code generated by kiln. DO NOT EDIT."

/-- How a file is written. -/
structure FileRules where
  /-- Whether the file replaces one that is there. -/
  overwrite : Bool := true
  /-- What stands at the head of the file. -/
  header : Option String := none
  deriving DecidableEq, Inhabited, Repr

namespace FileRules

def always : FileRules := {}
def generated : FileRules := { header := some generatedHeader }
def ifMissing : FileRules := { overwrite := false }

/-- A text with its header. -/
def contents (rules : FileRules) (text : String) : String :=
  match rules.header with
  | some header => header ++ "\n\n" ++ text
  | none => text

end FileRules

/-- What a file is for. -/
inductive FileCategory where
  | config | generated | scaffold
  deriving DecidableEq, Repr

namespace FileCategory

def all : List FileCategory := [config, generated, scaffold]

/-- The rules of files that have none of their own. -/
def rules : FileCategory → FileRules
  | config => .always
  | generated => .generated
  | scaffold => .ifMissing

end FileCategory

/-- A file to write. -/
structure OutputFile where
  path : String
  text : String
  category : FileCategory
  ownRules : Option FileRules := none
  deriving Repr

namespace OutputFile

def rules (f : OutputFile) : FileRules := f.ownRules.getD f.category.rules

/-- The text with its header. -/
def contents (f : OutputFile) : String := f.rules.contents f.text

end OutputFile

/-- A file as it would be written. -/
structure PreviewEntry where
  path : String
  contents : String
  category : FileCategory
  deriving DecidableEq, Repr

/-- How a preview shows the file. -/
def OutputFile.shown (f : OutputFile) : PreviewEntry := ⟨f.path, f.contents, f.category⟩

/-- Files to write, in the order in which they were registered. -/
abbrev FileSet := List OutputFile

/-- What became of a set of files: the paths of those that were written, and of those that were
kept. -/
structure WriteLog where
  written : List String := []
  skipped : List String := []
  deriving DecidableEq, Repr

namespace WriteLog

def addWritten (log : WriteLog) (f : OutputFile) : WriteLog :=
  { log with written := log.written ++ [f.path] }
def addSkipped (log : WriteLog) (f : OutputFile) : WriteLog :=
  { log with skipped := log.skipped ++ [f.path] }

end WriteLog

namespace FileSet

/-- The files by category, and within one as they were registered. -/
def ordered (files : FileSet) : List OutputFile :=
  FileCategory.all.flatMap fun category => files.filter (·.category = category)

/-- The files as they would be written. -/
def preview (files : FileSet) : List PreviewEntry := files.ordered.map (·.shown)

/-- The first file that was registered with a path. -/
def get? (files : FileSet) (path : String) : Option OutputFile := files.find? (·.path == path)

end FileSet

end SdkForge
