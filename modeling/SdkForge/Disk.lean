import SdkForge.FileSet
import SdkForge.FileTree

/-!
# Disks

A disk is given by what a command does with it: it reads a file, finds out where a path leads, and
writes a file. A tree of files is a disk that is a value, and so is a table of texts by their paths.
-/

namespace SdkForge

/-- What became of one file. -/
inductive WriteResult where
  | written | kept | failed
  deriving DecidableEq, Repr

/-- What a command does with the files that are stored. -/
structure Disk (m : Type → Type) where
  /-- The text of a file, if it can be read. -/
  read : String → m (Option String)
  /-- The path from the root, without `..`, of a file that is there. -/
  locate : String → m String
  /-- Writes a file below a directory. -/
  write : String → OutputFile → m WriteResult

namespace Disk

variable {m : Type → Type} [Monad m]

/-- Writes files one after the other, up to the first that cannot be written. -/
def writeEach (disk : Disk m) (directory : String) (log : WriteLog) :
    List OutputFile → m (Option WriteLog)
  | [] => return some log
  | f :: rest => do
    match ← disk.write directory f with
    | .written => writeEach disk directory (log.addWritten f) rest
    | .kept => writeEach disk directory (log.addSkipped f) rest
    | .failed => return none

/-- Writes a set of files; nothing is known of the set if one of them cannot be written. -/
def writeAll (disk : Disk m) (directory : String) (files : FileSet) : m (Option WriteLog) :=
  disk.writeEach directory {} files.ordered

/-- The disk on which each path is a file of its own, so that all can be written. -/
def flat : Disk (StateM (OrderedMap String String)) where
  read path := return (← get).get? path
  locate path := return path
  write directory f texts :=
    let path := Path.join directory f.path
    if !f.rules.overwrite && texts.contains path then (.kept, texts)
      else (.written, texts.insert path f.contents)

end Disk

namespace FileTree

/-- What writing a file below a directory makes of a tree. -/
def store (tree : FileTree) (directory : String) (f : OutputFile) : WriteResult × FileTree :=
  let path := Path.join directory f.path
  if !f.rules.overwrite && tree.has path then (.kept, tree)
  else match tree.write? path f.contents with
    | some tree => (.written, tree)
    | none => (.failed, tree)

/-- The disk that has the files of a tree. -/
def disk : Disk (StateM FileTree) where
  read path := return (← get).read? path
  locate path := return (← get).locate path
  write directory f tree := tree.store directory f

end FileTree

end SdkForge
