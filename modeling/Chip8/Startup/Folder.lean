import Chip8.Startup.Failure
import Chip8.Text.Split

/-!
# Folders

A program that runs without a file system of its own finds its files in a folder. A path leads
from there, or from the root if it begins with a slash, step by step from place to place. A step
can only be made from a folder, even if it stays where it is. Around the folder there are the
usual folders of a system, of whose files only the empty device is known.
-/

namespace Chip8

/-- A folder of files with their names. -/
structure Folder where
  files : List (String × List UInt8)
deriving DecidableEq

namespace Folder

/-- Where a path may lead. -/
inductive Place where
  /-- The folder with the files. -/
  | working
  /-- A folder of the system, by the names that lead to it from the root. -/
  | system (names : List String)
  | file (content : List UInt8)
deriving DecidableEq

/-! ### Refusals -/

/-- Nothing has the name. -/
def absent : ReadError := .refused 2 "No such file or directory"

/-- A step is made from a file. -/
def noFolder : ReadError := .refused 20 "Not a directory"

/-- The path leads to a folder. -/
def isFolder : ReadError := .refused 21 "Is a directory"

/-- A name or a path is too long. -/
def tooLong : ReadError := .refused 36 "File name too long"

/-! ### Steps -/

/-- The most bytes of a name. -/
def maxNameBytes : Nat := 255

/-- The most bytes of a path. -/
def maxPathBytes : Nat := 4095

/-- The folder of the system in which the working folder lies. -/
def temporary : List String := ["tmp"]

/-- The folders of the system. -/
def systemFolders : List (List String) :=
  [["boot"], ["dev"], ["etc"], ["home"], ["media"], ["mnt"], ["opt"], ["proc"], ["root"], ["run"],
   ["srv"], ["sys"], ["tmp"], ["usr"], ["var"], ["dev", "pts"], ["dev", "shm"], ["usr", "bin"],
   ["usr", "games"], ["usr", "include"], ["usr", "lib"], ["usr", "lib64"], ["usr", "libexec"],
   ["usr", "local"], ["usr", "sbin"], ["usr", "share"], ["usr", "src"], ["var", "backups"],
   ["var", "cache"], ["var", "lib"], ["var", "local"], ["var", "log"], ["var", "mail"],
   ["var", "opt"], ["var", "spool"], ["var", "tmp"], ["usr", "local", "bin"],
   ["usr", "local", "lib"]]

/-- The names at the root of folders that lie elsewhere. -/
def links : List (String × List String) :=
  [("bin", ["usr", "bin"]), ("lib", ["usr", "lib"]), ("lib64", ["usr", "lib64"]),
   ("sbin", ["usr", "sbin"])]

/-- The file without content. -/
def emptyDevice : List String := ["dev", "null"]

/-- The place which has a name in a folder. -/
def entry? (folder : Folder) (name : String) : Place → Option Place
  | .working => (folder.files.lookup name).map .file
  | .system names =>
      let names := names ++ [name]
      if names = emptyDevice then some (.file [])
      else if names ∈ systemFolders then some (.system names)
      else if names = [name] then (links.lookup name).map .system
      else none
  | .file _ => none

/-- The folder that a place lies in; the root lies in itself. -/
def parent : Place → Place
  | .system names => .system names.dropLast
  | _ => .system temporary

/-- The place to which a step leads. -/
def step (folder : Folder) (place : Place) (name : String) : Except ReadError Place :=
  match place with
  | .file _ => .error noFolder
  | place =>
      if name = "" ∨ name = "." then .ok place
      else if name = ".." then .ok (parent place)
      else if maxNameBytes < name.utf8ByteSize then .error tooLong
      else
        match folder.entry? name place with
        | some next => .ok next
        | none => .error absent

/-! ### Paths -/

/-- The steps of a path. -/
def steps (path : String) : List String := (Text.split '/' path.toList).map String.ofList

/-- Where a path begins. -/
def origin (path : String) : Place :=
  if path.toList.head? = some '/' then .system [] else .working

/-- The content of the file to which a path leads. -/
def read (folder : Folder) (path : String) : Except ReadError (List UInt8) :=
  if path.contains '\x00' then .error .badName
  else if path = "" then .error absent
  else if maxPathBytes < path.utf8ByteSize then .error tooLong
  else
    match (steps path).foldlM folder.step (origin path) with
    | .error e => .error e
    | .ok (.file content) => .ok content
    | .ok _ => .error isFolder

/-! ### Laws of steps -/

end Folder

end Chip8
