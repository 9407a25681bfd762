import TunnelAgent.Frame.Fault
import TunnelAgent.Text.Parts

/-!
Trees of files and the paths into them. A path is followed name by name from the working directory,
or from the root if it begins with a slash; it may end at a file or at a directory, and only a file
can be read.
-/

namespace TunnelAgent

/-- Why a file cannot be had: it cannot be opened, or what was opened cannot be read. -/
inductive FileFault where
  | unopened (fault : IoFault)
  | unread (fault : IoFault)
  deriving DecidableEq, Repr

namespace FileFault

def io : FileFault → IoFault
  | unopened f => f
  | unread f => f

def noSuchFile : FileFault := .unopened ⟨.other, "No such file or directory (os error 2)"⟩
def notDirectory : FileFault := .unopened ⟨.other, "Not a directory (os error 20)"⟩
def nameTooLong : FileFault := .unopened ⟨.other, "File name too long (os error 36)"⟩
def nulInName : FileFault := .unopened ⟨.invalidInput, "file name contained an unexpected NUL byte"⟩
def isDirectory : FileFault := .unread ⟨.other, "Is a directory (os error 21)"⟩

end FileFault

inductive FileTree (α : Type) where
  | file (contents : α)
  | directory (entries : List (String × FileTree α))

namespace FileTree

variable {α : Type}

/-- The most bytes of one name, and of a whole path. -/
def longestName : Nat := 255
def longestPath : Nat := 4095

/-- Follows one name. `trail` holds the directories above `here`, the nearest first; that of the
root is empty, and so is no way up from there. -/
def follow (trail : List (FileTree α)) (here : FileTree α) (name : String) :
    Except FileFault (List (FileTree α) × FileTree α) :=
  match here with
  | file _ => .error .notDirectory
  | directory entries =>
    if name = "" ∨ name = "." then .ok (trail, here)
    else if name = ".." then
      match trail with
      | [] => .ok ([], here)
      | above :: trail => .ok (trail, above)
    else if longestName < name.utf8ByteSize then .error .nameTooLong
    else
      match entries.lookup name with
      | none => .error .noSuchFile
      | some next => .ok (here :: trail, next)

def walk (trail : List (FileTree α)) (here : FileTree α) : List String → Except FileFault (FileTree α)
  | [] => .ok here
  | name :: names =>
    match follow trail here name with
    | .error e => .error e
    | .ok (trail, here) => walk trail here names

def contents : FileTree α → Except FileFault α
  | file contents => .ok contents
  | directory _ => .error .isDirectory

/-- What a path leads to; `trail` holds the directories above the working directory, the nearest
first. -/
def locate (trail : List (FileTree α)) (working : FileTree α) (path : String) :
    Except FileFault (FileTree α) :=
  if path.contains '\x00' then .error .nulInName
  else if path = "" then .error .noSuchFile
  else if longestPath < path.utf8ByteSize then .error .nameTooLong
  else
    let names := (Text.parts '/' path.toList).map String.ofList
    match path.toList, trail.getLast? with
    | '/' :: _, some root => walk [] root names
    | _, _ => walk trail working names

def read (trail : List (FileTree α)) (working : FileTree α) (path : String) : Except FileFault α :=
  (locate trail working path).bind contents

/-- The root of a usual host; of its files only the one that is always empty is known. -/
def usualRoot (empty : α) : FileTree α :=
  .directory (("dev", .directory [("null", .file empty)]) ::
    ["bin", "boot", "etc", "home", "lib", "media", "mnt", "opt", "proc", "root", "run", "sbin", "srv",
      "sys", "tmp", "usr", "var"].map fun name => (name, .directory []))

/-- Reads from a working directory that holds these files, somewhere below the root. -/
def readUsual (empty : α) (files : List (String × α)) : String → Except FileFault α :=
  read [.directory [], usualRoot empty] (.directory (files.map fun (name, contents) => (name, .file contents)))

end FileTree

end TunnelAgent
