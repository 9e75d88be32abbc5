import ChatAudit.Export.File
import ChatAudit.Text.Split

/-! Where exports are saved. -/
namespace ChatAudit
open Text

/-- A place on a disk, as the names on the way back from it to the root. -/
abbrev Place := List String

/-- There is no step back from the root. -/
def Place.step (here : Place) (name : String) : Place :=
  if name = ".." then here.tail else name :: here

/-- A way over the names of directories, from the root or from the working directory. -/
structure Path where
  rooted : Bool
  names : List String
deriving DecidableEq, Repr

namespace Path

/-- The names of a path, without empty ones and those that stay in place. -/
def ofText (text : String) : Path where
  rooted := text.toList.head? == some '/'
  names := ((splitOn '/' text.toList).filter fun p => p ≠ [] && p ≠ ['.']).map String.ofList

/-- The way to a file from a directory. A way from the root stays what it is. -/
def join (directory file : Path) : Path :=
  if file.rooted then file else ⟨directory.rooted, directory.names ++ file.names⟩

end Path

inductive Node
  | directory
  | file (content : List UInt8)
deriving DecidableEq, Repr

/-- Directories and files beside the working directory and those it lies in. -/
structure Disk where
  working : Place
  nodes : List (Place × Node) := []

inductive SaveFault
  /-- The place is a directory. -/
  | directory
  /-- The way leads through a file. -/
  | notDirectory
  | nameTooLong
  /-- A name holds a zero character. -/
  | zeroInName
deriving DecidableEq, Repr

namespace Disk

/-- What lies at a place. -/
def at? (d : Disk) (p : Place) : Option Node :=
  if p <:+ d.working then some .directory else d.nodes.lookup p

def file? (d : Disk) (p : Place) : Option (List UInt8) :=
  match d.at? p with
  | some (.file content) => some content
  | _ => none

def put (p : Place) (n : Node) (d : Disk) : Disk := { d with nodes := (p, n) :: d.nodes }

/-- The place where a path begins. -/
def start (d : Disk) (path : Path) : Place := if path.rooted then [] else d.working

def makeDirectory (p : Place) (d : Disk) : Except SaveFault Disk :=
  match d.at? p with
  | some .directory => .ok d
  | some (.file _) => .error .notDirectory
  | none => .ok (d.put p .directory)

/-- Follows names and makes the directories that are missing. -/
def walk (here : Place) : List String → Disk → Except SaveFault (Place × Disk)
  | [], d => .ok (here, d)
  | name :: names, d => do
    let d ← d.makeDirectory (here.step name)
    walk (here.step name) names d

/-- A file that is there already is replaced. -/
def write (p : Place) (content : List UInt8) (d : Disk) : Except SaveFault Disk :=
  match d.at? p with
  | some .directory => .error .directory
  | _ => .ok (d.put p (.file content))

end Disk

namespace File

/-- The longest name in bytes. -/
def maxNameLength : Nat := 255

/-- Writes the file below a directory. The way to it and the disk afterwards. -/
def save (f : File) (directory : String) (d : Disk) : Except SaveFault (Path × Disk) := do
  let path := (Path.ofText directory).join (Path.ofText f.filename)
  if path.names.any fun n => n.toList.any (·.toNat == 0) then throw .zeroInName
  if path.names.any fun n => maxNameLength < n.utf8ByteSize then throw .nameTooLong
  let (here, d) ← d.walk (d.start path) path.names.dropLast
  match path.names.getLast? with
  | none | some ".." => throw .directory
  | some name => return (path, ← d.write (name :: here) f.content)

end File
end ChatAudit
