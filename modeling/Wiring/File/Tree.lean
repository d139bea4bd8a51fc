import Wiring.File.System

/-!
A file system held as a value: the files and directories below the working directory. Nothing else is there.
-/

namespace Wiring

inductive FileNode where
  | file (content : ByteArray)
  | directory

/-- Nodes by the names that lead to them. The working directory itself has no entry. -/
structure FileTree where
  nodes : List (List String × FileNode) := []

namespace FileTree

def node? (t : FileTree) (place : List String) : Option FileNode :=
  if place = [] then some .directory else Assoc.find? place t.nodes

def put (place : List String) (n : FileNode) (t : FileTree) : FileTree where
  nodes := Assoc.put place n t.nodes

def longestName : Nat := 255

def longestPath : Nat := 4095

def walk (t : FileTree) (here : List String) : List String → Except FileReason (List String)
  | [] => .ok here
  | part :: rest =>
    if part = ".." then
      if here = [] then .error .missing else walk t here.dropLast rest
    else if longestName < part.utf8ByteSize then .error .nameTooLong
    else
      let place := here ++ [part]
      match t.node? place, rest with
      | some .directory, rest => walk t place rest
      | _, [] => .ok place
      | some (.file _), _ :: _ => .error .notADirectory
      | none, _ :: _ => .error .missing

def locate (t : FileTree) (p : Path) : Except FileReason (List String) :=
  if p.text.any (· = '\x00') then .error .nullByte
  else if longestPath < p.text.utf8ByteSize then .error .nameTooLong
  else if p.root = "" then walk t [] p.parts
  else if p.parts = [] then .ok []
  else .error .missing

def read (t : FileTree) (p : Path) : Except FileReason ByteArray := do
  match t.node? (← t.locate p) with
  | none => .error .missing
  | some .directory => .error .isADirectory
  | some (.file content) => .ok content

def write (t : FileTree) (p : Path) (content : ByteArray) : Except FileReason FileTree := do
  let place ← t.locate p
  match t.node? place with
  | some .directory => .error .isADirectory
  | _ => .ok (t.put place (.file content))

def makeDirectory (t : FileTree) (p : Path) : Except FileReason FileTree := do
  let place ← t.locate p
  match t.node? place with
  | some _ => .error .alreadyThere
  | none => .ok (t.put place .directory)

def isDirectory (t : FileTree) (p : Path) : Bool :=
  match t.locate p with
  | .ok place =>
    match t.node? place with
    | some .directory => true
    | _ => false
  | .error _ => false

def files (t : FileTree) : List (List String × ByteArray) :=
  t.nodes.filterMap fun n =>
    match n.2 with
    | .file content => some (n.1, content)
    | .directory => none

def change (p : Path) (f : FileTree → Except FileReason FileTree) : StateM FileTree (Except FileFault Unit) :=
  -- A change goes through as a whole or not at all.
  fun t =>
    match f t with
    | .ok t => (.ok (), t)
    | .error reason => (.error { reason, path := p }, t)

def system : FileSystem (StateM FileTree) where
  readFile p := fun t => ((t.read p).mapError fun reason => { reason, path := p }, t)
  writeFile p content := change p fun t => t.write p content
  makeDirectory p := change p fun t => t.makeDirectory p
  isDirectory p := fun t => (t.isDirectory p, t)

end FileTree

end Wiring
