import Wiring.File.Path
import Wiring.Text.Quoted

/-!
What the library asks of a file system, and why one may refuse. A directory is made with all that lead to it.
-/

namespace Wiring

inductive FileReason where
  | missing
  | alreadyThere
  | notADirectory
  | isADirectory
  | nameTooLong
  | nullByte
  | other (number : Nat) (text : String)
  deriving DecidableEq

structure FileFault where
  reason : FileReason
  path : Path
  deriving DecidableEq

namespace FileFault

def numbered (f : FileFault) (number : Nat) (text : String) : String :=
  "[Errno " ++ toString number ++ "] " ++ text ++ ": " ++ Text.quoted f.path.text

def message (f : FileFault) : String :=
  match f.reason with
  | .missing => f.numbered 2 "No such file or directory"
  | .alreadyThere => f.numbered 17 "File exists"
  | .notADirectory => f.numbered 20 "Not a directory"
  | .isADirectory => f.numbered 21 "Is a directory"
  | .nameTooLong => f.numbered 36 "File name too long"
  | .nullByte => "embedded null byte"
  | .other number text => f.numbered number text

end FileFault

structure FileSystem (m : Type → Type) where
  readFile : Path → m (Except FileFault ByteArray)
  writeFile : Path → ByteArray → m (Except FileFault Unit)
  makeDirectory : Path → m (Except FileFault Unit)
  isDirectory : Path → m Bool

namespace FileSystem

variable {m : Type → Type} [Monad m]

def accept (fs : FileSystem m) (fault : FileFault) : m (Except FileFault Unit) := do
  if fault.reason = .missing then return .error fault
  if ← fs.isDirectory fault.path then return .ok ()
  return .error fault

def ensureOne (fs : FileSystem m) (p : Path) : m (Except FileFault Unit) := do
  match ← fs.makeDirectory p with
  | .ok () => return .ok ()
  | .error fault => fs.accept { fault with path := p }

def ensureDirectory (fs : FileSystem m) (p : Path) : m (Except FileFault Unit) := do
  match ← fs.makeDirectory p with
  | .ok () => return .ok ()
  | .error fault =>
    if h : fault.reason = .missing ∧ p.parts ≠ [] then
      have := Path.length_parts_parent_lt h.2
      match ← ensureDirectory fs p.parent with
      | .ok () => fs.ensureOne p
      | .error fault => return .error fault
    else fs.accept { fault with path := p }
termination_by p.parts.length
decreasing_by exact this

end FileSystem

end Wiring
