import Wiring.Text.Split

/-!
Paths of files, kept as their parts. Reading a text drops empty parts and single dots, so the two writings of one
path with and without them are one path.
-/

namespace Wiring

structure Path where
  -- `root` is empty for a path from the working directory, and else the slashes in front.
  root : String := ""
  parts : List String := []
  deriving DecidableEq

namespace Path

def rootOf (cs : List Char) : String :=
  match (cs.takeWhile (· = '/')).length with
  | 0 => ""
  | 2 => "//"
  | _ => "/"

def ofText (s : String) : Path where
  root := rootOf s.toList
  parts := ((Text.pieces '/' s.toList).map String.ofList).filter fun p => p ≠ "" ∧ p ≠ "."

def text (p : Path) : String :=
  if p.root = "" ∧ p.parts = [] then "." else p.root ++ "/".intercalate p.parts

def below (p : Path) (name : String) : Path :=
  let q := ofText name
  if q.root = "" then { p with parts := p.parts ++ q.parts } else q

def parent (p : Path) : Path :=
  { p with parts := p.parts.dropLast }

theorem length_parts_parent_lt {p : Path} (h : p.parts ≠ []) : p.parent.parts.length < p.parts.length := by
  have pos := List.length_pos_iff.2 h
  rw [parent, List.length_dropLast]
  omega

end Path

end Wiring
