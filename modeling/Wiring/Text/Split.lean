/-!
Cutting texts at a character, and into lines.
-/

namespace Wiring.Text

def pieces (mark : Char) : List Char → List (List Char)
  | [] => [[]]
  | c :: r =>
    if c = mark then [] :: pieces mark r
    else match pieces mark r with
      | [] => [[c]]
      | p :: ps => (c :: p) :: ps

def splitLast (mark : Char) (s : String) : String × String :=
  let reversed := s.toList.reverse
  (String.ofList (reversed.dropWhile (· ≠ mark)).tail.reverse, String.ofList (reversed.takeWhile (· ≠ mark)).reverse)

def lineEnds : List Char :=
  ['\n', '\r', '\x0b', '\x0c', '\x1c', '\x1d', '\x1e', '\u0085', '\u2028', '\u2029']

def linesFrom (begun : List Char) : List Char → List (List Char)
  -- A carriage return and a line feed end one line.
  | [] => if begun = [] then [] else [begun.reverse]
  | '\r' :: '\n' :: r => begun.reverse :: linesFrom [] r
  | c :: r => if c ∈ lineEnds then begun.reverse :: linesFrom [] r else linesFrom (c :: begun) r

def lines (s : String) : List String :=
  (linesFrom [] s.toList).map String.ofList

end Wiring.Text
