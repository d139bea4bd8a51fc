/-!
Tables of letters in numbered cells, and the places of cells in bytes.
-/

namespace Wiring.Encoding

abbrev Grid := List (Nat × String)

namespace Grid

def cell? (g : Grid) (c : Char) : Option Nat :=
  g.findSome? fun run => (run.2.toList.idxOf? c).map (run.1 + ·)

def letters (g : Grid) : List Char :=
  g.flatMap fun run => run.2.toList

end Grid

def byte (n : Nat) : UInt8 :=
  UInt8.ofNat n

def square (base cell : Nat) : List UInt8 :=
  [byte (base + cell / 94), byte (base + cell % 94)]

end Wiring.Encoding
