import Wiring.Text.Encoding.Grid

/-!
Encodings with one byte to a letter. The first letters are the bytes of their own numbers.
-/

namespace Wiring.Encoding

structure SingleByte where
  start : Nat
  letters : Grid
  deriving DecidableEq

namespace SingleByte

def byteOf? (e : SingleByte) (c : Char) : Option UInt8 :=
  if c.toNat < e.start then some (byte c.toNat) else (e.letters.cell? c).map byte

end SingleByte

end Wiring.Encoding
