import Wiring.Assoc
import Wiring.Text.Case
import Wiring.Text.Encoding.Domain.Table
import Wiring.Text.Encoding.Punycode
import Wiring.Text.Normalization
import Wiring.Text.Quoted
import Wiring.Text.Split

/-!
Texts as the names of internet domains: labels with dots between them. A label is written when the dot behind it is
there, so that what stands behind the last dot is not.
-/

namespace Wiring.Encoding.Domain

inductive Fault where
  | size
  | marked
  | forbidden (c : Char)
  | bothDirections
  | undirectedEnd
  deriving DecidableEq

def Fault.message : Fault → String
  | .size => "label empty or too long"
  | .marked => "Label starts with ACE prefix"
  | .forbidden c => "Invalid character " ++ Text.quoted (String.singleton c)
  | .bothDirections => "Violation of BIDI requirement 2"
  | .undirectedEnd => "Violation of BIDI requirement 3"

def mark : List Char :=
  ['x', 'n', '-', '-']

def withCommonDots (cs : List Char) : List Char :=
  cs.map fun c => if c ∈ ['\u3002', '\uff0e', '\uff61'] then '.' else c

def isInvisible (c : Char) : Bool :=
  c.toNat ∈ [0xad, 0x34f, 0x1806, 0x180b, 0x180c, 0x180d, 0x200b, 0x200c, 0x200d, 0x2060, 0xfeff] ||
    0xfe00 ≤ c.toNat && c.toNat ≤ 0xfe0f

def isWithin (ranges : List (Nat × Nat)) (c : Char) : Bool :=
  ranges.any fun r => r.1 ≤ c.toNat && c.toNat ≤ r.2

def fold (c : Char) : List Char :=
  match c with
  | 'ß' => ['s', 's']
  | '\u0345' => ['ι']
  | 'ς' => ['σ']
  | c => Text.small c

def parts (c : Char) : List Char :=
  if isWithin undividedRanges c then [c]
  else match Assoc.find? c.toNat formerParts with
    | some n => [Char.ofNat n]
    | none => (Text.Normalization.decompose c.toNat).map Char.ofNat

def folded (label : List Char) : List Char :=
  ((label.filter (!isInvisible ·)).flatMap fold).flatMap fun c => (parts c).flatMap fold

def normal (label : List Char) : List Char :=
  Text.Normalization.compose ((label.flatMap parts).map Char.toNat)

def checkDirection (label : List Char) : Except Fault Unit :=
  let isLeftward := isWithin leftwardRanges
  if !label.any isLeftward then .ok ()
  else if label.any (isWithin rightwardRanges) then .error .bothDirections
  else if label.head?.all isLeftward && label.getLast?.all isLeftward then .ok ()
  else .error .undirectedEnd

def prepared (label : List Char) : Except Fault (List Char) := do
  let label := normal (folded label)
  match label.find? (isWithin forbiddenRanges) with
  | some c => throw (.forbidden c)
  | none =>
    checkDirection label
    return label

def sized (label : List Char) : Except Fault (List Char) :=
  if label ≠ [] ∧ label.length < 64 then .ok label else .error .size

def isCommon (label : List Char) : Bool :=
  label.all fun c => c.toNat < 128

def encodeLabel (label : List Char) : Except Fault (List Char) :=
  if isCommon label then sized label
  else do
    let label ← prepared label
    if isCommon label then sized label
    else if mark.isPrefixOf label then throw .marked
    else sized (mark ++ Punycode.encode label)

def encode (text : List Char) : Except Fault (List Char) := do
  let labels ← (Text.pieces '.' (withCommonDots text)).dropLast.mapM encodeLabel
  return labels.flatMap (· ++ ['.'])

end Wiring.Encoding.Domain
