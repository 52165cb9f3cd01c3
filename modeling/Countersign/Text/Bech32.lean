import Countersign.Bytes
import Countersign.Text.Alphabet

/-! Five-bit symbols under a human readable word, with a check sum of six symbols. The check sum is
a remainder of polynomials over the field of 32 elements, kept in thirty bits. -/

namespace Countersign.Text.Bech32

def alphabet : Alphabet where
  chars := "qpzry9x8gf2tvdw0s3jn54khce6mua7l".toList
  nodup := by decide +kernel
  pos := by decide

/-! ### Check sum -/

def generators : List (BitVec 30) := [0x3b6a57b2, 0x26508e6d, 0x1ea119fa, 0x3d4233dd, 0x2a1462b3]

def feedback (top : BitVec 30) : BitVec 30 :=
  (generators.zipIdx.map fun (g, i) => if top.getLsbD i then g else 0).foldl (· ^^^ ·) 0

def absorb (state : BitVec 30) (v : Nat) : BitVec 30 :=
  (state <<< 5) ^^^ BitVec.ofNat 30 v ^^^ feedback (state >>> 25)

def remainder (vs : List Nat) : BitVec 30 := vs.foldl absorb 1

def expand (word : List Char) : List Nat :=
  word.map (·.toNat / 32) ++ 0 :: word.map (·.toNat % 32)

def checksum (word : List Char) (vs : List Nat) : List Nat :=
  let r := remainder (expand word ++ vs ++ List.replicate 6 0) ^^^ 1
  [25, 20, 15, 10, 5, 0].map fun s => (r >>> s).toNat % 32

def verifies (word : List Char) (vs : List Nat) : Bool := remainder (expand word ++ vs) == 1

/-! ### Symbols and bytes -/

def bits : (width : Nat) → Nat → List Bool
  | 0, _ => []
  | width + 1, n => bits width (n / 2) ++ [n % 2 == 1]

def ofBits (bs : List Bool) : Nat := bs.foldl (fun n b => n * 2 + b.toNat) 0

def symbols (data : Bytes) : List Nat :=
  (pieces 4 (data.flatMap fun b => bits 8 b.toNat)).map fun p => ofBits (p ++ List.replicate (5 - p.length) false)

def bytes? (vs : List Nat) : Option Bytes :=
  let all := vs.flatMap (bits 5)
  let whole := all.length / 8 * 8
  let rest := all.drop whole
  if rest.length < 5 ∧ rest.all (! ·) then
    some ((pieces 7 (all.take whole)).map fun p => UInt8.ofNat (ofBits p))
  else none

/-! ### Text -/

def encode (word : List Char) (vs : List Nat) : List Char :=
  word ++ '1' :: (vs ++ checksum word vs).map alphabet.char

def splitLast (text : List Char) : Option (List Char × List Char) :=
  let tail := text.reverse.takeWhile (· != '1')
  if tail.length < text.length then
    some (text.take (text.length - tail.length - 1), tail.reverse)
  else none

def isAdmissible (text : List Char) : Bool :=
  text.all (fun c => 33 ≤ c.toNat && c.toNat ≤ 126) && !(text.any (·.isUpper) && text.any (·.isLower))

def maxWord : Nat := 83

def decode (text : List Char) : Option (List Char × List Nat) := do
  if isAdmissible text then
    let (word, tail) ← splitLast (text.map (·.toLower))
    let vs ← (alphabet.values tail).toOption
    if !word.isEmpty && word.length ≤ maxWord && 6 ≤ vs.length && verifies word vs then
      some (word, vs.take (vs.length - 6))
    else none
  else none

end Countersign.Text.Bech32
