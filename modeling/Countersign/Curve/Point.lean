import Countersign.Bytes
import Countersign.Curve.Modular

namespace Countersign.Curve

def fieldPrime : Nat := 0xfffffffffffffffffffffffffffffffffffffffffffffffffffffffefffffc2f

def order : Nat := 0xfffffffffffffffffffffffffffffffebaaedce6af48a03bbfd25e8cd0364141

inductive Point
  | infinity
  | affine (x y : Nat)
deriving DecidableEq, Repr

namespace Point

def generator : Point :=
  .affine 0x79be667ef9dcbbac55a06295ce870b07029bfcdb2dce28d959f2815b16f81798
    0x483ada7726a3c4655da4fbfc0e1108a8fd17b448a68554199c47d08ffb10d4b8

def third (slope x x' y : Nat) : Point :=
  let x'' := minus fieldPrime (minus fieldPrime (slope * slope) x) x'
  .affine x'' (minus fieldPrime (slope * minus fieldPrime x x'') y)

def add : Point → Point → Point
  | infinity, q => q
  | p, infinity => p
  | affine x y, affine x' y' =>
    if x ≠ x' then
      third (minus fieldPrime y' y * inverse fieldPrime (minus fieldPrime x' x) % fieldPrime) x x' y
    else if y = y' ∧ y ≠ 0 then
      third (3 * x * x * inverse fieldPrime (2 * y) % fieldPrime) x x' y
    else infinity

def negate : Point → Point
  | infinity => infinity
  | affine x y => affine x (minus fieldPrime 0 y)

def smul (k : Nat) (p : Point) : Point :=
  (bitsOf 256 k).foldl (fun acc bit => let twice := acc.add acc; if bit then twice.add p else twice) infinity

def lift (x : Nat) (odd : Bool) : Option Point :=
  let square := (x * x * x + 7) % fieldPrime
  let y := power fieldPrime square ((fieldPrime + 1) / 4)
  if x < fieldPrime ∧ y * y % fieldPrime = square then
    some (.affine x (if (y % 2 == 1) = odd then y else minus fieldPrime 0 y))
  else none

def compress : Point → Bytes
  | infinity => [0]
  | affine x y => (if y % 2 = 1 then 3 else 2) :: Bytes.ofNat 32 x

def uncompressed : Point → Bytes
  | infinity => [0]
  | affine x y => 4 :: (Bytes.ofNat 32 x ++ Bytes.ofNat 32 y)

end Point

end Countersign.Curve
