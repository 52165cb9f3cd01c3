import Countersign.Curve.Point
import Countersign.Digest.Hmac

/-! Signatures from which the signer's key can be recovered: two numbers of 32 bytes and a byte that
tells which point the first number came from. What is signed here has a second number of at most half
the order; what is recovered from may have any numbers, of which only the remainders count. -/

namespace Countersign.Curve

open Digest

structure Signature where
  r : Nat
  s : Nat
  recovery : Nat
deriving DecidableEq, Repr

namespace Signature

def toBytes (g : Signature) : Bytes := Bytes.ofNat 32 g.r ++ Bytes.ofNat 32 g.s ++ Bytes.ofNat 1 g.recovery

def ofBytes? (b : Bytes) : Option Signature :=
  if 65 ≤ b.length then
    some ⟨Bytes.toNat (b.take 32), Bytes.toNat ((b.drop 32).take 32), Bytes.toNat ((b.drop 64).take 1)⟩
  else none

/-! ### The recovery byte

Its two low bits choose one of four points, its third bit the form in which the key is written. -/

def hasCompactForm (g : Signature) : Bool := g.recovery + 31 < 256

def isOdd (g : Signature) : Bool := g.recovery % 2 == 1

def abscissa (g : Signature) : Nat := g.r + g.recovery / 2 % 2 * order

def isCompressed (g : Signature) : Bool := g.recovery / 4 % 2 == 0

/-! ### Signing -/

def isLow (g : Signature) : Bool := 0 < g.s && g.s ≤ order / 2

def normalized (g : Signature) : Signature :=
  if order / 2 < g.s then ⟨g.r, order - g.s, g.recovery ^^^ 1⟩ else g

def withNonce? (secret hash nonce : Nat) : Option Signature :=
  match Point.smul nonce .generator with
  | .infinity => none
  | .affine x y =>
    let r := x % order
    let s := inverse order nonce * (hash + r * secret) % order
    if r = 0 ∨ s = 0 then none
    else some (normalized ⟨r, s, y % 2 + (if order ≤ x then 2 else 0)⟩)

def nonce (secret : Nat) (digest seed : Bytes) (i : Nat) : Nat :=
  Bytes.toNat (hmac (Bytes.ofNat 32 secret) (digest ++ Bytes.ofNat 4 i ++ seed)) % (order - 1) + 1

def sign? (secret : Nat) (digest seed : Bytes) : Option Signature :=
  (List.range 16).findSome? fun i =>
    withNonce? secret (Bytes.toNat digest % order) (nonce secret digest seed i)

/-! ### Recovery -/

def recover? (g : Signature) (digest : Bytes) : Option Point :=
  if g.hasCompactForm ∧ g.r % order ≠ 0 then do
    let p ← Point.lift g.abscissa g.isOdd
    let hash := Bytes.toNat digest % order
    let back := inverse order g.r
    return (p.smul (back * g.s % order)).add (Point.generator.smul (back * hash % order)).negate
  else none

def recoverKey? (g : Signature) (digest : Bytes) : Option Bytes :=
  (g.recover? digest).map fun q => if g.isCompressed then q.compress else q.uncompressed

end Signature

end Countersign.Curve
