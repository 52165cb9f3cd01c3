import Countersign.Address
import Countersign.Curve.Signature
import Countersign.Digest.Ripemd160
import Countersign.Text.Hex

namespace Countersign

open Curve Digest Text

def hash160 (b : Bytes) : Bytes := ripemd160 (sha256 b)

theorem length_hash160 (b : Bytes) : (hash160 b).length = Address.size := length_ripemd160 _

structure PrivateKey where
  secret : Nat
  publicKey : Bytes
  publicKey_eq : publicKey = (Point.smul secret .generator).compress
deriving DecidableEq

namespace PrivateKey

inductive Fault
  | badSecret
  | notHex
  | badDigest
  | unsignable
deriving DecidableEq, Repr

def Fault.message : Fault → String
  | .badSecret => "secret must be exactly 32 bytes"
  | .notHex => "non-hexadecimal"
  | .badDigest => "Hash must be exactly 32 bytes long"
  | .unsignable => "no usable nonce"

def ofSecret (secret : Bytes) : Except Fault PrivateKey :=
  if secret.length = 32 then
    let k := Bytes.toNat secret
    .ok ⟨k, (Point.smul k .generator).compress, rfl⟩
  else .error .badSecret

def ofHex (text : String) : Except Fault PrivateKey :=
  match Hex.toBytes? text with
  | some secret => ofSecret secret
  | none => .error .notHex

def address (k : PrivateKey) : Bytes := hash160 k.publicKey

def describe (k : PrivateKey) : String := s!"SoftKey({Hex.ofBytes k.address})"

def sign (k : PrivateKey) (seed digest : Bytes) : Except Fault Signature :=
  if digest.length = 32 then
    match Signature.sign? k.secret digest seed with
    | some g => .ok g
    | none => .error .unsignable
  else .error .badDigest

def signer? (sig digest : Bytes) : Option Bytes := do
  return hash160 (← (← Signature.ofBytes? sig).recoverKey? digest)

end PrivateKey

end Countersign
