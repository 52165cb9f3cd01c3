import Countersign.Address
import Countersign.Chain.Extension
import Countersign.Text.Hex

/-! The control keys of a subnet and how many of them have to sign. Authorizations point into the keys
by position, so their order matters. That the threshold can be met is left to the chain. -/

namespace Countersign

open Wire Text

structure Ownership where
  controlKeys : List Bytes
  threshold : Int
  sized : ∀ key ∈ controlKeys, key.length = Address.size
deriving DecidableEq

namespace Ownership

inductive Fault
  | badKey (length : Nat)
  | notHex
  | missingEntry
deriving DecidableEq, Repr

def Fault.message : Fault → String
  | .badKey length => s!"control key must be {Address.size} bytes, got {length}"
  | .notHex => "non-hexadecimal"
  | .missingEntry => ""

def empty : Ownership := ⟨[], 0, by simp⟩

def ofKeys (keys : List Bytes) (threshold : Int) : Except Fault Ownership :=
  match h : keys.find? (·.length ≠ Address.size) with
  | some key => .error (.badKey key.length)
  | none => .ok ⟨keys, threshold, by simpa using h⟩

def ofOwners? (owners : Value) : Option (Except Fault Ownership) := do
  let keys ← (← owners.field? "addrs").bytesList?
  let threshold ← (← owners.field? "threshold").int?
  return ofKeys keys threshold

structure Listing where
  keys : Option (List String)
  threshold : Option Int
deriving DecidableEq, Repr

def toListing (o : Ownership) : Listing := ⟨some (o.controlKeys.map Hex.ofBytes), some o.threshold⟩

def ofListing (l : Listing) : Except Fault Ownership :=
  match l.keys with
  | none => .error .missingEntry
  | some keys =>
    match keys.mapM Hex.toBytes?, l.threshold with
    | none, _ => .error .notHex
    | some _, none => .error .missingEntry
    | some keys, some threshold => ofKeys keys threshold

end Ownership

end Countersign
