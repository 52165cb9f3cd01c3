import Countersign.Key.PrivateKey
import Countersign.Tx.Signed

namespace Countersign

open Text

structure Keyring where
  keys : List PrivateKey
  distinct : (keys.map PrivateKey.address).Nodup

namespace Keyring

inductive Fault
  | noKey (address : Bytes)
  | noCredentials
  | noSlot (slot : Int) (slots : Nat)
  | wire (fault : Wire.Fault)
  | key (fault : PrivateKey.Fault)
deriving DecidableEq, Repr

def Fault.message : Fault → String
  | .noKey address => s!"no key for address {Hex.ofBytes address}"
  | .noCredentials => "transaction has no credentials"
  | .noSlot slot slots => s!"slot {slot} out of range ({slots} slots)"
  | .wire fault => fault.message
  | .key fault => fault.message

def empty : Keyring := ⟨[], .nil⟩

def get? (ring : Keyring) (address : Bytes) : Option PrivateKey := ring.keys.find? (·.address == address)

def holds (ring : Keyring) (address : Bytes) : Bool := (ring.get? address).isSome

def addresses (ring : Keyring) : List Bytes := ring.keys.map (·.address)

theorem holds_iff (ring : Keyring) (address : Bytes) : ring.holds address = true ↔ address ∈ ring.addresses := by
  simp only [holds, get?, addresses, List.find?_isSome, List.mem_map, beq_iff_eq]

def replaced (ring : Keyring) (key : PrivateKey) : List PrivateKey :=
  ring.keys.map fun k => if k.address = key.address then key else k

theorem addresses_replaced (ring : Keyring) (key : PrivateKey) :
    (ring.replaced key).map PrivateKey.address = ring.addresses := by
  rw [replaced, addresses, List.map_map]
  refine List.map_congr_left fun k _ => ?_
  by_cases h : k.address = key.address
  · rw [Function.comp, if_pos h, h]
  · rw [Function.comp, if_neg h]

theorem nodup_append (ring : Keyring) (key : PrivateKey) (h : ¬ ring.holds key.address = true) :
    ((ring.keys ++ [key]).map PrivateKey.address).Nodup := by
  rw [holds_iff] at h
  rw [List.map_append, List.nodup_append]
  refine ⟨ring.distinct, by simp, ?_⟩
  rintro a ha b hb rfl
  rw [List.map_singleton, List.mem_singleton] at hb
  exact h (hb ▸ ha)

def add (ring : Keyring) (key : PrivateKey) : Keyring :=
  if h : ring.holds key.address then ⟨ring.replaced key, ring.addresses_replaced key ▸ ring.distinct⟩
  else ⟨ring.keys ++ [key], ring.nodup_append key h⟩

def key (ring : Keyring) (address : Bytes) : Except Fault PrivateKey :=
  match ring.get? address with
  | some key => .ok key
  | none => .error (.noKey address)

def signature (ring : Keyring) (seed : Bytes) (tx : SignedTx) (slot : Int) (address : Bytes) :
    Except Fault Bytes := do
  let key ← ring.key address
  match tx.trailing? with
  | none => throw .noCredentials
  | some cred =>
    if slot < 0 ∨ cred.sigs.length ≤ slot then throw (.noSlot slot cred.sigs.length)
    let digest ← tx.digest.mapError .wire
    let sig ← (key.sign seed digest).mapError .key
    return sig.toBytes

def ofHex (texts : List String) : Except PrivateKey.Fault Keyring :=
  texts.foldlM (fun ring text => ring.add <$> PrivateKey.ofHex text) empty

end Keyring

namespace SignedTx

def signer? (tx : SignedTx) (sig : Bytes) : Except Wire.Fault (Option Bytes) :=
  if sig = emptySignature then .ok none else PrivateKey.signer? sig <$> tx.digest

def recover (tx : SignedTx) : Except Wire.Fault (List (List (Option Bytes))) :=
  match tx.trailing? with
  | none => .ok []
  | some cred => do return [← cred.sigs.mapM tx.signer?]

end SignedTx

end Countersign
