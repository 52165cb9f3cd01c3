import Countersign.Chain.Extension
import Countersign.Position

namespace Countersign

open Wire

def signatureSize : Nat := 65

def emptySignature : Bytes := Bytes.zeros signatureSize

inductive Extension
  | secp | nft | property
deriving DecidableEq, Repr

namespace Extension

def all : List Extension := [secp, nft, property]

def credentialType : Extension → RecordType
  | secp => Chain.Secp.credential
  | nft => Chain.Nft.credential
  | property => Chain.Property.credential

end Extension

structure Credential where
  extension : Extension
  sigs : List Bytes
deriving DecidableEq, Repr

namespace Credential

def blank (slots : Nat) : Credential := ⟨.secp, List.replicate slots emptySignature⟩

def emptySlots (c : Credential) : List Nat :=
  (c.sigs.zipIdx.filter fun (sig, _) => sig = emptySignature).map (·.2)

def isFilled (c : Credential) : Bool := c.sigs.all (· ≠ emptySignature)

def setSlot (c : Credential) (slot : Nat) (sig : Bytes) : Credential :=
  { c with sigs := c.sigs.set slot sig }

def setAt (c : Credential) (position : Int) (sig : Bytes) : Credential :=
  match position? c.sigs.length position with
  | some slot => c.setSlot slot sig
  | none => c

def toValue (c : Credential) : Value := .record c.extension.credentialType [.list (c.sigs.map .bytes)]

def ofValue? (v : Value) : Option Credential := do
  let t ← v.type?
  let e ← Extension.all.find? (·.credentialType == t)
  return ⟨e, ← (← v.field? "sigs").bytesList?⟩

end Credential

end Countersign
