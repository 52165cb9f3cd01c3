import Countersign.Chain.Basic
import Countersign.Ident
import Countersign.Tx.Credential
import Countersign.Wire.Marshal

/-! A transaction with its credentials. What a slot signs is the digest of the bytes without the
credentials; the identifier is the digest of all bytes, and changes as slots are filled. -/

namespace Countersign

open Wire Digest

structure SignedTx where
  chain : Chain
  unsigned : Value
  creds : List Credential
deriving DecidableEq

namespace SignedTx

def kind (tx : SignedTx) : String := tx.unsigned.typeName

def describe (tx : SignedTx) : String :=
  s!"SignedTx({tx.chain.letter}, {tx.kind}, {tx.creds.length} creds)"

def unsignedBytes (tx : SignedTx) : Except Wire.Fault Bytes := tx.chain.codec.marshal tx.unsigned .unsignedTx

def digest (tx : SignedTx) : Except Wire.Fault Bytes := sha256 <$> tx.unsignedBytes

def toBytes (tx : SignedTx) : Except Wire.Fault Bytes :=
  tx.chain.codec.marshalSigned tx.unsigned (tx.creds.map (·.toValue))

def ofMessage (chain : Chain) (message : Value × List Value) : Except Wire.Fault SignedTx :=
  match message.2.mapM Credential.ofValue? with
  | some creds => return ⟨chain, message.1, creds⟩
  | none => throw .misshapen

def ofBytes (chain : Chain) (data : Bytes) : Except Wire.Fault SignedTx := do
  ofMessage chain (← chain.codec.unmarshalSigned data)

def ofBytesIn (room : Nat) (chain : Chain) (data : Bytes) : Except Wire.Fault SignedTx := do
  ofMessage chain (← chain.codec.unmarshalSignedIn room data)

def id (tx : SignedTx) : Except Wire.Fault Bytes := sha256 <$> tx.toBytes

def idText (tx : SignedTx) : Except Wire.Fault String := Ident.encode <$> tx.id

def setSlot (tx : SignedTx) (cred slot : Nat) (sig : Bytes) : SignedTx :=
  { tx with creds := tx.creds.modify cred (·.setSlot slot sig) }

def trailing? (tx : SignedTx) : Option Credential := tx.creds.getLast?

def setTrailing (tx : SignedTx) (slot : Nat) (sig : Bytes) : SignedTx :=
  tx.setSlot (tx.creds.length - 1) slot sig

end SignedTx

end Countersign
