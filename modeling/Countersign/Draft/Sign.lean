import Countersign.Draft.Commit

/-! Signing for those a signatory can sign for. Every empty slot of such a signer is signed, in order; a slot
that is filled is never touched. -/

namespace Countersign.Draft

structure Signing where
  written : Option Bytes
  failure : Option Fault
deriving DecidableEq, Repr

def Signing.ofResult : Except Fault Bytes → Signing
  | .ok sig => ⟨some sig, none⟩
  | .error f => ⟨none, some f⟩

structure Signatory where
  holds : Bytes → Bool
  sign : SignedTx → Nat → Bytes → Signing

def Signatory.ofKeyring (ring : Keyring) (seed : Nat → Bytes) : Signatory where
  holds := ring.holds
  sign tx slot address := .ofResult ((ring.signature (seed slot) tx slot address).mapError .keyring)

structure SignOptions where
  checkFirst : Bool
  commitIfReady : Bool
  wait : Bool
deriving DecidableEq, Repr

structure SignResult where
  ready : Bool
  committed : Bool
  id : String
deriving DecidableEq, Repr

namespace Session

variable {σ : Type}

/-- Has a slot signed. A signature that was put there stays, also if the signing fails after that. -/
def signSlot (k : Signatory) (slot : Nat) (signer : Bytes) : Session σ Unit := do
  note (.signing slot signer)
  let signing := k.sign (← tx) slot signer
  if let some sig := signing.written then
    update fun m => { m with tx := m.tx.setTrailing slot sig }
  if let some f := signing.failure then throw f

def signSlots (k : Signatory) : (slot : Nat) → List Bytes → Session σ Unit
  | _, [] => return ()
  | slot, signer :: rest => do
    if (← tx).lacks slot && k.holds signer then signSlot k slot signer
    signSlots k (slot + 1) rest

def finish (r : Resolver σ) (o : SignOptions) (s : Option Submitter) : Session σ SignResult := do
  match o.commitIfReady, s with
  | true, some s => return ⟨true, true, ← commit r s o.wait⟩
  | _, _ => return ⟨true, false, ← (← tx).idText.mapError Fault.wire⟩

def sign (r : Resolver σ) (k : Signatory) (o : SignOptions) (s : Option Submitter) : Session σ SignResult := do
  match (← copy).committed with
  | some id => return ⟨true, true, id⟩
  | none =>
    if o.commitIfReady && s.isNone then throw .noSubmitter
    if (← tx).needsAuthorization then
      let before ← signers r
      if o.checkFirst && !before.missing.isEmpty && !before.missing.any k.holds then
        throw (.noSigner before.missing.length)
      signSlots k 0 before.required
      if (← signers r).missing.isEmpty then finish r o s else return ⟨false, false, ""⟩
    else if ← isReady r then finish r o s
    else return ⟨false, false, ""⟩

end Session

end Countersign.Draft
