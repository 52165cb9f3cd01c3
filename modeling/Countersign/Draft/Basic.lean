import Countersign.Draft.Resolver
import Countersign.Network
import Countersign.RetryPolicy

/-! One copy of a transaction that several parties sign. A governance transaction names the control
keys that authorize it by position; its last credential has a slot for each of them, the other
credentials pay for it. The creation of a subnet has only the credentials that pay. -/

namespace Countersign

structure Draft where
  tx : SignedTx
  policy : RetryPolicy
  /-- The ownership that the copy was told first; it is not asked for again. -/
  snapshot : Option Ownership
  committed : Option String

namespace Draft

inductive Phase
  | unsigned | partiallySigned | readyToCommit | committed
deriving DecidableEq, Repr

namespace Phase

def name : Phase → String
  | unsigned => "unsigned"
  | partiallySigned => "partially_signed"
  | readyToCommit => "ready_to_commit"
  | committed => "committed"

def rank : Phase → Nat
  | unsigned => 0
  | partiallySigned => 1
  | readyToCommit => 2
  | committed => 3

end Phase

structure Signers where
  required : List Bytes
  missing : List Bytes
deriving DecidableEq, Repr

end Draft

namespace SignedTx

open Draft

/-- Only the creation of a subnet is authorized by those who pay for it. -/
def needsAuthorization (tx : SignedTx) : Bool := tx.unsigned.type? ≠ some Chain.Platform.createSubnetTx

def authorization (tx : SignedTx) : Except Fault (List Int) :=
  match tx.chain.subnetAuth? tx.unsigned with
  | some positions => .ok positions
  | none => .error (.malformed (.notGovernance tx.kind tx.chain))

def subnetId? (tx : SignedTx) : Option Bytes := tx.chain.subnetId? tx.unsigned

def networkId (tx : SignedTx) : Except Fault Int :=
  match tx.chain.networkId? tx.unsigned with
  | some id => .ok id
  | none => .error .unknownVariant

def funding (tx : SignedTx) : List Credential :=
  if tx.needsAuthorization then tx.creds.dropLast else tx.creds

def missingFees (tx : SignedTx) : List (Nat × Nat) :=
  tx.funding.zipIdx.flatMap fun (cred, i) => cred.emptySlots.map (i, ·)

/-- A transaction that is paid for has two credentials at least and no empty slot but in the last. -/
def checkFunding (tx : SignedTx) : Except Fault Unit :=
  if tx.creds.length < 2 then .error (.malformed (.tooFewCredentials tx.creds.length))
  else
    match tx.creds.dropLast.zipIdx.find? fun (cred, _) => !cred.isFilled with
    | some (_, i) => .error (.malformed (.unfunded i))
    | none => .ok ()

def trailingSigs (tx : SignedTx) : List Bytes := (tx.trailing?.map (·.sigs)).getD []

def lacks (tx : SignedTx) (slot : Nat) : Bool := tx.trailingSigs[slot]? = some emptySignature

def isFilled (tx : SignedTx) : Bool := tx.creds.all (·.isFilled)

def hasSignature (tx : SignedTx) : Bool := tx.creds.any fun c => c.sigs.any (· ≠ emptySignature)

end SignedTx

def Draft.keysAt (o : Ownership) : List Int → Except Draft.Fault (List Bytes)
  | [] => .ok []
  | i :: is =>
    match (position? o.controlKeys.length i).bind (o.controlKeys[·]?) with
    | none => .error (.corrupt (.noControlKey i o.controlKeys.length))
    | some key => (keysAt o is).map (key :: ·)

namespace SignedTx

open Draft

def compare (tx : SignedTx) (required : List Bytes) : Except Fault Signers :=
  let slots := tx.trailingSigs
  if slots.length = required.length then
    .ok ⟨required, ((required.zip slots).filter fun (_, sig) => sig = emptySignature).map (·.1)⟩
  else .error (.corrupt (.slotCount slots.length required.length))

end SignedTx

namespace Draft

def ofTx (tx : SignedTx) (policy : RetryPolicy) : Draft := ⟨tx, policy, none, none⟩

/-- A copy of a transaction that was read. Bytes that are refused are malformed; want of room is passed on. -/
def ofDecoded (chain : Chain) (policy : RetryPolicy) : Except Wire.Fault SignedTx → Except Fault Draft
  | .ok tx => .ok (ofTx tx policy)
  | .error .noRoom => .error (.wire .noRoom)
  | .error f => .error (.malformed (.undecodable chain f))

def ofBytes (chain : Chain) (data : Bytes) (policy : RetryPolicy) : Except Fault Draft :=
  ofDecoded chain policy (SignedTx.ofBytes chain data)

def ofBytesIn (room : Nat) (chain : Chain) (data : Bytes) (policy : RetryPolicy) : Except Fault Draft :=
  ofDecoded chain policy (SignedTx.ofBytesIn room chain data)

def toBytes (m : Draft) : Except Fault Bytes := m.tx.toBytes.mapError .wire

def describe (m : Draft) : String := s!"Multisig({m.tx.kind}, {m.tx.chain.letter}-Chain)"

def merge (m other : Draft) : Except Fault (Draft × Nat) :=
  match m.tx.merge other.tx with
  | .ok (tx, n) => .ok ({ m with tx }, n)
  | .error f => .error (.merge f)

end Draft

end Countersign
