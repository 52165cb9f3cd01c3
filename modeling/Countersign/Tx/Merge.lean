import Countersign.Tx.Signed

namespace Countersign

open Wire

inductive MergeFault
  | wire (fault : Wire.Fault)
  | differentTransactions
  | credentialCount (ours theirs : Nat)
  | credentialShape (cred : Nat)
  | conflict (cred slot : Nat)
deriving DecidableEq, Repr

def MergeFault.message : MergeFault → String
  | .wire fault => fault.message
  | .differentTransactions => "cannot merge copies of different transactions"
  | .credentialCount ours theirs => s!"credential count differs: {ours} vs {theirs}"
  | .credentialShape cred => s!"credential {cred} has a different shape in each copy"
  | .conflict cred slot => s!"credential {cred} slot {slot} holds two different signatures"

def joinSlot (a b : Bytes) : Option Bytes :=
  if a = emptySignature then some b
  else if b = emptySignature ∨ a = b then some a
  else none

def joinSlots (cred : Nat) : (slot : Nat) → List Bytes → List Bytes → Except MergeFault (List Bytes)
  | slot, a :: as, b :: bs =>
    match joinSlot a b with
    | some sig => (joinSlots cred (slot + 1) as bs).map (sig :: ·)
    | none => .error (.conflict cred slot)
  | _, _, _ => .ok []

namespace Credential

def sameShape (c d : Credential) : Bool := c.extension == d.extension && c.sigs.length == d.sigs.length

def changes (c d : Credential) : Nat := (c.sigs.zip d.sigs).countP fun (a, b) => a ≠ b

end Credential

def joinCredentials : (cred : Nat) → List Credential → List Credential → Except MergeFault (List Credential)
  | i, c :: cs, d :: ds => do
    let sigs ← joinSlots i 0 c.sigs d.sigs
    return { c with sigs } :: (← joinCredentials (i + 1) cs ds)
  | _, _, _ => .ok []

def changedSlots : List Credential → List Credential → Nat
  | c :: cs, d :: ds => c.changes d + changedSlots cs ds
  | _, _ => 0

def shapeMismatch? : (cred : Nat) → List Credential → List Credential → Option Nat
  | i, c :: cs, d :: ds => if c.sameShape d then shapeMismatch? (i + 1) cs ds else some i
  | _, _, _ => none

namespace SignedTx

def checkSameUnsigned (ours theirs : SignedTx) : Except MergeFault Unit :=
  if ours.chain ≠ theirs.chain then .error .differentTransactions
  else do
    let a ← ours.unsignedBytes.mapError .wire
    let b ← theirs.unsignedBytes.mapError .wire
    if a ≠ b then throw .differentTransactions

def merge (ours theirs : SignedTx) : Except MergeFault (SignedTx × Nat) := do
  checkSameUnsigned ours theirs
  if ours.creds.length ≠ theirs.creds.length then
    throw (.credentialCount ours.creds.length theirs.creds.length)
  match shapeMismatch? 0 ours.creds theirs.creds with
  | some i => throw (.credentialShape i)
  | none =>
    let creds ← joinCredentials 0 ours.creds theirs.creds
    return ({ ours with creds }, changedSlots ours.creds creds)

end SignedTx

/-! ### In place -/

/-- Work on copies that are changed in place. What was written before a fault stays written. -/
abbrev Bench (ι α : Type) := ExceptT MergeFault (StateM (ι → SignedTx)) α

namespace Bench

variable {ι : Type} [DecidableEq ι]

def put (i : ι) (tx : SignedTx) (copies : ι → SignedTx) : ι → SignedTx := fun j => if j = i then tx else copies j

def writeBack (i : ι) : (cred : Nat) → List Credential → Bench ι Nat
  | _, [] => return 0
  | cred, c :: rest => do
    let tx := (← get) i
    let changes := (tx.creds[cred]?.map (·.changes c)).getD 0
    modify (put i { tx with creds := tx.creds.modify cred fun old => { old with sigs := c.sigs } })
    return changes + (← writeBack i (cred + 1) rest)

/-- Merges a copy into another one. All slots are joined before the first one is written. -/
def merge (i j : ι) : Bench ι Nat := do
  let copies ← get
  let (joined, _) ← (copies i).merge (copies j)
  writeBack i 0 joined.creds

end Bench

end Countersign
