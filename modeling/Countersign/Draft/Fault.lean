import Countersign.Key.Keyring
import Countersign.Ownership
import Countersign.Tx.Merge

namespace Countersign.Draft

open Text

inductive Cause
  | tooSlow (text : String)
  | unknownSubnet (subnet : Bytes)
  | signerFailed
  | other (name text : String)
deriving DecidableEq, Repr

def Cause.text : Cause → String
  | tooSlow text => text
  | unknownSubnet subnet => "unknown subnet " ++ Hex.ofBytes subnet
  | signerFailed => "signer failed"
  | other _ text => text

inductive Malformed
  | notGovernance (kind : String) (chain : Chain)
  | noSubnet (kind : String)
  | tooFewCredentials (found : Nat)
  | unfunded (cred : Nat)
  | undecodable (chain : Chain) (fault : Wire.Fault)
  | notHex
deriving DecidableEq, Repr

def Malformed.message : Malformed → String
  | .notGovernance kind chain => s!"{kind} on the {chain.letter}-Chain is not a subnet governance tx"
  | .noSubnet kind => s!"{kind} does not name a subnet"
  | .tooFewCredentials found => s!"expected funding and subnet auth credentials, found {found}"
  | .unfunded cred => s!"funding credential {cred} is not fully signed"
  | .undecodable chain fault => s!"cannot decode {chain.letter}-Chain tx: {fault.message}"
  -- the name of the file is put there by those who know it
  | .notHex => "<file> does not hold hex: non-hexadecimal"

inductive Corrupt
  | noControlKey (position : Int) (keys : Nat)
  | slotCount (slots expected : Nat)
deriving DecidableEq, Repr

def Corrupt.message : Corrupt → String
  | .noControlKey position keys =>
    s!"subnet auth index {position} out of range: subnet has {keys} control keys"
  | .slotCount slots expected => s!"subnet auth credential has {slots} slots, expected {expected}"

inductive Outcome
  | accepted
  | refused
  | raised (cause : Cause)
  | timedOut (cause : Option Cause)
deriving DecidableEq, Repr

namespace Outcome

def cause? : Outcome → Option Cause
  | raised cause => some cause
  | timedOut cause => cause
  | _ => none

def isTimeout : Outcome → Bool
  | timedOut _ => true
  | _ => false

def reason : Outcome → String
  | timedOut _ => "timed out"
  | raised cause => s!"rejected: {cause.text}"
  | _ => "rejected"

end Outcome

inductive Fault
  | wire (fault : Wire.Fault)
  | ident (fault : Ident.Fault)
  | ownership (fault : Ownership.Fault)
  | keyring (fault : Keyring.Fault)
  | merge (fault : MergeFault)
  | malformed (what : Malformed)
  | corrupt (what : Corrupt)
  | noSigner (missing : Nat)
  | notReady (kind : String)
  | noSubmitter
  | notSubmitted (id : String) (last : Outcome)
  | outside (cause : Cause)
  | unknownVariant
  | notText
deriving DecidableEq, Repr

def Fault.message : Fault → String
  | .wire fault => fault.message
  | .ident fault => fault.message
  | .ownership fault => fault.message
  | .keyring fault => fault.message
  | .merge fault => fault.message
  | .malformed what => what.message
  | .corrupt what => what.message
  | .noSigner missing => s!"keychain holds none of the {missing} missing signer(s)"
  | .notReady kind => s!"{kind} is not fully signed"
  | .noSubmitter => "commit_if_ready requires a submitter"
  | .notSubmitted id last => s!"submission of tx {id} failed ({last.reason})"
  | .outside cause => cause.text
  | .unknownVariant | .notText => ""

end Countersign.Draft
