import Countersign.Chain.Component

/-! The platform chain: validators, subnets and chains. A transaction that governs a subnet carries
an authorization, whose positions name the control keys that sign. -/

namespace Countersign.Chain.Platform

open Wire Layout Component

def make (name : String) (kinds : List Kind) (fields : List (String × Layout)) : RecordType :=
  ⟨"P", name, kinds, fields⟩

/-! ### Components -/

def lockIn : RecordType :=
  make "LockIn" [.input] [("locktime", u64), ("transferable_in", interface .input)]

def lockOut : RecordType :=
  make "LockOut" [.output] [("locktime", u64), ("transferable_out", interface .output)]

def emptySigner : RecordType := make "EmptySigner" [.signer] []

def proofOfPossession : RecordType :=
  make "ProofOfPossession" [.signer] [("public_key", fixed 48), ("proof_of_possession", fixed 96)]

def validator : RecordType :=
  make "Validator" [] [("node_id", addressLayout), ("start", u64), ("end", u64), ("weight", u64)]

def subnetValidator : RecordType :=
  make "SubnetValidator" [] [("validator", struct validator), ("subnet", identLayout)]

def owner : RecordType := make "PChainOwner" [] [("threshold", u32), ("addresses", slice addressLayout)]

def convertedValidator : RecordType :=
  make "ConvertSubnetToL1Validator" []
    [("node_id", bytes), ("weight", u64), ("balance", u64), ("signer", struct proofOfPossession),
      ("remaining_balance_owner", struct owner), ("deactivation_owner", struct owner)]

/-! ### Transactions -/

def tx (name : String) (fields : List (String × Layout)) : RecordType :=
  make name [.unsignedTx] (("base", struct baseTx) :: fields)

def addValidatorTx : RecordType :=
  tx "AddValidatorTx"
    [("validator", struct validator), ("stake_outs", outputs), ("rewards_owner", interface .owner),
      ("delegation_shares", u32)]

def addSubnetValidatorTx : RecordType :=
  tx "AddSubnetValidatorTx" [("subnet_validator", struct subnetValidator), ("subnet_auth", interface .auth)]

def addDelegatorTx : RecordType :=
  tx "AddDelegatorTx"
    [("validator", struct validator), ("stake_outs", outputs), ("delegation_rewards_owner", interface .owner)]

def createChainTx : RecordType :=
  tx "CreateChainTx"
    [("subnet_id", identLayout), ("chain_name", text), ("vm_id", identLayout), ("fx_ids", slice identLayout),
      ("genesis_data", bytes), ("subnet_auth", interface .auth)]

def createSubnetTx : RecordType := tx "CreateSubnetTx" [("owner", interface .owner)]

def importTx : RecordType := tx "ImportTx" [("source_chain", identLayout), ("imported_inputs", inputs)]

def exportTx : RecordType := tx "ExportTx" [("destination_chain", identLayout), ("exported_outputs", outputs)]

def removeSubnetValidatorTx : RecordType :=
  tx "RemoveSubnetValidatorTx"
    [("node_id", addressLayout), ("subnet", identLayout), ("subnet_auth", interface .auth)]

def transformSubnetTx : RecordType :=
  tx "TransformSubnetTx"
    [("subnet", identLayout), ("asset_id", identLayout), ("initial_supply", u64), ("maximum_supply", u64),
      ("min_consumption_rate", u64), ("max_consumption_rate", u64), ("min_validator_stake", u64),
      ("max_validator_stake", u64), ("min_stake_duration", u32), ("max_stake_duration", u32),
      ("min_delegation_fee", u32), ("min_delegator_stake", u64), ("max_validator_weight_factor", u8),
      ("uptime_requirement", u32), ("subnet_auth", interface .auth)]

def addPermissionlessValidatorTx : RecordType :=
  tx "AddPermissionlessValidatorTx"
    [("validator", struct validator), ("subnet", identLayout), ("signer", interface .signer),
      ("stake_outs", outputs), ("validator_rewards_owner", interface .owner),
      ("delegator_rewards_owner", interface .owner), ("delegation_shares", u32)]

def addPermissionlessDelegatorTx : RecordType :=
  tx "AddPermissionlessDelegatorTx"
    [("validator", struct validator), ("subnet", identLayout), ("stake_outs", outputs),
      ("delegation_rewards_owner", interface .owner)]

def transferSubnetOwnershipTx : RecordType :=
  tx "TransferSubnetOwnershipTx"
    [("subnet", identLayout), ("subnet_auth", interface .auth), ("owner", interface .owner)]

def plainTx : RecordType := tx "BaseTx" []

def convertSubnetTx : RecordType :=
  tx "ConvertSubnetToL1Tx"
    [("subnet", identLayout), ("chain_id", identLayout), ("address", bytes),
      ("validators", slice (struct convertedValidator)), ("subnet_auth", interface .auth)]

def registerValidatorTx : RecordType :=
  tx "RegisterL1ValidatorTx" [("balance", u64), ("proof_of_possession", fixed 96), ("message", bytes)]

def setValidatorWeightTx : RecordType := tx "SetL1ValidatorWeightTx" [("message", bytes)]

def increaseBalanceTx : RecordType :=
  tx "IncreaseL1ValidatorBalanceTx" [("validation_id", identLayout), ("balance", u64)]

def disableValidatorTx : RecordType :=
  tx "DisableL1ValidatorTx" [("validation_id", identLayout), ("disable_auth", interface .auth)]

/-! ### Registry -/

def free (n : Nat) : List (Option RecordType) := List.replicate n none

/-- The free numbers belong to blocks and to transactions that no wallet builds. -/
def entries : List (Option RecordType) :=
  free 5 ++ Secp.all.map some ++
  [some addValidatorTx, some addSubnetValidatorTx, some addDelegatorTx, some createChainTx,
    some createSubnetTx, some importTx, some exportTx] ++
  free 2 ++
  [some lockIn, some lockOut, some removeSubnetValidatorTx, some transformSubnetTx,
    some addPermissionlessValidatorTx, some addPermissionlessDelegatorTx, some emptySigner,
    some proofOfPossession] ++
  free 4 ++
  [some transferSubnetOwnershipTx, some plainTx, some convertSubnetTx, some registerValidatorTx,
    some setValidatorWeightTx, some increaseBalanceTx, some disableValidatorTx]

def codec : Codec := ⟨"P", entries, by decide +kernel⟩

def types : List RecordType :=
  [validator, subnetValidator, owner, convertedValidator] ++ codec.types.filter (·.scope == "P")

/-! ### Subnets -/

def subnetPaths : List (RecordType × List String) := [
  (addSubnetValidatorTx, ["subnet_validator", "subnet"]),
  (removeSubnetValidatorTx, ["subnet"]),
  (createChainTx, ["subnet_id"]),
  (transformSubnetTx, ["subnet"]),
  (addPermissionlessValidatorTx, ["subnet"]),
  (addPermissionlessDelegatorTx, ["subnet"]),
  (transferSubnetOwnershipTx, ["subnet"]),
  (convertSubnetTx, ["subnet"])]

/-- The transactions that the control keys of a subnet authorize. -/
def governance : List RecordType :=
  [addSubnetValidatorTx, removeSubnetValidatorTx, createChainTx, transformSubnetTx, transferSubnetOwnershipTx,
    convertSubnetTx]

def subnetId? (tx : Value) : Option Bytes := do
  let path ← subnetPaths.lookup (← tx.type?)
  (← tx.at? path).bytes?

def subnetAuth? (tx : Value) : Option (List Int) := do
  if (← tx.type?) ∈ governance then
    (← tx.at? ["subnet_auth", "sig_indices"]).ints?
  else none

end Countersign.Chain.Platform
