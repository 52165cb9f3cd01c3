import Countersign.Chain.Extension

namespace Countersign.Chain.Component

open Wire Layout

def make (name : String) (fields : List (String × Layout)) : RecordType := ⟨"avax", name, [], fields⟩

def utxoId : RecordType := make "UTXOID" [("tx_id", identLayout), ("output_index", u32)]

def transferableOutput : RecordType :=
  make "TransferableOutput" [("asset_id", identLayout), ("out", interface .output)]

def transferableInput : RecordType :=
  make "TransferableInput" [("utxo_id", struct utxoId), ("asset_id", identLayout), ("input", interface .input)]

def outputs : Layout := slice (struct transferableOutput)

def inputs : Layout := slice (struct transferableInput)

def baseTx : RecordType :=
  make "BaseTx"
    [("network_id", u32), ("blockchain_id", identLayout), ("outs", outputs), ("ins", inputs), ("memo", bytes)]

def all : List RecordType := [utxoId, transferableOutput, transferableInput, baseTx]

end Countersign.Chain.Component
