import Countersign.Chain.Component

namespace Countersign.Chain.Contract

open Wire Layout Component

def make (name : String) (kinds : List Kind) (fields : List (String × Layout)) : RecordType :=
  ⟨"C", name, kinds, fields⟩

def evmOutput : RecordType :=
  make "EVMOutput" [] [("address", addressLayout), ("amount", u64), ("asset_id", identLayout)]

def evmInput : RecordType :=
  make "EVMInput" [] [("address", addressLayout), ("amount", u64), ("asset_id", identLayout), ("nonce", u64)]

def tx (name : String) (fields : List (String × Layout)) : RecordType :=
  make name [.unsignedTx] (("network_id", u32) :: ("blockchain_id", identLayout) :: fields)

def importTx : RecordType :=
  tx "ImportTx"
    [("source_chain", identLayout), ("imported_inputs", inputs), ("outs", slice (struct evmOutput))]

def exportTx : RecordType :=
  tx "ExportTx"
    [("destination_chain", identLayout), ("ins", slice (struct evmInput)), ("exported_outputs", outputs)]

def entries : List (Option RecordType) :=
  [some importTx, some exportTx, none, none, none] ++ Secp.all.map some

def codec : Codec := ⟨"C", entries, by decide +kernel⟩

def types : List RecordType := [evmOutput, evmInput] ++ codec.types.filter (·.scope == "C")

end Countersign.Chain.Contract
