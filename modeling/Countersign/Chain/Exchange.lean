import Countersign.Chain.Component

namespace Countersign.Chain.Exchange

open Wire Layout Component

def make (name : String) (kinds : List Kind) (fields : List (String × Layout)) : RecordType :=
  ⟨"X", name, kinds, fields⟩

def initialState : RecordType :=
  make "InitialState" [] [("fx_index", u32), ("outs", slice (interface .state))]

def operation : RecordType :=
  make "Operation" []
    [("asset_id", identLayout), ("utxo_ids", slice (struct utxoId)), ("op", interface .operation)]

def tx (name : String) (fields : List (String × Layout)) : RecordType :=
  make name [.unsignedTx] (("base", struct baseTx) :: fields)

def plainTx : RecordType := tx "BaseTx" []

def createAssetTx : RecordType :=
  tx "CreateAssetTx"
    [("name", text), ("symbol", text), ("denomination", u8), ("states", slice (struct initialState))]

def operationTx : RecordType := tx "OperationTx" [("ops", slice (struct operation))]

def importTx : RecordType := tx "ImportTx" [("source_chain", identLayout), ("imported_ins", inputs)]

def exportTx : RecordType := tx "ExportTx" [("destination_chain", identLayout), ("exported_outs", outputs)]

/-- Of the plain extension only the first five types have numbers here. -/
def entries : List (Option RecordType) :=
  ([plainTx, createAssetTx, operationTx, importTx, exportTx] ++ Secp.all.take 5 ++ Nft.all ++ Property.all).map some

def codec : Codec := ⟨"X", entries, by decide +kernel⟩

def types : List RecordType := [initialState, operation] ++ codec.types.filter (·.scope == "X")

end Countersign.Chain.Exchange
