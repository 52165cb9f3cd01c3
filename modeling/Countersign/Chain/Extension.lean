import Countersign.Wire.Codec

namespace Countersign.Chain

open Wire Layout

def identLayout : Layout := fixed 32

def addressLayout : Layout := fixed 20

def signatureLayout : Layout := fixed 65

namespace Secp

def make (name : String) (kinds : List Kind) (fields : List (String × Layout)) : RecordType :=
  ⟨"secp", name, kinds, fields⟩

def outputOwners : RecordType :=
  make "OutputOwners" [.owner] [("locktime", u64), ("threshold", u32), ("addrs", slice addressLayout)]

def input : RecordType := make "Input" [.auth] [("sig_indices", slice u32)]

def transferInput : RecordType :=
  make "TransferInput" [.input] [("amount", u64), ("input", struct input)]

def transferOutput : RecordType :=
  make "TransferOutput" [.output, .state] [("amount", u64), ("owners", struct outputOwners)]

def mintOutput : RecordType := make "MintOutput" [.output, .state] [("owners", struct outputOwners)]

def mintOperation : RecordType :=
  make "MintOperation" [.operation]
    [("mint_input", struct input), ("mint_output", struct mintOutput), ("transfer_output", struct transferOutput)]

def credential : RecordType := make "Credential" [.credential] [("sigs", slice signatureLayout)]

def all : List RecordType :=
  [transferInput, mintOutput, transferOutput, mintOperation, credential, input, outputOwners]

end Secp

namespace Nft

def make (name : String) (kinds : List Kind) (fields : List (String × Layout)) : RecordType :=
  ⟨"nft", name, kinds, fields⟩

def mintOutput : RecordType :=
  make "NFTMintOutput" [.output, .state] [("group_id", u32), ("owners", struct Secp.outputOwners)]

def transferOutput : RecordType :=
  make "NFTTransferOutput" [.output, .state]
    [("group_id", u32), ("payload", bytes), ("owners", struct Secp.outputOwners)]

def mintOperation : RecordType :=
  make "NFTMintOperation" [.operation]
    [("mint_input", struct Secp.input), ("group_id", u32), ("payload", bytes),
      ("outputs", slice (struct Secp.outputOwners))]

def transferOperation : RecordType :=
  make "NFTTransferOperation" [.operation] [("input", struct Secp.input), ("output", struct transferOutput)]

def credential : RecordType := make "NFTCredential" [.credential] [("sigs", slice signatureLayout)]

def all : List RecordType := [mintOutput, transferOutput, mintOperation, transferOperation, credential]

end Nft

namespace Property

def make (name : String) (kinds : List Kind) (fields : List (String × Layout)) : RecordType :=
  ⟨"property", name, kinds, fields⟩

def mintOutput : RecordType :=
  make "PropertyMintOutput" [.output, .state] [("owners", struct Secp.outputOwners)]

def ownedOutput : RecordType :=
  make "PropertyOwnedOutput" [.output, .state] [("owners", struct Secp.outputOwners)]

def mintOperation : RecordType :=
  make "PropertyMintOperation" [.operation]
    [("mint_input", struct Secp.input), ("mint_output", struct mintOutput), ("owned_output", struct ownedOutput)]

def burnOperation : RecordType := make "PropertyBurnOperation" [.operation] [("input", struct Secp.input)]

def credential : RecordType := make "PropertyCredential" [.credential] [("sigs", slice signatureLayout)]

def all : List RecordType := [mintOutput, ownedOutput, mintOperation, burnOperation, credential]

end Property

end Countersign.Chain
