import Countersign.Address
import Countersign.Bytes
import Countersign.Chain.Basic
import Countersign.Chain.Catalogue
import Countersign.Chain.Component
import Countersign.Chain.Contract
import Countersign.Chain.Detect
import Countersign.Chain.Exchange
import Countersign.Chain.Extension
import Countersign.Chain.Platform
import Countersign.Curve.Modular
import Countersign.Curve.Point
import Countersign.Curve.Signature
import Countersign.Decimal
import Countersign.Digest.Hmac
import Countersign.Digest.Ripemd160
import Countersign.Digest.Sha256
import Countersign.Draft.Basic
import Countersign.Draft.Commit
import Countersign.Draft.Fault
import Countersign.Draft.File
import Countersign.Draft.Resolver
import Countersign.Draft.Session
import Countersign.Draft.Sign
import Countersign.Ident
import Countersign.Key.Keyring
import Countersign.Key.PrivateKey
import Countersign.Network
import Countersign.Ownership
import Countersign.Position
import Countersign.Proofs.Chain.Detect
import Countersign.Proofs.Chain.Platform
import Countersign.Proofs.Draft.Basic
import Countersign.Proofs.Draft.Ceremony
import Countersign.Proofs.Draft.Convergence
import Countersign.Proofs.Draft.Exchange
import Countersign.Proofs.Draft.Growth
import Countersign.Proofs.Draft.Phase
import Countersign.Proofs.Draft.Progress
import Countersign.Proofs.Draft.Session
import Countersign.Proofs.Draft.Submission
import Countersign.Proofs.Tx.Merge
import Countersign.Proofs.Tx.Signed
import Countersign.Proofs.Wire.Canonical
import Countersign.Proofs.Wire.Reading
import Countersign.Proofs.Wire.RoundTrip
import Countersign.Proofs.Wire.Scalar
import Countersign.Proofs.Wire.Truncation
import Countersign.Proofs.Wire.Writing
import Countersign.RetryPolicy
import Countersign.Text.Base58
import Countersign.Text.Bech32
import Countersign.Text.Blank
import Countersign.Text.Hex
import Countersign.Text.Printable
import Countersign.Text.Quoted
import Countersign.Tx.Credential
import Countersign.Tx.Merge
import Countersign.Tx.Signed
import Countersign.Wire.Codec
import Countersign.Wire.Decoder
import Countersign.Wire.Fault
import Countersign.Wire.Kind
import Countersign.Wire.Layout
import Countersign.Wire.Marshal
import Countersign.Wire.Primitive
import Countersign.Wire.Reader
import Countersign.Wire.Scalar
import Countersign.Wire.Value
import Countersign.Wire.Writer
import Countersign.Proofs.Chain.Routing
import Countersign.Proofs.Tx.Slots
import Countersign.Proofs.Tx.Outcome
import Countersign.Proofs.Tx.Gathering
import Countersign.Proofs.Draft.Precedence
import Countersign.Proofs.Draft.Requests
import Countersign.Proofs.Draft.Schedule
import Countersign.Proofs.Key.Keyring
import Countersign.Proofs.Draft.Signing
import Countersign.Proofs.Draft.Refusal
import Countersign.Proofs.Text.Base58
import Countersign.Proofs.Ident
import Countersign.Proofs.Text.Regrouping
import Countersign.Proofs.Text.Bech32
import Countersign.Proofs.Address
import Countersign.Proofs.Draft.Caching
import Countersign.Proofs.Draft.Resumption
import Countersign.Proofs.Tx.Placement
import Countersign.Proofs.Text.Hex
import Countersign.Proofs.Draft.File
import Countersign.Proofs.Wire.Agreement
import Countersign.Proofs.Chain.Shared
import Countersign.Proofs.Wire.Cursor
import Countersign.Proofs.Wire.Appending
import Countersign.Proofs.Wire.Recursion
import Countersign.Proofs.Wire.Nesting
import Countersign.Proofs.Chain.Nesting
import Countersign.Proofs.Wire.Registry
import Countersign.Proofs.Wire.Room
import Countersign.Proofs.Chain.Room
import Countersign.Proofs.Wire.Usage
