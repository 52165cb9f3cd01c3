import Countersign.Wire.Decoder
import Countersign.Wire.Writer

namespace Countersign.Wire

def version : Nat := 0

def versionBytes : Bytes := Bytes.ofNat 2 version

def Reader.message {α : Type} (body : Reader α) : Reader α := do
  let v ← Reader.number 2
  if v ≠ version then throw (.badVersion v)
  let x ← body
  Reader.finish
  return x

namespace Codec

def writeTagged (c : Codec) (k : Kind) (v : Value) : Except Fault Bytes :=
  v.write (some c) (.interface k)

def marshalBy (c : Codec) (usage : Usage) (v : Value) (k : Kind) : Except Fault Bytes :=
  return versionBytes ++ (← v.writeBy usage (some c) (.interface k))

def marshal (c : Codec) (v : Value) (k : Kind) : Except Fault Bytes := c.marshalBy .strict v k

def unmarshal (c : Codec) (data : Bytes) (k : Kind) : Except Fault Value :=
  (Reader.message (c.readTagged k)).value data

def marshalStructBy (c : Codec) (usage : Usage) (v : Value) : Except Fault Bytes :=
  return versionBytes ++ (← v.writeBodyBy usage (some c))

def marshalStruct (c : Codec) (v : Value) : Except Fault Bytes := c.marshalStructBy .strict v

def unmarshalStruct (c : Codec) (data : Bytes) (t : RecordType) : Except Fault Value :=
  (Reader.message (t.read c.readTagged)).value data

def writeCredentials (c : Codec) (creds : List Value) : Except Fault Bytes :=
  return (← writeLength creds.length) ++ (← Value.writeAll (some c) (.interface .credential) creds)

def marshalSigned (c : Codec) (unsigned : Value) (creds : List Value) : Except Fault Bytes :=
  return versionBytes ++ (← c.writeTagged .unsignedTx unsigned) ++ (← c.writeCredentials creds)

def readSignedOver (nested : Kind → Reader Value) : Reader (Value × List Value) := do
  let unsigned ← nested .unsignedTx
  let creds ← Reader.many (nested .credential) (← Reader.length)
  return (unsigned, creds)

def readSigned (c : Codec) : Reader (Value × List Value) := readSignedOver c.readTagged

def unmarshalSigned (c : Codec) (data : Bytes) : Except Fault (Value × List Value) :=
  (Reader.message c.readSigned).value data

/-! ### In the room of a stack -/

def unmarshalIn (c : Codec) (room : Nat) (data : Bytes) (k : Kind) : Except Fault Value :=
  (Reader.message (c.readIn room k)).value data

def unmarshalStructIn (c : Codec) (room : Nat) (data : Bytes) (t : RecordType) : Except Fault Value :=
  (Reader.message (t.read (c.readIn room))).value data

def unmarshalSignedIn (c : Codec) (room : Nat) (data : Bytes) : Except Fault (Value × List Value) :=
  (Reader.message (readSignedOver (c.readIn room))).value data

end Codec

end Countersign.Wire
