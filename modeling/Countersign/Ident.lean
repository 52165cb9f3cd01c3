import Countersign.Digest.Sha256
import Countersign.Text.Base58
import Countersign.Text.Quoted

namespace Countersign.Ident

open Text Digest

inductive Fault
  | badCharacter (text : String) (c : Char)
  | tooShort (text : String)
  | badChecksum (text : String)
  | badLength (got : Nat)
deriving DecidableEq, Repr

def Fault.message : Fault → String
  | .badCharacter text c =>
    s!"invalid cb58 string {quoted text}: Character {quoted c.toString} is not a valid base58 character"
  | .tooShort text => s!"cb58 string {quoted text} too short"
  | .badChecksum text => s!"cb58 checksum mismatch for {quoted text}"
  | .badLength got => s!"id must be 32 bytes, got {got}"

def size : Nat := 32

def empty : Bytes := Bytes.zeros size

def checksum (data : Bytes) : Bytes := (sha256 data).drop 28

theorem length_checksum (data : Bytes) : (checksum data).length = 4 := by
  simp [checksum, length_sha256]

def encode (data : Bytes) : String := String.ofList (Base58.encode (data ++ checksum data))

def decode (text : String) : Except Fault Bytes :=
  match Base58.decode text.toList with
  | .error c => .error (.badCharacter text c)
  | .ok raw =>
    if raw.length < 4 then .error (.tooShort text)
    else
      let data := raw.take (raw.length - 4)
      if checksum data = raw.drop (raw.length - 4) then .ok data else .error (.badChecksum text)

def sized (id : Bytes) : Except Fault Bytes :=
  if id.length = size then .ok id else .error (.badLength id.length)

def toText (id : Bytes) : Except Fault String := (sized id).map encode

def ofText (text : String) : Except Fault Bytes := do sized (← decode text)

end Countersign.Ident
