import Countersign.Bytes

namespace Countersign.Text.Hex

def digitChars : List Char := "0123456789abcdef".toList

def digit (n : Nat) : Char := digitChars.getD n '0'

def byteChars (b : UInt8) : List Char := [digit (b.toNat / 16), digit (b.toNat % 16)]

def encode (b : Bytes) : List Char := b.flatMap byteChars

def ofBytes (b : Bytes) : String := String.ofList (encode b)

def value? (c : Char) : Option Nat :=
  if '0' ≤ c ∧ c ≤ '9' then some (c.toNat - '0'.toNat)
  else if 'a' ≤ c ∧ c ≤ 'f' then some (c.toNat - 'a'.toNat + 10)
  else if 'A' ≤ c ∧ c ≤ 'F' then some (c.toNat - 'A'.toNat + 10)
  else none

def isGap (c : Char) : Bool := c == ' ' || ('\t' ≤ c && c ≤ '\r')

def decode : List Char → Option Bytes
  | [] => some []
  | [c] => if isGap c then some [] else none
  | c :: d :: r =>
    if isGap c then decode (d :: r)
    else do
      let high ← value? c
      let low ← value? d
      let rest ← decode r
      return UInt8.ofNat (high * 16 + low) :: rest

def toBytes? (s : String) : Option Bytes := decode s.toList

end Countersign.Text.Hex
