import Countersign.Bytes
import Countersign.Text.Alphabet

/-! Bytes as digits of base 58. A leading zero byte is a leading `1`; the rest is one number,
written without leading zeros on either side. -/

namespace Countersign.Text.Base58

def alphabet : Alphabet where
  chars := "123456789ABCDEFGHJKLMNPQRSTUVWXYZabcdefghijkmnopqrstuvwxyz".toList
  nodup := by decide +kernel
  pos := by decide

def digits (b n : Nat) : List Nat :=
  if _ : n = 0 ∨ b < 2 then [] else digits b (n / b) ++ [n % b]
termination_by n
decreasing_by exact Nat.div_lt_self (by omega) (by omega)

def number (b : Nat) (ds : List Nat) : Nat := ds.foldl (fun n d => n * b + d) 0

def encode (data : Bytes) : List Char :=
  (data.takeWhile (· == 0)).map (fun _ => '1') ++ (digits 58 (Bytes.toNat data)).map alphabet.char

def decode (text : List Char) : Except Char Bytes :=
  (alphabet.values text).map fun ds =>
    Bytes.zeros (text.takeWhile (· == '1')).length ++ (digits 256 (number 58 ds)).map UInt8.ofNat

end Countersign.Text.Base58
