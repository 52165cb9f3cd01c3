import Countersign.Bytes

namespace Countersign.Digest.Ripemd160

structure State where
  a : UInt32
  b : UInt32
  c : UInt32
  d : UInt32
  e : UInt32

def initial : State := ⟨0x67452301, 0xefcdab89, 0x98badcfe, 0x10325476, 0xc3d2e1f0⟩

def mix : Nat → UInt32 → UInt32 → UInt32 → UInt32
  | 0, x, y, z => x ^^^ y ^^^ z
  | 1, x, y, z => (x &&& y) ||| (~~~x &&& z)
  | 2, x, y, z => (x ||| ~~~y) ^^^ z
  | 3, x, y, z => (x &&& z) ||| (y &&& ~~~z)
  | _, x, y, z => x ^^^ (y ||| ~~~z)

structure Line where
  constants : List UInt32
  words : List Nat
  shifts : List UInt32
  group : Nat → Nat

def left : Line where
  constants := [0x00000000, 0x5a827999, 0x6ed9eba1, 0x8f1bbcdc, 0xa953fd4e]
  words := [
    0, 1, 2, 3, 4, 5, 6, 7, 8, 9, 10, 11, 12, 13, 14, 15,
    7, 4, 13, 1, 10, 6, 15, 3, 12, 0, 9, 5, 2, 14, 11, 8,
    3, 10, 14, 4, 9, 15, 8, 1, 2, 7, 0, 6, 13, 11, 5, 12,
    1, 9, 11, 10, 0, 8, 12, 4, 13, 3, 7, 15, 14, 5, 6, 2,
    4, 0, 5, 9, 7, 12, 2, 10, 14, 1, 3, 8, 11, 6, 15, 13]
  shifts := [
    11, 14, 15, 12, 5, 8, 7, 9, 11, 13, 14, 15, 6, 7, 9, 8,
    7, 6, 8, 13, 11, 9, 7, 15, 7, 12, 15, 9, 11, 7, 13, 12,
    11, 13, 6, 7, 14, 9, 13, 15, 14, 8, 13, 6, 5, 12, 7, 5,
    11, 12, 14, 15, 14, 15, 9, 8, 9, 14, 5, 6, 8, 6, 5, 12,
    9, 15, 5, 11, 6, 8, 13, 12, 5, 12, 13, 14, 11, 8, 5, 6]
  group := id

def right : Line where
  constants := [0x50a28be6, 0x5c4dd124, 0x6d703ef3, 0x7a6d76e9, 0x00000000]
  words := [
    5, 14, 7, 0, 9, 2, 11, 4, 13, 6, 15, 8, 1, 10, 3, 12,
    6, 11, 3, 7, 0, 13, 5, 10, 14, 15, 8, 12, 4, 9, 1, 2,
    15, 5, 1, 3, 7, 14, 6, 9, 11, 8, 12, 2, 10, 0, 4, 13,
    8, 6, 4, 1, 3, 11, 15, 0, 5, 12, 2, 13, 9, 7, 10, 14,
    12, 15, 10, 4, 1, 5, 8, 7, 6, 2, 13, 14, 0, 3, 9, 11]
  shifts := [
    8, 9, 9, 11, 13, 15, 15, 5, 7, 7, 8, 11, 14, 14, 12, 6,
    9, 13, 15, 7, 12, 8, 9, 11, 7, 7, 12, 7, 6, 15, 13, 11,
    9, 7, 15, 11, 8, 6, 6, 14, 12, 13, 5, 14, 13, 13, 7, 5,
    15, 5, 8, 11, 14, 14, 6, 14, 6, 9, 12, 9, 12, 5, 15, 8,
    8, 5, 12, 9, 12, 5, 14, 6, 8, 13, 6, 5, 15, 13, 11, 11]
  group := fun g => 4 - g

def rotl (x n : UInt32) : UInt32 := (x <<< n) ||| (x >>> (32 - n))

def step (line : Line) (block : List UInt32) (s : State) (j : Nat) : State :=
  let t := s.a + mix (line.group (j / 16)) s.b s.c s.d + block.getD (line.words.getD j 0) 0 +
    line.constants.getD (j / 16) 0
  ⟨s.e, rotl t (line.shifts.getD j 0) + s.e, s.b, rotl s.c 10, s.d⟩

def Line.run (line : Line) (block : List UInt32) (s : State) : State :=
  (List.range 80).foldl (step line block) s

def word (b : Bytes) : UInt32 := UInt32.ofNat (Bytes.toNat b.reverse)

def compress (s : State) (block : Bytes) : State :=
  let words := (pieces 3 block).map word
  let l := left.run words s
  let r := right.run words s
  ⟨s.b + l.c + r.d, s.c + l.d + r.e, s.d + l.e + r.a, s.e + l.a + r.b, s.a + l.b + r.c⟩

def pad (m : Bytes) : Bytes :=
  m ++ 0x80 :: Bytes.zeros ((119 - m.length % 64) % 64) ++ (Bytes.ofNat 8 (8 * m.length)).reverse

def State.toBytes (s : State) : Bytes :=
  [s.a, s.b, s.c, s.d, s.e].flatMap fun w => (Bytes.ofNat 4 w.toNat).reverse

end Ripemd160

@[irreducible] def ripemd160 (m : Bytes) : Bytes :=
  ((pieces 63 (Ripemd160.pad m)).foldl Ripemd160.compress Ripemd160.initial).toBytes

theorem length_ripemd160 (m : Bytes) : (ripemd160 m).length = 20 := by
  simp [ripemd160, Ripemd160.State.toBytes, Bytes.length_ofNat]

end Countersign.Digest
