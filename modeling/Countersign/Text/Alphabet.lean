namespace Countersign.Text

structure Alphabet where
  chars : List Char
  nodup : chars.Nodup
  pos : 0 < chars.length

namespace Alphabet

def size (a : Alphabet) : Nat := a.chars.length

def char (a : Alphabet) (n : Nat) : Char := a.chars.get ⟨n % a.size, Nat.mod_lt n a.pos⟩

def value? (a : Alphabet) (c : Char) : Option Nat := a.chars.idxOf? c

def values (a : Alphabet) : List Char → Except Char (List Nat)
  | [] => .ok []
  | c :: r =>
    match a.value? c with
    | none => .error c
    | some n => (a.values r).map (n :: ·)

end Alphabet

end Countersign.Text
