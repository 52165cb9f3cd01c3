import Countersign.Proofs.Text.Alphabet
import Countersign.Text.Base58
import Mathlib.Data.Nat.Digits.Lemmas

/-! A list of digits is the zeros it begins with and the number that it stands for, whatever the base. Bytes and their
text have both in common, so each is told by the other. -/

namespace Countersign.Text.Base58

variable {b n z : Nat} {ds : List Nat} {text : List Char} {data : Bytes}

lemma digits_eq_reverse (hb : 1 < b) (n : Nat) : digits b n = (Nat.digits b n).reverse := by
  induction n using Nat.strong_induction_on with
  | h n ih =>
    rw [digits]
    split
    · rename_i h
      obtain rfl : n = 0 := by omega
      rw [Nat.digits_zero, List.reverse_nil]
    · rename_i h
      have hn : 0 < n := by omega
      rw [ih (n / b) (Nat.div_lt_self hn hb), Nat.digits_def' hb hn, List.reverse_cons]

lemma number_eq_ofDigits (b : Nat) (ds : List Nat) : number b ds = Nat.ofDigits b ds.reverse := by
  rw [number, Nat.ofDigits_eq_foldr, List.foldr_reverse]
  simp only [Nat.cast_id, Nat.mul_comm b, Nat.add_comm]

lemma number_zeros (b z : Nat) (ds : List Nat) : number b (List.replicate z 0 ++ ds) = number b ds := by
  rw [number_eq_ofDigits, number_eq_ofDigits, List.reverse_append, List.reverse_replicate,
    Nat.ofDigits_append_replicate_zero]

def leadingZeros (ds : List Nat) : Nat := (ds.takeWhile (· == 0)).length

def padded (b z n : Nat) : List Nat := List.replicate z 0 ++ digits b n

lemma lt_of_mem_padded (hb : 1 < b) {d : Nat} (h : d ∈ padded b z n) : d < b := by
  rw [padded, List.mem_append, digits_eq_reverse hb, List.mem_reverse] at h
  rcases h with h | h
  · rw [List.eq_of_mem_replicate h]
    omega
  · exact Nat.digits_lt_base hb h

lemma number_padded (hb : 1 < b) : number b (padded b z n) = n := by
  rw [padded, number_zeros, number_eq_ofDigits, digits_eq_reverse hb, List.reverse_reverse, Nat.ofDigits_digits]

lemma leadingZeros_padded (hb : 1 < b) : leadingZeros (padded b z n) = z := by
  have hd : (digits b n).takeWhile (· == 0) = [] := by
    rw [digits_eq_reverse hb]
    by_cases hn : n = 0
    · rw [hn, Nat.digits_zero]
      rfl
    · have hne := Nat.digits_ne_nil_iff_ne_zero (b := b).mpr hn
      rw [← List.dropLast_concat_getLast hne, List.reverse_append]
      exact List.takeWhile_cons_of_neg (by simpa using Nat.getLast_digit_ne_zero b hn)
  rw [leadingZeros, padded, List.takeWhile_append_of_pos (by simp), hd, List.append_nil, List.length_replicate]

lemma padded_number (hb : 1 < b) (h : ∀ d ∈ ds, d < b) : padded b (leadingZeros ds) (number b ds) = ds := by
  induction ds with
  | nil =>
    show digits b 0 = []
    rw [digits_eq_reverse hb, Nat.digits_zero, List.reverse_nil]
  | cons d ds ih =>
    have hl : ∀ l ∈ (d :: ds).reverse, l < b := fun l hm => h l (List.mem_reverse.1 hm)
    rw [List.forall_mem_cons] at h
    by_cases hd : d = 0
    · have hz : leadingZeros (d :: ds) = leadingZeros ds + 1 := by
        rw [leadingZeros, leadingZeros, List.takeWhile_cons_of_pos (by simpa using hd), List.length_cons]
      rw [hz, hd, ← List.singleton_append, ← List.replicate_one, number_zeros, padded, List.replicate_succ]
      exact congrArg (0 :: ·) (ih h.2)
    · -- Nothing can be left out in front of a digit that is no zero.
      have hz : leadingZeros (d :: ds) = 0 := by
        rw [leadingZeros, List.takeWhile_cons_of_neg (by simpa using hd)]
        rfl
      rw [hz, padded, number_eq_ofDigits, digits_eq_reverse hb, Nat.digits_ofDigits b hb _ hl (by simpa using hd),
        List.reverse_reverse]
      rfl

lemma char_eq_one {d : Nat} (h : d < 58) : alphabet.char d = '1' ↔ d = 0 := by
  constructor
  · intro hd
    have hv := Alphabet.value?_char (a := alphabet) h
    rw [hd] at hv
    exact (Option.some.inj hv).symm
  · rintro rfl
    rfl

lemma takeWhile_map_char (h : ∀ d ∈ ds, d < 58) :
    ((ds.map alphabet.char).takeWhile (· == '1')).length = leadingZeros ds := by
  induction ds with
  | nil => rfl
  | cons d ds ih =>
    rw [List.forall_mem_cons] at h
    have hd : (alphabet.char d == '1') = (d == 0) := by
      rw [Bool.eq_iff_iff, beq_iff_eq, beq_iff_eq, char_eq_one h.1]
    rw [leadingZeros, List.map_cons, List.takeWhile_cons, List.takeWhile_cons, hd]
    split
    · exact congrArg (· + 1) (ih h.2)
    · rfl

def toDigits (data : Bytes) : List Nat := data.map UInt8.toNat

lemma toDigits_lt : ∀ d ∈ toDigits data, d < 256 := by
  intro d hd
  obtain ⟨x, _, rfl⟩ := List.mem_map.1 hd
  exact x.toNat_lt

lemma map_ofNat_toDigits : (toDigits data).map UInt8.ofNat = data := by
  rw [toDigits, List.map_map]
  exact List.map_id'' (fun x => UInt8.ofNat_toNat) data

lemma toDigits_map_ofNat (h : ∀ d ∈ ds, d < 256) : toDigits (ds.map UInt8.ofNat) = ds := by
  rw [toDigits, List.map_map]
  refine (List.map_congr_left fun d hd => ?_).trans (List.map_id ds)
  exact UInt8.toNat_ofNat_of_lt' (h d hd)

lemma encode_eq (data : Bytes) :
    encode data = (padded 58 (leadingZeros (toDigits data)) (number 256 (toDigits data))).map alphabet.char := by
  have hz : leadingZeros (toDigits data) = (data.takeWhile (· == 0)).length := by
    rw [leadingZeros, toDigits, List.takeWhile_map, List.length_map]
    congr 2
    funext x
    rw [Function.comp_apply, Bool.eq_iff_iff, beq_iff_eq, beq_iff_eq, ← UInt8.toNat_inj]
    rfl
  have hn : number 256 (toDigits data) = Bytes.toNat data := by
    rw [number, toDigits, List.foldl_map]
    rfl
  rw [encode, padded, List.map_append, List.map_replicate, hz, hn, List.map_const']
  rfl

lemma decode_of_values (h : alphabet.values text = .ok ds) :
    decode text = .ok ((padded 256 (leadingZeros ds) (number 58 ds)).map UInt8.ofNat) := by
  obtain ⟨rfl, hl⟩ := Alphabet.values_eq_ok.1 h
  rw [decode, h, takeWhile_map_char hl, padded, List.map_append, List.map_replicate]
  rfl

theorem decode_encode (data : Bytes) : decode (encode data) = .ok data := by
  have hv := Alphabet.values_eq_ok.2 ⟨(encode_eq data).symm, fun d hd => lt_of_mem_padded (by decide) hd⟩
  rw [decode_of_values hv, leadingZeros_padded (by decide), number_padded (by decide),
    padded_number (by decide) toDigits_lt, map_ofNat_toDigits]

theorem decode_eq_ok : decode text = .ok data ↔ text = encode data := by
  constructor
  · intro h
    cases hv : alphabet.values text with
    | error c =>
      rw [decode, hv] at h
      cases h
    | ok ds =>
      rw [decode_of_values hv] at h
      obtain rfl := Except.ok.inj h
      obtain ⟨rfl, hl⟩ := Alphabet.values_eq_ok.1 hv
      rw [encode_eq, toDigits_map_ofNat fun d hd => lt_of_mem_padded (by decide) hd, leadingZeros_padded (by decide),
        number_padded (by decide), padded_number (show 1 < 58 by decide) hl]
  · rintro rfl
    exact decode_encode data

end Countersign.Text.Base58
