import Countersign.Text.Bech32
import Mathlib.Data.List.Induction
import Mathlib.Data.Nat.Bitwise

/-! Bytes regrouped into symbols of five bits and back. What fills up the last symbol is told by the number of the
others, so a sequence of symbols is read as some bytes only if it is the one that is written for them. -/

namespace Countersign

variable {α β : Type} {n : Nat} {xs : List α}

lemma pieces_nil : pieces n ([] : List α) = [] := by
  rw [pieces, dif_pos rfl]

lemma pieces_of_ne_nil (h : xs ≠ []) : pieces n xs = xs.take (n + 1) :: pieces n (xs.drop (n + 1)) := by
  rw [pieces, dif_neg h]

lemma pieces_append {p : List α} (h : p.length = n + 1) (xs : List α) : pieces n (p ++ xs) = p :: pieces n xs := by
  have hne : p ++ xs ≠ [] := List.append_ne_nil_of_left_ne_nil (List.ne_nil_of_length_pos (by omega)) xs
  rw [pieces_of_ne_nil hne, List.take_left' h, List.drop_left' h]

lemma pieces_flatMap {f : β → List α} (h : ∀ y, (f y).length = n + 1) (ys : List β) :
    pieces n (ys.flatMap f) = ys.map f := by
  induction ys with
  | nil => exact pieces_nil
  | cons y ys ih => rw [List.flatMap_cons, pieces_append (h y), ih, List.map_cons]

lemma length_flatMap_of_length {f : β → List α} (h : ∀ y, (f y).length = n) (ys : List β) :
    (ys.flatMap f).length = n * ys.length := by
  simp only [List.length_flatMap, h, List.map_const', List.sum_replicate_nat]
  exact Nat.mul_comm _ n

lemma flatten_pieces (n : Nat) (xs : List α) : (pieces n xs).flatten = xs := by
  induction xs using pieces.induct (n := n) with
  | case1 => rw [pieces_nil, List.flatten_nil]
  | case2 xs h ih => rw [pieces_of_ne_nil h, List.flatten_cons, ih, List.take_append_drop]

lemma length_le_of_mem_pieces {p : List α} (hp : p ∈ pieces n xs) : p.length ≤ n + 1 := by
  induction xs using pieces.induct (n := n) with
  | case1 =>
    rw [pieces_nil] at hp
    cases hp
  | case2 xs h ih =>
    rw [pieces_of_ne_nil h] at hp
    rcases List.mem_cons.1 hp with rfl | hp
    · exact List.length_take_le (n + 1) xs
    · exact ih hp

lemma length_of_mem_pieces (h : n + 1 ∣ xs.length) {p : List α} (hp : p ∈ pieces n xs) : p.length = n + 1 := by
  induction xs using pieces.induct (n := n) with
  | case1 =>
    rw [pieces_nil] at hp
    cases hp
  | case2 xs hx ih =>
    have hle : n + 1 ≤ xs.length := Nat.le_of_dvd (List.length_pos_iff.2 hx) h
    rw [pieces_of_ne_nil hx] at hp
    rcases List.mem_cons.1 hp with rfl | hp
    · exact List.length_take_of_le hle
    · refine ih ?_ hp
      rw [List.length_drop]
      exact Nat.dvd_sub h (Nat.dvd_refl _)

namespace Text.Bech32

variable {w : Nat} {bs : List Bool} {vs : List Nat} {data : Bytes}

lemma length_bits (w n : Nat) : (bits w n).length = w := by
  induction w generalizing n with
  | zero => rfl
  | succ w ih => rw [bits, List.length_append, ih, List.length_singleton]

lemma ofBits_append_singleton (bs : List Bool) (b : Bool) : ofBits (bs ++ [b]) = ofBits bs * 2 + b.toNat := by
  rw [ofBits, ofBits, List.foldl_append]
  rfl

lemma bits_ofBits (bs : List Bool) : bits bs.length (ofBits bs) = bs := by
  induction bs using List.reverseRecOn with
  | nil => rfl
  | append_singleton bs b ih =>
    have hdiv : (ofBits bs * 2 + b.toNat) / 2 = ofBits bs := by
      cases b <;> simp only [Bool.toNat_false, Bool.toNat_true] <;> omega
    have hmod : ((ofBits bs * 2 + b.toNat) % 2 == 1) = b := by
      cases b <;> simp only [Bool.toNat_false, Bool.toNat_true] <;> simp [Nat.add_mod]
    rw [List.length_append, List.length_singleton, ofBits_append_singleton, bits, hdiv, hmod, ih]

lemma ofBits_bits (h : n < 2 ^ w) : ofBits (bits w n) = n := by
  induction w generalizing n with
  | zero =>
    obtain rfl : n = 0 := by simpa using h
    rfl
  | succ w ih =>
    have hlow : (n % 2 == 1).toNat = n % 2 := by
      rcases Nat.mod_two_eq_zero_or_one n with h | h <;> rw [h] <;> rfl
    rw [bits, ofBits_append_singleton, ih (by omega), hlow]
    omega

lemma ofBits_lt (bs : List Bool) : ofBits bs < 2 ^ bs.length := by
  induction bs using List.reverseRecOn with
  | nil => exact Nat.one_pos
  | append_singleton bs b ih =>
    have hb := b.toNat_lt
    rw [ofBits_append_singleton, List.length_append, List.length_singleton, Nat.pow_succ]
    omega

def byteBits (data : Bytes) : List Bool := data.flatMap fun b => bits 8 b.toNat

lemma length_bits_byte (b : UInt8) : (bits 8 b.toNat).length = 7 + 1 := length_bits 8 _

lemma length_byteBits (data : Bytes) : (byteBits data).length = 8 * data.length := by
  rw [byteBits, length_flatMap_of_length length_bits_byte]

lemma map_pieces_byteBits (data : Bytes) : (pieces 7 (byteBits data)).map (fun p => UInt8.ofNat (ofBits p)) = data := by
  have hback (b : UInt8) : UInt8.ofNat (ofBits (bits 8 b.toNat)) = b := by
    have hlt : b.toNat < 2 ^ 8 := b.toNat_lt
    rw [ofBits_bits hlt, UInt8.ofNat_toNat]
  rw [byteBits, pieces_flatMap length_bits_byte, List.map_map]
  exact List.map_id'' hback data

lemma byteBits_map_pieces (h : 8 ∣ bs.length) : byteBits ((pieces 7 bs).map fun p => UInt8.ofNat (ofBits p)) = bs := by
  have hp : ∀ p ∈ pieces 7 bs, bits 8 (UInt8.ofNat (ofBits p)).toNat = p := by
    intro p hp
    have hl : p.length = 8 := length_of_mem_pieces h hp
    have hlt := ofBits_lt p
    have hb := bits_ofBits p
    rw [hl] at hlt hb
    rw [UInt8.toNat_ofNat_of_lt' hlt, hb]
  rw [byteBits, List.flatMap_map, List.flatMap_def, List.map_congr_left hp, List.map_id', flatten_pieces]

lemma flatMap_bits_inj {vs ws : List Nat} (hv : ∀ v ∈ vs, v < 32) (hw : ∀ w ∈ ws, w < 32)
    (h : vs.flatMap (bits 5) = ws.flatMap (bits 5)) : vs = ws := by
  have hback {us : List Nat} (hu : ∀ u ∈ us, u < 32) : (pieces 4 (us.flatMap (bits 5))).map ofBits = us := by
    rw [pieces_flatMap (length_bits 5), List.map_map]
    exact (List.map_congr_left fun u hm => ofBits_bits (hu u hm)).trans (List.map_id us)
  rw [← hback hv, ← hback hw, h]

lemma symbols_lt : ∀ v ∈ symbols data, v < 32 := by
  intro v hv
  obtain ⟨p, hp, rfl⟩ := List.mem_map.1 hv
  refine (ofBits_lt _).trans_le (Nat.pow_le_pow_right (by decide) ?_ : _ ≤ 2 ^ 5)
  have hle := length_le_of_mem_pieces hp
  rw [List.length_append, List.length_replicate]
  omega

lemma exists_flatMap_symbols (data : Bytes) : ∃ k < 5, 5 ∣ (byteBits data).length + k ∧
    (symbols data).flatMap (bits 5) = byteBits data ++ List.replicate k false := by
  rw [symbols, ← byteBits]
  generalize byteBits data = bs
  induction bs using pieces.induct (n := 4) with
  | case1 =>
    rw [pieces_nil]
    exact ⟨0, by decide, Nat.dvd_zero 5, rfl⟩
  | case2 bs hne ih =>
    rw [pieces_of_ne_nil hne, List.map_cons, List.flatMap_cons]
    by_cases hl : 5 ≤ bs.length
    · obtain ⟨k, hk, hd, he⟩ := ih
      have htake : (bs.take 5).length = 5 := List.length_take_of_le hl
      have hb := bits_ofBits (bs.take 5)
      rw [htake] at hb
      refine ⟨k, hk, ?_, ?_⟩
      · rw [List.length_drop] at hd
        omega
      · rw [he, htake, Nat.sub_self, List.replicate_zero, List.append_nil, hb, ← List.append_assoc,
          List.take_append_drop]
    · have hshort : bs.length < 5 := Nat.not_le.1 hl
      have hpos := List.length_pos_iff.2 hne
      have hb := bits_ofBits (bs ++ List.replicate (5 - bs.length) false)
      rw [List.length_append, List.length_replicate, Nat.add_sub_cancel' (by omega)] at hb
      refine ⟨5 - bs.length, by omega, by omega, ?_⟩
      rw [List.take_of_length_le (by omega), List.drop_of_length_le (by omega), pieces_nil, hb]
      exact List.append_nil _

theorem bytes?_eq_some (h : ∀ v ∈ vs, v < 32) : bytes? vs = some data ↔ symbols data = vs := by
  obtain ⟨k, hk, hd, hs⟩ := exists_flatMap_symbols data
  rw [length_byteBits] at hd
  constructor
  · intro hb
    rw [bytes?] at hb
    have hl := length_flatMap_of_length (length_bits 5) vs
    generalize ha : vs.flatMap (bits 5) = all at hb hl
    split at hb
    · rename_i hr
      obtain ⟨hr, hz⟩ := hr
      have hle : all.length / 8 * 8 ≤ all.length := Nat.div_mul_le_self _ 8
      have hwhole : byteBits data = all.take (all.length / 8 * 8) := by
        rw [← Option.some.inj hb]
        refine byteBits_map_pieces ?_
        rw [List.length_take_of_le hle]
        exact Nat.dvd_mul_left 8 _
      have hrest : all.drop (all.length / 8 * 8) = List.replicate k false := by
        have hlen := congrArg List.length hwhole
        rw [length_byteBits, List.length_take_of_le hle] at hlen
        rw [List.length_drop] at hr
        refine List.eq_replicate_iff.2 ⟨?_, fun b hm => ?_⟩
        · rw [List.length_drop]
          omega
        · simpa using List.all_eq_true.1 hz b hm
      refine flatMap_bits_inj symbols_lt h ?_
      rw [hs, ha, hwhole, ← hrest, List.take_append_drop]
    · cases hb
  · rintro rfl
    have hwhole : (8 * data.length + k) / 8 * 8 = (byteBits data).length := by
      rw [length_byteBits]
      omega
    rw [bytes?, hs, List.length_append, List.length_replicate, length_byteBits, hwhole, List.drop_left, List.take_left,
      map_pieces_byteBits, if_pos]
    rw [List.length_replicate]
    exact ⟨hk, by simp⟩

end Text.Bech32

end Countersign
