import Countersign.Proofs.Text.Base58
import Countersign.Proofs.Text.Regrouping

/-! Texts with a word and a check sum. Absorbing symbols is linear, and what the last six of them add to the remainder
is the number that they stand for, so one choice of them verifies. -/

namespace Countersign.Text.Bech32

open Base58

variable {n v : Nat} {vs ws cs : List Nat} {word text tail : List Char}

/-! ### Check sum -/

lemma xor_xor_cancel (a b : BitVec n) : a ^^^ b ^^^ b = a := by
  rw [BitVec.xor_assoc, BitVec.xor_self, BitVec.xor_zero]

lemma feedback_xor (a b : BitVec 30) : feedback (a ^^^ b) = feedback a ^^^ feedback b := by
  have hterm (g : BitVec 30) (i : Nat) : (if (a ^^^ b).getLsbD i = true then g else 0) =
      (if a.getLsbD i = true then g else 0) ^^^ if b.getLsbD i = true then g else 0 := by
    rw [BitVec.getLsbD_xor]
    cases a.getLsbD i <;> cases b.getLsbD i <;> simp
  simp only [feedback, generators, List.zipIdx_cons, List.zipIdx_nil, List.map_cons, List.map_nil, List.foldl_cons,
    List.foldl_nil, hterm]
  ac_rfl

lemma absorb_xor (s t : BitVec 30) (v : Nat) : absorb (s ^^^ t) v = absorb s 0 ^^^ absorb t v := by
  rw [absorb, absorb, absorb, BitVec.shiftLeft_xor_distrib, BitVec.ushiftRight_xor_distrib, feedback_xor,
    BitVec.xor_zero]
  ac_rfl

lemma foldl_absorb_xor (s t : BitVec 30) (vs : List Nat) : vs.foldl absorb (s ^^^ t) =
    (List.replicate vs.length 0).foldl absorb s ^^^ vs.foldl absorb t := by
  induction vs generalizing s t with
  | nil => rfl
  | cons v vs ih => rw [List.foldl_cons, absorb_xor, ih, List.length_cons, List.replicate_succ]; rfl

lemma xor_eq_add (hv : v < 32) (n : Nat) : (n * 32) ^^^ v = n * 32 + v := by
  refine Nat.eq_of_testBit_eq fun i => ?_
  have hadd := Nat.testBit_two_pow_mul_add n (show v < 2 ^ 5 from hv) i
  have hmul := Nat.testBit_two_pow_mul_add n (show 0 < 2 ^ 5 by decide) i
  rw [Nat.add_zero, Nat.zero_testBit] at hmul
  rw [Nat.mul_comm n 32, Nat.testBit_xor]
  show ((2 ^ 5 * n).testBit i ^^ v.testBit i) = (2 ^ 5 * n + v).testBit i
  rw [hadd, hmul]
  split
  · simp
  · rename_i hi
    rw [Nat.testBit_lt_two_pow (hv.trans_le (Nat.pow_le_pow_right (by decide) (Nat.not_lt.1 hi) : 2 ^ 5 ≤ 2 ^ i)),
      Bool.xor_false]

lemma absorb_ofNat (hn : n < 2 ^ 25) (hv : v < 32) : absorb (BitVec.ofNat 30 n) v = BitVec.ofNat 30 (n * 32 + v) := by
  have htop : BitVec.ofNat 30 n >>> 25 = 0#30 := by
    apply BitVec.eq_of_toNat_eq
    rw [BitVec.toNat_ushiftRight, BitVec.toNat_ofNat, Nat.shiftRight_eq_div_pow, BitVec.toNat_zero]
    omega
  have hzero : feedback 0#30 = 0#30 := by decide
  rw [absorb, htop, hzero, BitVec.xor_zero]
  apply BitVec.eq_of_toNat_eq
  rw [BitVec.toNat_xor, BitVec.toNat_shiftLeft, BitVec.toNat_ofNat, BitVec.toNat_ofNat, BitVec.toNat_ofNat,
    Nat.shiftLeft_eq, Nat.mod_eq_of_lt (by omega : n < 2 ^ 30), Nat.mod_eq_of_lt (by omega : n * 2 ^ 5 < 2 ^ 30),
    Nat.mod_eq_of_lt (by omega : v < 2 ^ 30), Nat.mod_eq_of_lt (by omega : n * 32 + v < 2 ^ 30)]
  exact xor_eq_add hv n

lemma number_append_singleton (ds : List Nat) (d : Nat) : number 32 (ds ++ [d]) = number 32 ds * 32 + d := by
  rw [number, number, List.foldl_append]
  rfl

lemma number_lt (h : ∀ v ∈ vs, v < 32) : number 32 vs < 32 ^ vs.length := by
  have hlt : Nat.ofDigits 32 vs.reverse < 32 ^ vs.reverse.length :=
    Nat.ofDigits_lt_base_pow_length (by decide) fun v hm => h v (List.mem_reverse.1 hm)
  rwa [List.length_reverse, ← number_eq_ofDigits] at hlt

lemma foldl_absorb_zero (h : ∀ v ∈ vs, v < 32) (hl : vs.length ≤ 6) :
    vs.foldl absorb 0#30 = BitVec.ofNat 30 (number 32 vs) := by
  induction vs using List.reverseRecOn with
  | nil => rfl
  | append_singleton vs v ih =>
    rw [List.length_append, List.length_singleton] at hl
    have hvs (u : Nat) (hu : u ∈ vs) : u < 32 := h u (List.mem_append_left _ hu)
    have hn : number 32 vs < 32 ^ 5 := (number_lt hvs).trans_le (Nat.pow_le_pow_right (by decide) (by omega))
    rw [List.foldl_append, List.foldl_cons, List.foldl_nil, ih hvs (by omega), absorb_ofNat hn (h v (by simp)),
      number_append_singleton]

def residue (word : List Char) (vs : List Nat) : BitVec 30 :=
  remainder (expand word ++ vs ++ List.replicate 6 0) ^^^ 1

lemma remainder_append (hc : ∀ c ∈ cs, c < 32) (hl : cs.length = 6) : remainder (expand word ++ (vs ++ cs)) =
    residue word vs ^^^ 1 ^^^ BitVec.ofNat 30 (number 32 cs) := by
  have hs := foldl_absorb_xor (remainder (expand word ++ vs)) 0#30 cs
  rw [BitVec.xor_zero, hl, foldl_absorb_zero hc hl.le] at hs
  have happend (us : List Nat) : remainder (expand word ++ vs ++ us) =
      us.foldl absorb (remainder (expand word ++ vs)) := List.foldl_append
  rw [residue, ← List.append_assoc, happend, happend, hs, xor_xor_cancel]

lemma checksum_eq (word : List Char) (vs : List Nat) : checksum word vs =
    [25, 20, 15, 10, 5, 0].map fun s => (residue word vs).toNat / 2 ^ s % 32 := by
  simp only [checksum, residue, List.map_cons, List.map_nil, BitVec.toNat_ushiftRight, Nat.shiftRight_eq_div_pow]

lemma checksum_lt : ∀ c ∈ checksum word vs, c < 32 := by
  rw [checksum_eq]
  intro c hc
  obtain ⟨s, _, rfl⟩ := List.mem_map.1 hc
  exact Nat.mod_lt _ (by decide)

lemma number_checksum (word : List Char) (vs : List Nat) : number 32 (checksum word vs) = (residue word vs).toNat := by
  have hr := (residue word vs).isLt
  rw [checksum_eq]
  simp only [number, List.map_cons, List.map_nil, List.foldl_cons, List.foldl_nil]
  omega

lemma eq_of_number_eq {ds : List Nat} (hc : ∀ c ∈ cs, c < 32) (hd : ∀ d ∈ ds, d < 32) (hl : cs.length = ds.length)
    (h : number 32 cs = number 32 ds) : cs = ds := by
  rw [number_eq_ofDigits, number_eq_ofDigits] at h
  refine List.reverse_injective (Nat.ofDigits_inj_of_len_eq (by decide) ?_ ?_ ?_ h)
  · rw [List.length_reverse, List.length_reverse, hl]
  · exact fun c hm => hc c (List.mem_reverse.1 hm)
  · exact fun d hm => hd d (List.mem_reverse.1 hm)

theorem verifies_append (hc : ∀ c ∈ cs, c < 32) (hl : cs.length = 6) :
    verifies word (vs ++ cs) = true ↔ cs = checksum word vs := by
  rw [verifies, beq_iff_eq, remainder_append hc hl]
  have hlt : number 32 cs < 2 ^ 30 := by
    have hn := number_lt hc
    rw [hl] at hn
    omega
  constructor
  · intro h
    have hr : BitVec.ofNat 30 (number 32 cs) = residue word vs := by
      rw [BitVec.xor_comm _ (BitVec.ofNat 30 _), ← BitVec.xor_assoc] at h
      have hx := congrArg (· ^^^ 1 ^^^ residue word vs) h
      simpa only [xor_xor_cancel, BitVec.xor_self, BitVec.zero_xor] using hx
    refine eq_of_number_eq hc checksum_lt hl ?_
    rw [number_checksum, ← hr, BitVec.toNat_ofNat, Nat.mod_eq_of_lt hlt]
  · rintro rfl
    rw [number_checksum, BitVec.ofNat_toNat, BitVec.setWidth_eq, BitVec.xor_comm _ 1, xor_xor_cancel]

/-! ### Text -/

lemma values_eq_some : (alphabet.values text).toOption = some vs ↔
    vs.map alphabet.char = text ∧ ∀ v ∈ vs, v < 32 := by
  rw [← show alphabet.size = 32 from rfl, ← Alphabet.values_eq_ok]
  cases alphabet.values text <;> simp [Except.toOption]

def IsVisible (c : Char) : Prop := 33 ≤ c.toNat ∧ c.toNat ≤ 126

instance (c : Char) : Decidable (IsVisible c) := inferInstanceAs (Decidable (_ ∧ _))

lemma isUpper_iff {c : Char} : c.isUpper = true ↔ 65 ≤ c.toNat ∧ c.toNat ≤ 90 := by
  show decide (c.val ≥ 'A'.val ∧ c.val ≤ 'Z'.val) = true ↔ _
  rw [decide_eq_true_eq, ge_iff_le, UInt32.le_iff_toNat_le, UInt32.le_iff_toNat_le]
  rfl

lemma toLower_of_not_isUpper {c : Char} (h : c.isUpper = false) : c.toLower = c :=
  dif_neg (of_decide_eq_false h)

lemma toNat_toLower {c : Char} (h : c.isUpper = true) : c.toLower.toNat = c.toNat + 32 := by
  have hc := isUpper_iff.1 h
  have hlow : c.toLower.toNat = (c.val + 32).toNat := congrArg Char.toNat (dif_pos (of_decide_eq_true h))
  have hlt : c.val.toNat ≤ 90 := hc.2
  rw [hlow, UInt32.toNat_add]
  exact Nat.mod_eq_of_lt (show c.val.toNat + 32 < 2 ^ 32 by omega)

lemma isUpper_toLower (c : Char) : c.toLower.isUpper = false := by
  by_cases h : c.isUpper = true
  · have hc := isUpper_iff.1 h
    rw [Bool.eq_false_iff, Ne, isUpper_iff, toNat_toLower h]
    omega
  · rw [Bool.not_eq_true] at h
    rw [toLower_of_not_isUpper h, h]

lemma isVisible_toLower {c : Char} (h : IsVisible c) : IsVisible c.toLower := by
  by_cases hc : c.isUpper = true
  · have hu := isUpper_iff.1 hc
    rw [IsVisible, toNat_toLower hc]
    omega
  · rw [Bool.not_eq_true] at hc
    rwa [toLower_of_not_isUpper hc]

lemma char_plain (v : Nat) :
    alphabet.char v ≠ '1' ∧ IsVisible (alphabet.char v) ∧ (alphabet.char v).isUpper = false := by
  have hall : alphabet.chars.all (fun c => c ≠ '1' ∧ IsVisible c ∧ c.isUpper = false) = true := by decide
  exact of_decide_eq_true (List.all_eq_true.1 hall _ (alphabet.char_mem v))

lemma splitLast_append (word : List Char) (h : '1' ∉ tail) : splitLast (word ++ '1' :: tail) = some (word, tail) := by
  have htail : (word ++ '1' :: tail).reverse.takeWhile (· != '1') = tail.reverse := by
    rw [List.reverse_append, List.reverse_cons, List.append_assoc, List.takeWhile_append_of_pos]
    · exact List.append_nil _
    · intro c hc
      rw [bne_iff_ne]
      rintro rfl
      exact h (List.mem_reverse.1 hc)
  have hlen : (word ++ '1' :: tail).length - tail.length - 1 = word.length := by
    rw [List.length_append, List.length_cons]
    omega
  rw [splitLast, htail, List.length_reverse, if_pos (by rw [List.length_append, List.length_cons]; omega), hlen,
    List.take_left, List.reverse_reverse]

lemma splitLast_eq_some : splitLast text = some (word, tail) ↔ text = word ++ '1' :: tail ∧ '1' ∉ tail := by
  constructor
  · intro h
    by_cases hm : '1' ∈ text
    · obtain ⟨front, back, hr, hn⟩ := List.eq_append_cons_of_mem (List.mem_reverse.2 hm)
      have ht : text = back.reverse ++ '1' :: front.reverse := by
        rw [← List.reverse_reverse text, hr]
        simp
      have hn' : '1' ∉ front.reverse := fun h => hn (List.mem_reverse.1 h)
      rw [ht, splitLast_append _ hn'] at h
      cases h
      exact ⟨ht, hn'⟩
    · have hall : text.reverse.takeWhile (· != '1') = text.reverse := by
        rw [← List.append_nil text.reverse, List.takeWhile_append_of_pos, List.takeWhile_nil]
        intro c hc
        rw [bne_iff_ne]
        rintro rfl
        exact hm (List.mem_reverse.1 hc)
      rw [splitLast, hall, List.length_reverse, if_neg (Nat.lt_irrefl _)] at h
      cases h
  · rintro ⟨rfl, h⟩
    exact splitLast_append word h

lemma splitLast_encode (word : List Char) (vs : List Nat) :
    splitLast (encode word vs) = some (word, (vs ++ checksum word vs).map alphabet.char) := by
  refine splitLast_append word fun hm => ?_
  obtain ⟨v, _, h⟩ := List.mem_map.1 hm
  exact (char_plain v).1 h

lemma word_eq_of_encode_eq {word' : List Char} (h : encode word vs = encode word' ws) : word = word' := by
  have hs := splitLast_encode word vs
  rw [h, splitLast_encode] at hs
  exact (Prod.mk.inj (Option.some.inj hs)).1.symm

def IsWord (word : List Char) : Prop := word ≠ [] ∧ ∀ c ∈ word, IsVisible c ∧ c.isUpper = false

instance (word : List Char) : Decidable (IsWord word) :=
  decidable_of_iff (word ≠ [] ∧ word.all (fun c => IsVisible c ∧ c.isUpper = false) = true) (by simp [IsWord])

lemma encode_plain (h : IsWord word) : ∀ c ∈ encode word vs, IsVisible c ∧ c.isUpper = false := by
  intro c hc
  rcases List.mem_append.1 hc with hc | hc
  · exact h.2 c hc
  · rcases List.mem_cons.1 hc with rfl | hc
    · exact ⟨by decide, by decide⟩
    · obtain ⟨v, _, rfl⟩ := List.mem_map.1 hc
      exact (char_plain v).2

lemma isAdmissible_of_plain (h : ∀ c ∈ text, IsVisible c ∧ c.isUpper = false) : isAdmissible text = true := by
  have hupper : text.any (·.isUpper) = false := List.any_eq_false.2 fun c hc => by simp [(h c hc).2]
  have hall : text.all (fun c => 33 ≤ c.toNat && c.toNat ≤ 126) = true :=
    List.all_eq_true.2 fun c hc => by simpa [IsVisible] using (h c hc).1
  rw [isAdmissible, hall, hupper]
  rfl

lemma isVisible_of_isAdmissible (h : isAdmissible text = true) : ∀ c ∈ text, IsVisible c := by
  intro c hc
  have hall := List.all_eq_true.1 (Bool.and_eq_true_iff.1 h).1 c hc
  simpa [IsVisible] using hall

lemma map_toLower_of_plain (h : ∀ c ∈ text, IsVisible c ∧ c.isUpper = false) : text.map Char.toLower = text :=
  (List.map_congr_left fun c hc => toLower_of_not_isUpper (h c hc).2).trans (List.map_id text)

lemma isWord_of_map_toLower (h : isAdmissible text = true) (he : text.map Char.toLower = encode word vs)
    (hne : word ≠ []) : IsWord word := by
  refine ⟨hne, fun c hc => ?_⟩
  have hm : c ∈ text.map Char.toLower := he ▸ List.mem_append_left _ hc
  obtain ⟨d, hd, rfl⟩ := List.mem_map.1 hm
  exact ⟨isVisible_toLower (isVisible_of_isAdmissible h d hd), isUpper_toLower d⟩

theorem decode_eq_some : decode text = some (word, vs) ↔ isAdmissible text = true ∧ word.length ≤ maxWord ∧
    IsWord word ∧ (∀ v ∈ vs, v < 32) ∧ text.map Char.toLower = encode word vs := by
  constructor
  · intro h
    rw [decode] at h
    split at h
    · rename_i ha
      obtain ⟨⟨w, tail⟩, hs, h⟩ := Option.bind_eq_some_iff.1 h
      obtain ⟨us, hu, h⟩ := Option.bind_eq_some_iff.1 h
      split at h
      · rename_i hc
        obtain ⟨rfl, rfl⟩ := Prod.mk.inj (Option.some.inj h)
        simp only [Bool.and_eq_true, Bool.not_eq_true', List.isEmpty_eq_false_iff, decide_eq_true_eq] at hc
        obtain ⟨⟨⟨hne, hl⟩, h6⟩, hv⟩ := hc
        obtain ⟨rfl, hlt⟩ := values_eq_some.1 hu
        have hdrop : (us.drop (us.length - 6)).length = 6 := by
          rw [List.length_drop]
          omega
        rw [← List.take_append_drop (us.length - 6) us] at hv
        have hsum := (verifies_append (fun c hc => hlt c (List.mem_of_mem_drop hc)) hdrop).1 hv
        have he : text.map Char.toLower = encode w (us.take (us.length - 6)) := by
          rw [encode, ← hsum, List.take_append_drop]
          exact (splitLast_eq_some.1 hs).1
        exact ⟨ha, hl, isWord_of_map_toLower ha he hne, fun v hv => hlt v (List.mem_of_mem_take hv), he⟩
      · cases h
    · cases h
  · rintro ⟨ha, hl, hw, hv, he⟩
    have hlt : ∀ v ∈ vs ++ checksum word vs, v < 32 := by
      intro v hm
      rcases List.mem_append.1 hm with hm | hm
      · exact hv v hm
      · exact checksum_lt v hm
    have h6 : (checksum word vs).length = 6 := by
      rw [checksum, List.length_map]
      rfl
    have hlen : (vs ++ checksum word vs).length = vs.length + 6 := by
      rw [List.length_append, h6]
    rw [decode, if_pos ha, he, splitLast_encode]
    show ((alphabet.values ((vs ++ checksum word vs).map alphabet.char)).toOption.bind _) = _
    rw [values_eq_some.2 ⟨rfl, hlt⟩, Option.bind_some, if_pos, hlen, Nat.add_sub_cancel, List.take_left]
    simp only [Bool.and_eq_true, Bool.not_eq_true', List.isEmpty_eq_false_iff, decide_eq_true_eq]
    exact ⟨⟨⟨hw.1, hl⟩, by omega⟩, (verifies_append checksum_lt h6).2 rfl⟩

end Countersign.Text.Bech32
