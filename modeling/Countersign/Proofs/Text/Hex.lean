import Countersign.Text.Blank
import Countersign.Text.Hex
import Mathlib.Data.List.DropRight

namespace Countersign.Text

/-! ### Blanks -/

section

variable {before after s : List Char}

lemma strip_append_left (h : ∀ c ∈ before, isBlank c = true) (s : List Char) : strip (before ++ s) = strip s := by
  rw [strip, List.dropWhile_append_of_pos h]
  rfl

lemma strip_append_right (h : ∀ c ∈ after, isBlank c = true) (s : List Char) : strip (s ++ after) = strip s := by
  have hnil : after.dropWhile isBlank = [] := List.dropWhile_eq_nil_iff.2 h
  have hrev : ∀ c ∈ after.reverse, isBlank c = true := fun c hc => h c (List.mem_reverse.1 hc)
  rw [strip, strip, List.dropWhile_append]
  split
  · rename_i hs
    rw [hnil, List.isEmpty_iff.1 hs]
  · rw [List.reverse_append, List.dropWhile_append_of_pos hrev]

lemma exists_strip (s : List Char) :
    ∃ before after, s = before ++ (strip s ++ after) ∧ ∀ c ∈ before ++ after, isBlank c = true := by
  refine ⟨s.takeWhile isBlank, (s.dropWhile isBlank).rtakeWhile isBlank, ?_, fun c hc => ?_⟩
  · have hr : strip s ++ (s.dropWhile isBlank).rtakeWhile isBlank = s.dropWhile isBlank :=
      List.rdropWhile_append_rtakeWhile
    rw [hr, List.takeWhile_append_dropWhile]
  · rcases List.mem_append.1 hc with hc | hc
    · exact List.mem_takeWhile_imp hc
    · exact List.mem_rtakeWhile_imp hc

end

namespace Hex

variable {c d : Char} {n high low : Nat} {b : UInt8} {data : Bytes} {text : List Char}

/-! ### Digits -/

def isDigit (c : Char) : Bool := (value? c).isSome

lemma le_iff_toNat {c d : Char} : c ≤ d ↔ c.toNat ≤ d.toNat := Iff.rfl

lemma ascii_of_value? (h : value? c = some n) : c.toNat < 128 := by
  by_contra hc
  simp only [value?, le_iff_toNat] at h
  rw [if_neg, if_neg, if_neg] at h
  · cases h
  all_goals
    rintro ⟨_, hle⟩
    revert hle
    simp
    omega

lemma ascii_of_toLower (hn : n < 16) (h : c.toLower = digit n) : c.toNat < 128 := by
  by_contra hc
  have hlow : c.toLower = c := dif_neg fun hu => hc (Nat.lt_of_le_of_lt hu.2 (by decide))
  have hdigit : ∀ n < 16, (digit n).toNat < 128 := by decide
  rw [hlow] at h
  exact hc (h ▸ hdigit n hn)

lemma value?_eq_some : value? c = some n ↔ n < 16 ∧ c.toLower = digit n := by
  have hlt : ∀ m < 128, ∀ n ∈ value? (Char.ofNat m), n < 16 := by decide +kernel
  have hiff : ∀ m < 128, ∀ n < 16, value? (Char.ofNat m) = some n ↔ (Char.ofNat m).toLower = digit n := by
    decide +kernel
  have hc := Char.ofNat_toNat c
  constructor
  · intro h
    have hs := ascii_of_value? h
    have hn := hlt c.toNat hs n (by rw [hc]; exact h)
    exact ⟨hn, by simpa [hc, h] using hiff c.toNat hs n hn⟩
  · rintro ⟨hn, h⟩
    simpa [hc, h] using hiff c.toNat (ascii_of_toLower hn h) n hn

lemma not_isGap_of_isDigit (h : isDigit c = true) : isGap c = false := by
  have hall : ∀ m < 128, isDigit (Char.ofNat m) = true → isGap (Char.ofNat m) = false := by decide +kernel
  obtain ⟨n, hn⟩ := Option.isSome_iff_exists.1 h
  simpa [Char.ofNat_toNat, h] using hall c.toNat (ascii_of_value? hn)

lemma not_isDigit_of_isGap (h : isGap c = true) : isDigit c = false := by
  by_contra hd
  rw [Bool.not_eq_false] at hd
  rw [not_isGap_of_isDigit hd] at h
  cases h

lemma ofNat_eq_iff (hh : high < 16) (hl : low < 16) :
    UInt8.ofNat (high * 16 + low) = b ↔ b.toNat / 16 = high ∧ b.toNat % 16 = low := by
  rw [← UInt8.toNat_inj, UInt8.toNat_ofNat']
  have := b.toNat_lt
  omega

/-! ### Texts -/

/-- A text for some bytes, in digits of either case and with gaps anywhere but inside a byte. -/
inductive Spells : Bytes → List Char → Prop
  | nil : Spells [] []
  | gap {c : Char} {data : Bytes} {text : List Char} : isGap c = true → Spells data text → Spells data (c :: text)
  | byte {c d : Char} {b : UInt8} {data : Bytes} {text : List Char} :
      [c, d].map Char.toLower = byteChars b → Spells data text → Spells (b :: data) (c :: d :: text)

def IsSplit (text : List Char) : Prop :=
  ∃ front c rest, text = front ++ c :: rest ∧ isGap c = true ∧ front.countP isDigit % 2 = 1

/-- Why a text is none for any bytes: it has a character that is neither a digit nor a gap, an odd number of digits, or a
gap between the two digits of a byte. -/
def Flawed (text : List Char) : Prop :=
  (∃ c ∈ text, isDigit c = false ∧ isGap c = false) ∨ text.countP isDigit % 2 = 1 ∨ IsSplit text

lemma decode_cons_of_isGap (hc : isGap c = true) (text : List Char) : decode (c :: text) = decode text := by
  cases text <;> simp [decode, hc]

lemma decode_cons_cons (hc : isGap c = false) (text : List Char) : decode (c :: d :: text) =
    (value? c).bind fun high => (value? d).bind fun low =>
      (decode text).bind fun data => some (UInt8.ofNat (high * 16 + low) :: data) := by
  rw [decode, hc]
  rfl

lemma decode_concat_of_isGap (hd : isGap d = true) (text : List Char) : decode (text ++ [d]) = decode text := by
  fun_induction decode text with
  | case1 => simp [decode, hd]
  | case2 c hc => simp [decode, hc, hd]
  | case3 c hc =>
    have hd : value? d = none := by simpa [isDigit] using not_isDigit_of_isGap hd
    rw [Bool.not_eq_true] at hc
    rw [List.singleton_append, decode_cons_cons hc, hd]
    cases value? c <;> rfl
  | case4 c e text hc ih =>
    rw [List.cons_append, decode_cons_of_isGap hc, ih]
  | case5 c e text hc ih =>
    rw [Bool.not_eq_true] at hc
    rw [List.cons_append, List.cons_append, decode_cons_cons hc, ih]
    rfl

lemma decode_eq_some : decode text = some data ↔ Spells data text := by
  constructor
  · intro h
    fun_induction decode text generalizing data with
    | case1 =>
      obtain rfl := Option.some.inj h
      exact .nil
    | case2 c hc =>
      obtain rfl := Option.some.inj h
      exact .gap hc .nil
    | case3 => cases h
    | case4 c d text hc ih => exact .gap hc (ih h)
    | case5 c d text hc ih =>
      obtain ⟨high, hh, h⟩ := Option.bind_eq_some_iff.1 h
      obtain ⟨low, hl, h⟩ := Option.bind_eq_some_iff.1 h
      obtain ⟨rest, hr, h⟩ := Option.bind_eq_some_iff.1 h
      obtain rfl := Option.some.inj h
      obtain ⟨hh, hc⟩ := value?_eq_some.1 hh
      obtain ⟨hl, hd⟩ := value?_eq_some.1 hl
      obtain ⟨hb, hb'⟩ := (ofNat_eq_iff hh hl).1 rfl
      refine .byte ?_ (ih hr)
      rw [byteChars, hb, hb', List.map_cons, List.map_singleton, hc, hd]
  · intro h
    induction h with
    | nil => rfl
    | gap hc _ ih => rw [decode_cons_of_isGap hc, ih]
    | @byte c d b data text hb _ ih =>
      have hlt := b.toNat_lt
      obtain ⟨hc, hd⟩ : c.toLower = digit (b.toNat / 16) ∧ d.toLower = digit (b.toNat % 16) := by
        simpa [byteChars] using hb
      have hc := value?_eq_some.2 ⟨by omega, hc⟩
      have hd := value?_eq_some.2 ⟨by omega, hd⟩
      have hgap : isGap c = false := not_isGap_of_isDigit (by rw [isDigit, hc]; rfl)
      have hb := (ofNat_eq_iff (b := b) (by omega) (by omega)).2 ⟨rfl, rfl⟩
      rw [decode_cons_cons hgap, hc, hd, ih]
      exact congrArg (fun x => some (x :: data)) hb

lemma spells_encode (data : Bytes) : Spells data (encode data) := by
  induction data with
  | nil => exact .nil
  | cons b data ih =>
    have hlow : (byteChars b).map Char.toLower = byteChars b := by
      have hdigit : ∀ n < 16, (digit n).toLower = digit n := by decide
      have := b.toNat_lt
      simp [byteChars, hdigit (b.toNat / 16) (by omega), hdigit (b.toNat % 16) (by omega)]
    exact .byte hlow ih

/-! ### Texts that stand for nothing -/

lemma not_flawed_nil : ¬ Flawed [] := by simp [Flawed, IsSplit]

lemma isSplit_cons_of_isGap (hc : isGap c = true) : IsSplit (c :: text) ↔ IsSplit text := by
  have hd := not_isDigit_of_isGap hc
  constructor
  · rintro ⟨_ | ⟨e, front⟩, g, rest, he, hg, hodd⟩
    · simp at hodd
    · obtain ⟨rfl, rfl⟩ := List.cons.inj he
      exact ⟨front, g, rest, rfl, hg, by simpa [hd] using hodd⟩
  · rintro ⟨front, g, rest, rfl, hg, hodd⟩
    exact ⟨c :: front, g, rest, rfl, hg, by simpa [hd] using hodd⟩

lemma isSplit_cons_cons (hc : isDigit c = true) (hd : isDigit d = true) : IsSplit (c :: d :: text) ↔ IsSplit text := by
  have hcount (front : List Char) : (c :: d :: front).countP isDigit % 2 = front.countP isDigit % 2 := by
    simp [hc, hd]
    omega
  constructor
  · rintro ⟨_ | ⟨e, _ | ⟨e', front⟩⟩, g, rest, he, hg, hodd⟩
    · simp at hodd
    · obtain ⟨_, he⟩ := List.cons.inj he
      obtain ⟨rfl, _⟩ := List.cons.inj he
      rw [not_isGap_of_isDigit hd] at hg
      cases hg
    · simp only [List.cons_append, List.cons.injEq] at he
      obtain ⟨rfl, rfl, rfl⟩ := he
      exact ⟨front, g, rest, rfl, hg, by rwa [hcount] at hodd⟩
  · rintro ⟨front, g, rest, rfl, hg, hodd⟩
    exact ⟨c :: d :: front, g, rest, rfl, hg, by rwa [hcount]⟩

lemma flawed_cons_of_isGap (hc : isGap c = true) : Flawed (c :: text) ↔ Flawed text := by
  simp [Flawed, isSplit_cons_of_isGap hc, hc, not_isDigit_of_isGap hc]

lemma flawed_cons_cons (hc : isDigit c = true) (hd : isDigit d = true) : Flawed (c :: d :: text) ↔ Flawed text := by
  have hcount : (c :: d :: text).countP isDigit % 2 = text.countP isDigit % 2 := by
    simp [hc, hd]
    omega
  simp only [Flawed, isSplit_cons_cons hc hd, hcount]
  simp [hc, hd]

lemma decode_eq_none : decode text = none ↔ Flawed text := by
  fun_induction decode text with
  | case1 => simp [not_flawed_nil]
  | case2 c hc => simp [flawed_cons_of_isGap hc, not_flawed_nil]
  | case3 c hc =>
    refine iff_of_true rfl ?_
    rw [Bool.not_eq_true] at hc
    cases hd : isDigit c with
    | true => exact .inr (.inl (by simp [hd]))
    | false => exact .inl ⟨c, by simp, hd, hc⟩
  | case4 c d text hc ih => rw [ih, flawed_cons_of_isGap hc]
  | case5 c d text hc ih =>
    rw [Bool.not_eq_true] at hc
    cases hh : value? c with
    | none => exact iff_of_true rfl (.inl ⟨c, by simp, by rw [isDigit, hh]; rfl, hc⟩)
    | some high =>
      have hcd : isDigit c = true := by rw [isDigit, hh]; rfl
      cases hl : value? d with
      | none =>
        refine iff_of_true rfl ?_
        cases hg : isGap d with
        | true => exact .inr (.inr ⟨[c], d, text, rfl, hg, by simp [hcd]⟩)
        | false => exact .inl ⟨d, by simp, by rw [isDigit, hl]; rfl, hg⟩
      | some low =>
        have hdd : isDigit d = true := by rw [isDigit, hl]; rfl
        rw [flawed_cons_cons hcd hdd, ← ih]
        cases decode text <;> simp

/-! ### Blanks around a text -/

def Framed (data : Bytes) (text : List Char) : Prop :=
  ∃ before body after, text = before ++ (body ++ after) ∧ (∀ c ∈ before ++ after, isBlank c = true) ∧ Spells data body

lemma Spells.isGap_of_isBlank (h : Spells data text) (hm : c ∈ text) (hb : isBlank c = true) : isGap c = true := by
  have hall : ∀ m < 128, isDigit (Char.ofNat m) = true → isBlank (Char.ofNat m) = false := by decide +kernel
  by_contra hg
  rw [Bool.not_eq_true] at hg
  cases hd : isDigit c with
  | true =>
    obtain ⟨n, hn⟩ := Option.isSome_iff_exists.1 hd
    have hb' : isBlank c = false := by simpa [Char.ofNat_toNat, hd] using hall c.toNat (ascii_of_value? hn)
    rw [hb'] at hb
    cases hb
  | false =>
    have hnone : decode text = none := decode_eq_none.2 (.inl ⟨c, hm, hd, hg⟩)
    rw [decode_eq_some.2 h] at hnone
    cases hnone

lemma decode_dropWhile (h : ∀ c ∈ text, isBlank c = true → isGap c = true) :
    decode (text.dropWhile isBlank) = decode text := by
  induction text with
  | nil => rfl
  | cons c text ih =>
    rw [List.forall_mem_cons] at h
    cases hc : isBlank c with
    | true => rw [List.dropWhile_cons_of_pos hc, ih h.2, decode_cons_of_isGap (h.1 hc)]
    | false => rw [List.dropWhile_cons_of_neg (by simp [hc])]

lemma decode_rdropWhile (h : ∀ c ∈ text, isBlank c = true → isGap c = true) :
    decode (text.rdropWhile isBlank) = decode text := by
  induction text using List.reverseRecOn with
  | nil => rfl
  | append_singleton text c ih =>
    rw [List.forall_mem_append] at h
    cases hc : isBlank c with
    | true => rw [List.rdropWhile_concat_pos _ _ _ hc, ih h.1, decode_concat_of_isGap (h.2 c (by simp) hc)]
    | false => rw [List.rdropWhile_concat_neg _ _ _ (by simp [hc])]

lemma decode_strip_eq_some : decode (strip text) = some data ↔ Framed data text := by
  constructor
  · intro h
    obtain ⟨before, after, ht, hb⟩ := exists_strip text
    exact ⟨before, strip text, after, ht, hb, decode_eq_some.1 h⟩
  · rintro ⟨before, body, after, rfl, hb, h⟩
    rw [List.forall_mem_append] at hb
    rw [strip_append_left hb.1, strip_append_right hb.2]
    have hgap : ∀ c ∈ body, isBlank c = true → isGap c = true := fun c hm hc => h.isGap_of_isBlank hm hc
    have hgap' : ∀ c ∈ body.dropWhile isBlank, isBlank c = true → isGap c = true :=
      fun c hm hc => hgap c (List.dropWhile_subset _ hm) hc
    calc decode (strip body) = decode (body.dropWhile isBlank) := decode_rdropWhile hgap'
      _ = decode body := decode_dropWhile hgap
      _ = some data := decode_eq_some.2 h

end Hex

end Countersign.Text
