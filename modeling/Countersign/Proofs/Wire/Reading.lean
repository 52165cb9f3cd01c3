import Countersign.Wire.Scalar
import Mathlib.Data.List.Induction

/-! Two laws of a reader. It reads a value from bytes if it does so whatever follows them, and it is
canonical for a writer if that writer gives back exactly the bytes that were read. -/

namespace Countersign.Bytes

lemma toNat_lt (b : Bytes) : toNat b < capacity b.length := by
  induction b using List.reverseRec with
  | nil => decide
  | append_singleton b x ih =>
    have hx := x.toNat_lt
    rw [toNat_append_singleton, List.length_append, List.length_singleton, capacity_succ]
    omega

lemma ofNat_toNat (b : Bytes) : ofNat b.length (toNat b) = b := by
  induction b using List.reverseRec with
  | nil => rfl
  | append_singleton b x ih =>
    have hx := x.toNat_lt
    have hd : (toNat b * 256 + x.toNat) / 256 = toNat b := by omega
    have hm : UInt8.ofNat (toNat b * 256 + x.toNat) = x := by
      apply UInt8.toNat_inj.1
      rw [UInt8.toNat_ofNat']
      omega
    rw [toNat_append_singleton, List.length_append, List.length_singleton, ofNat, hd, hm, ih]

end Countersign.Bytes

namespace Countersign.Wire.Reader

variable {α β : Type} {r : Reader α} {f : α → Reader β} {c c' : Cursor} {b b' : Bytes} {x : α} {y : β}

lemma runOn_get (c : Cursor) : (get : Reader Cursor).runOn c = (.ok c, c) := rfl

lemma runOn_bind_ok : (r >>= f).runOn c = (.ok y, c') ↔
    ∃ x d, r.runOn c = (.ok x, d) ∧ (f x).runOn d = (.ok y, c') := by
  rw [runOn_bind]
  rcases r.runOn c with ⟨_ | x, d⟩
  · simp
  · simp only [Prod.mk.injEq, Except.ok.injEq]
    exact ⟨fun h => ⟨x, d, ⟨rfl, rfl⟩, h⟩, by rintro ⟨_, _, ⟨rfl, rfl⟩, h⟩; exact h⟩

lemma runOn_pure_ok {z : α} (h : (pure x : Reader α).runOn c = (.ok z, c')) : z = x ∧ c' = c := by
  obtain ⟨hz, hc⟩ := Prod.mk.inj ((runOn_pure x c).symm.trans h)
  exact ⟨(Except.ok.inj hz).symm, hc.symm⟩

lemma runOn_throw_ok {e : Fault} : (throw e : Reader α).runOn c ≠ (.ok x, c') := by
  simp [runOn_throw]

lemma runOn_take_ok {n : Nat} (h : (take n).runOn c = (.ok b, c')) : b.length = n ∧ c.rest = b ++ c'.rest := by
  rw [runOn_take] at h
  split at h
  · rename_i hn
    obtain ⟨rfl, rfl⟩ := by simpa using h
    exact ⟨List.length_take_of_le hn, (List.take_append_drop n c.rest).symm⟩
  · simp at h

lemma runOn_number_ok {size n : Nat} (h : (number size).runOn c = (.ok n, c')) :
    n < Bytes.capacity size ∧ c.rest = Bytes.ofNat size n ++ c'.rest := by
  rw [number, map_eq_pure_bind] at h
  obtain ⟨b, d, hb, hp⟩ := runOn_bind_ok.1 h
  obtain ⟨rfl, rfl⟩ := runOn_pure_ok hp
  obtain ⟨rfl, hr⟩ := runOn_take_ok hb
  exact ⟨Bytes.toNat_lt b, by rw [Bytes.ofNat_toNat, hr]⟩

lemma runOn_length_ok {n : Nat} (h : length.runOn c = (.ok n, c')) :
    n ≤ maxLength ∧ n ≤ c'.rest.length ∧ c.rest = Bytes.ofNat 4 n ++ c'.rest := by
  rw [length] at h
  obtain ⟨m, d, hm, h⟩ := runOn_bind_ok.1 h
  obtain ⟨d', _, hg, h⟩ := runOn_bind_ok.1 h
  obtain ⟨rfl, rfl⟩ := by simpa using (runOn_get d).symm.trans hg
  by_cases hn : maxLength < m ∨ d.remaining < m
  · rw [if_pos hn] at h
    obtain ⟨_, _, h, _⟩ := runOn_bind_ok.1 h
    exact (runOn_throw_ok h).elim
  · rw [if_neg hn] at h
    obtain ⟨rfl, rfl⟩ := runOn_pure_ok h
    rw [not_or] at hn
    exact ⟨Nat.not_lt.1 hn.1, Nat.not_lt.1 hn.2, (runOn_number_ok hm).2⟩

lemma runOn_finish_ok {u : Unit} (h : finish.runOn c = (.ok u, c')) : c.rest = [] := by
  rw [finish] at h
  obtain ⟨d', _, hg, h⟩ := runOn_bind_ok.1 h
  obtain ⟨rfl, rfl⟩ := by simpa using (runOn_get c).symm.trans hg
  by_cases hr : c.remaining ≠ 0
  · rw [if_pos hr] at h
    exact (runOn_throw_ok h).elim
  · exact List.length_eq_zero_iff.1 (Decidable.not_not.1 hr)

/-! ### Reading from the front -/

def Reads (r : Reader α) (b : Bytes) (x : α) : Prop :=
  ∀ offset rest, r.runOn ⟨offset, b ++ rest⟩ = (.ok x, ⟨offset + b.length, rest⟩)

namespace Reads

protected lemma pure (x : α) : (pure x : Reader α).Reads [] x := fun _ _ => rfl

protected lemma bind (h : r.Reads b x) (h' : (f x).Reads b' y) : (r >>= f).Reads (b ++ b') y := by
  intro offset rest
  rw [runOn_bind, List.append_assoc, h]
  simpa only [List.length_append, Nat.add_assoc] using h' (offset + b.length) rest

protected lemma last (h : r.Reads b x) (h' : (f x).Reads [] y) : (r >>= f).Reads b y := by
  simpa only [List.append_nil] using h.bind h'

protected lemma map (g : α → β) (h : r.Reads b x) : (g <$> r).Reads b (g x) := by
  rw [map_eq_pure_bind]
  exact h.last (.pure (g x))

protected lemma take (b : Bytes) : (take b.length).Reads b b := by
  intro offset rest
  simp [runOn_take, Cursor.remaining, Cursor.advance]

protected lemma number {size n : Nat} (h : n < Bytes.capacity size) : (number size).Reads (Bytes.ofNat size n) n := by
  have ht := Reads.take (Bytes.ofNat size n)
  rw [Bytes.length_ofNat] at ht
  simpa only [Bytes.toNat_ofNat size n h] using! ht.map Bytes.toNat

end Reads

lemma Reads.length_bind {f : Nat → Reader β} {n : Nat} (hm : n ≤ maxLength) (hn : n ≤ b.length)
    (h : (f n).Reads b y) : (length >>= f).Reads (Bytes.ofNat 4 n ++ b) y := by
  intro offset rest
  have hc : n < Bytes.capacity 4 := Nat.lt_of_le_of_lt hm (by decide : maxLength < Bytes.capacity 4)
  have hl : length.runOn ⟨offset, Bytes.ofNat 4 n ++ (b ++ rest)⟩ = (.ok n, ⟨offset + 4, b ++ rest⟩) := by
    have hg : ¬ (maxLength < n ∨ (⟨offset + 4, b ++ rest⟩ : Cursor).remaining < n) := by
      rw [Cursor.remaining, List.length_append]
      omega
    rw [length, runOn_bind, Reads.number hc]
    simp only [runOn_bind, runOn_get, Bytes.length_ofNat, if_neg hg]
    rfl
  rw [runOn_bind, List.append_assoc, hl]
  simpa only [List.length_append, Bytes.length_ofNat, Nat.add_assoc] using h (offset + 4) rest

/-! ### Reading back what a writer wrote -/

def Canonical (r : Reader α) (write : α → Except Fault Bytes) : Prop :=
  ∀ c c' x, r.runOn c = (.ok x, c') → ∃ b, write x = .ok b ∧ c.rest = b ++ c'.rest

end Countersign.Wire.Reader
