import Countersign.Proofs.Except
import Countersign.Proofs.Wire.Reading

namespace Countersign.Wire

lemma writeNumber_eq_ok {size : Nat} {n : Int} {b : Bytes} :
    writeNumber size n = .ok b ↔ 0 ≤ n ∧ n < Bytes.capacity size ∧ Bytes.ofNat size n.toNat = b := by
  rw [writeNumber]
  split
  · rename_i h
    exact ⟨fun hb => ⟨h.1, h.2, Except.ok.inj hb⟩, fun hb => congrArg _ hb.2.2⟩
  · rename_i h
    exact ⟨nofun, fun hb => (h ⟨hb.1, hb.2.1⟩).elim⟩

lemma writeNumber_natCast {size n : Nat} (h : n < Bytes.capacity size) :
    writeNumber size n = .ok (Bytes.ofNat size n) :=
  writeNumber_eq_ok.2 ⟨Int.natCast_nonneg n, Int.ofNat_lt.2 h, rfl⟩

lemma length_of_writeNumber {size : Nat} {n : Int} {b : Bytes} (h : writeNumber size n = .ok b) : b.length = size := by
  rw [← (writeNumber_eq_ok.1 h).2.2, Bytes.length_ofNat]

lemma writeLength_natCast {n : Nat} {b : Bytes} :
    writeLength n = .ok b ↔ n ≤ maxLength ∧ Bytes.ofNat 4 n = b := by
  rw [writeLength]
  split
  · rename_i h
    exact ⟨nofun, fun hb => (Nat.not_lt.2 hb.1 (Int.ofNat_lt.1 h)).elim⟩
  · rename_i h
    have hn : n ≤ maxLength := Nat.not_lt.1 fun hl => h (Int.ofNat_lt.2 hl)
    have hc : n < Bytes.capacity 4 := Nat.lt_of_le_of_lt hn (by decide : maxLength < Bytes.capacity 4)
    rw [writeNumber_natCast hc]
    exact ⟨fun hb => ⟨hn, Except.ok.inj hb⟩, fun hb => congrArg _ hb.2⟩

lemma utf8?_utf8 (s : String) : utf8? (utf8 s) = some s := by
  simp [utf8?, utf8, String.fromUTF8?, s.isValidUTF8, String.fromUTF8]

lemma utf8_of_utf8? {b : Bytes} {s : String} (h : utf8? b = some s) : utf8 s = b := by
  rw [utf8?, String.fromUTF8?] at h
  split at h
  · obtain rfl := Option.some.inj h
    simp [utf8, String.fromUTF8]
  · cases h

namespace Form

open Reader

lemma read_canonical (f : Form) : f.read.Canonical f.write := by
  intro c c' s h
  cases f with
  | uint w =>
    obtain ⟨n, d, hn, hp⟩ := runOn_bind_ok.1 h
    obtain ⟨rfl, rfl⟩ := runOn_pure_ok hp
    obtain ⟨hlt, hr⟩ := runOn_number_ok hn
    exact ⟨_, writeNumber_natCast hlt, hr⟩
  | bool =>
    obtain ⟨n, d, hn, hp⟩ := runOn_bind_ok.1 h
    by_cases hl : 1 < n
    · rw [if_pos hl] at hp
      obtain ⟨_, _, hp, _⟩ := runOn_bind_ok.1 hp
      exact (runOn_throw_ok hp).elim
    · rw [if_neg hl] at hp
      obtain ⟨rfl, rfl⟩ := runOn_pure_ok hp
      obtain ⟨hlt, hr⟩ := runOn_number_ok hn
      have he : (n == 1).toNat = n := by
        obtain rfl | rfl : n = 0 ∨ n = 1 := by omega
        all_goals rfl
      refine ⟨_, ?_, hr⟩
      show writeNumber 1 (n == 1).toNat = _
      rw [he]
      exact writeNumber_natCast hlt
  | text =>
    obtain ⟨n, d, hn, hd⟩ := runOn_bind_ok.1 h
    obtain ⟨b, d', hb, hp⟩ := runOn_bind_ok.1 hd
    obtain ⟨hlt, hr⟩ := runOn_number_ok hn
    obtain ⟨rfl, hr'⟩ := runOn_take_ok hb
    cases hs : utf8? b with
    | none =>
      rw [hs] at hp
      exact (runOn_throw_ok hp).elim
    | some t =>
      rw [hs] at hp
      obtain ⟨rfl, rfl⟩ := runOn_pure_ok hp
      obtain rfl := utf8_of_utf8? hs
      refine ⟨_, bind_eq_ok.2 ⟨_, writeNumber_natCast hlt, rfl⟩, ?_⟩
      rw [hr, hr', List.append_assoc]
  | bytes =>
    obtain ⟨n, d, hn, hd⟩ := runOn_bind_ok.1 h
    obtain ⟨b, d', hb, hp⟩ := runOn_bind_ok.1 hd
    obtain ⟨rfl, rfl⟩ := runOn_pure_ok hp
    obtain ⟨rfl, hr'⟩ := runOn_take_ok hb
    obtain ⟨hm, _, hr⟩ := runOn_length_ok hn
    refine ⟨_, bind_eq_ok.2 ⟨_, writeLength_natCast.2 ⟨hm, rfl⟩, rfl⟩, ?_⟩
    rw [hr, hr', List.append_assoc]
  | fixed size =>
    obtain ⟨b, d, hb, hp⟩ := runOn_bind_ok.1 h
    obtain ⟨rfl, rfl⟩ := runOn_pure_ok hp
    obtain ⟨hs, hr⟩ := runOn_take_ok hb
    exact ⟨b, if_pos hs, hr⟩

lemma read_reads {f : Form} {s : Scalar} {b : Bytes} (h : f.write s = .ok b) : f.read.Reads b s := by
  cases f with
  | uint w =>
    cases s with
    | int n =>
      obtain ⟨h0, hlt, rfl⟩ := writeNumber_eq_ok.1 h
      have hn : ((n.toNat : Nat) : Int) = n := Int.toNat_of_nonneg h0
      have hc : n.toNat < Bytes.capacity w.size := by omega
      refine (Reads.number hc).last ?_
      rw [hn]
      exact .pure _
    | _ => cases h
  | bool =>
    cases s with
    | bool v =>
      obtain ⟨_, hlt, rfl⟩ := writeNumber_eq_ok.1 h
      refine (Reads.number (Int.ofNat_lt.1 hlt)).last ?_
      cases v
      · exact .pure (Scalar.bool false)
      · exact .pure (Scalar.bool true)
    | _ => cases h
  | text =>
    cases s with
    | text t =>
      obtain ⟨_, hl, hb⟩ := bind_eq_ok.1 h
      obtain ⟨_, hlt, rfl⟩ := writeNumber_eq_ok.1 hl
      obtain rfl := Except.ok.inj hb
      refine (Reads.number (Int.ofNat_lt.1 hlt)).bind ((Reads.take (utf8 t)).last ?_)
      rw [utf8?_utf8]
      exact .pure _
    | _ => cases h
  | bytes =>
    cases s with
    | bytes d =>
      obtain ⟨_, hl, hb⟩ := bind_eq_ok.1 h
      obtain ⟨hm, rfl⟩ := writeLength_natCast.1 hl
      obtain rfl := Except.ok.inj hb
      exact .length_bind hm (Nat.le_refl _) ((Reads.take d).last (.pure _))
    | _ => cases h
  | fixed size =>
    cases s with
    | bytes d =>
      rw [write] at h
      split at h
      · rename_i hs
        obtain rfl := Except.ok.inj h
        subst hs
        exact (Reads.take d).last (.pure _)
      · cases h
    | _ => cases h

end Form

end Countersign.Wire
