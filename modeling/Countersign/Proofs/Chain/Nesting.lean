import Countersign.Proofs.Chain.Room
import Countersign.Proofs.Tx.Room

/-! Decoding ends on all bytes, and what is decoded is no larger than they allow. The locks of the platform chain hold
values of kinds that they implement themselves, so they can be nested in each other; each one takes twelve bytes. -/

namespace Countersign

open Wire Reader

variable {c : Codec} {l : Layout} {t : RecordType} {k : Kind} {v : Value} {data b : Bytes} {n : Nat}

namespace Chain.Platform

inductive Locked : Nat → Value → Prop
  | bare (v : Value) : Locked 0 v
  | lock {n : Nat} {t : RecordType} (time : Value) {v : Value} : t = lockIn ∨ t = lockOut → Locked n v →
      Locked (n + 1) (.record t [time, v])

lemma layouts_lock (ht : t = lockIn ∨ t = lockOut) : ∃ k, t.layouts = [.u64, .interface k] := by
  obtain rfl | rfl := ht
  · exact ⟨.input, rfl⟩
  · exact ⟨.output, rfl⟩

lemma length_of_write_u64 {o : Option Codec} (h : v.write o .u64 = .ok b) : b.length = 8 := by
  obtain ⟨s, rfl, hs⟩ := Value.write_scalar_eq_ok.1 h
  cases s with
  | int n => exact length_of_writeNumber hs
  | _ => cases hs

lemma writeFields_lock {time : Value} (ht : t = lockIn ∨ t = lockOut)
    (h : Value.writeFields (some c) t.layouts [time, v] = .ok b) :
    ∃ k b', v.write (some c) (.interface k) = .ok b' ∧ b.length = 8 + b'.length := by
  obtain ⟨k, hk⟩ := layouts_lock ht
  rw [hk] at h
  obtain ⟨_, _, b₁, b₂, ⟨⟩, h₁, h₂, rfl⟩ := Value.writeFields_cons_eq_ok.1 h
  obtain ⟨_, _, b₃, b₄, ⟨⟩, h₃, h₄, rfl⟩ := Value.writeFields_cons_eq_ok.1 h₂
  obtain ⟨_, rfl⟩ := Value.writeFields_nil_eq_ok.1 h₄
  exact ⟨k, b₃, h₃, by rw [List.length_append, length_of_write_u64 h₁, List.append_nil]⟩

lemma Locked.le_of_write_interface (hn : Locked n v) (h : v.write (some c) (.interface k) = .ok b) :
    12 * n + 4 ≤ b.length := by
  induction hn generalizing k b with
  | bare v =>
    obtain ⟨_, _, id, b', _, _, _, _, _, rfl⟩ := Value.write_interface_eq_ok.1 h
    rw [List.length_append, Bytes.length_ofNat]
    omega
  | lock time ht _ ih =>
    obtain ⟨_, _, id, b', ⟨⟩, _, _, _, hb, rfl⟩ := Value.write_interface_eq_ok.1 h
    obtain ⟨k', b'', hb', hl⟩ := writeFields_lock ht hb
    have hi := ih hb'
    rw [List.length_append, Bytes.length_ofNat]
    omega

lemma Locked.le_of_write (hn : Locked n v) (h : v.write (some c) l = .ok b) : 12 * n ≤ b.length := by
  cases hn with
  | bare v => exact Nat.zero_le _
  | lock time ht hv =>
    cases l with
    | scalar f => obtain ⟨_, ⟨⟩, _⟩ := Value.write_scalar_eq_ok.1 h
    | slice l => obtain ⟨_, _, ⟨⟩, _⟩ := Value.write_slice_eq_ok.1 h
    | struct u =>
      obtain ⟨_, ⟨⟩, hb⟩ := Value.write_struct_eq_ok.1 h
      obtain ⟨k', b', hb', hl⟩ := writeFields_lock ht hb
      have hi := hv.le_of_write_interface hb'
      omega
    | interface k =>
      have hi := (Locked.lock time ht hv).le_of_write_interface h
      omega

end Chain.Platform

/-- The recursion of the decoder ends on all bytes: it never goes deeper than every fourth of them allows, whatever types
refer to each other. On a stack with room for the depth that it goes to it ends in the same way, and on others it is
given up. -/
theorem decoding_bounded (c : Codec) (chain : Chain) (data : Bytes) :
    (∀ read, c.readOver read = read ↔ read = c.readTagged) ∧
    (∀ bottom d, data.length < 4 * d + 2 → c.Unrolled bottom d data) ∧
    c.Roomy data ∧ c.Stacked data ∧
    SignedTx.Tells chain data ∧
    Gauged data (SignedTx.ofBytes chain data) (SignedTx.ofBytesIn · chain data) ∧
    (∀ tx, SignedTx.ofBytes chain data = .ok tx →
      Reaches .noRoom tx.nesting (.ok tx) (SignedTx.ofBytesIn · chain data)) ∧
    (∀ l v, c.Decoded data l v → c.Bounded data l v) ∧
    (∀ unsigned creds, c.unmarshalSigned data = .ok (unsigned, creds) →
      c.SlicedIn data (.interface .credential) creds) ∧
    (∀ nested l here v d, ((Layout.slice l).read nested).runOn here = (.ok v, d) →
      ∃ vs, v = .list vs ∧ Sliced nested l vs here) ∧
    ∀ l v w n, Chain.Platform.codec.Decoded data l v → w.Inside v → Chain.Platform.Locked n w →
      12 * n + 2 ≤ data.length := by
  refine ⟨fun read => Codec.readOver_eq_self_iff, fun bottom d => Codec.unrolled bottom, c.roomy data, c.stacked data,
    SignedTx.ofBytes_tells chain data, SignedTx.ofBytesIn_gauged chain data, fun tx => SignedTx.ofBytesIn_reaches,
    fun l v => Codec.Decoded.bounded, fun unsigned creds => Codec.creds_sliced,
    fun nested l here v d => Layout.sliced_of_read, ?_⟩
  intro l v w n h hw hn
  obtain ⟨l', b, hb, hl⟩ := h.exists_write hw
  have hb' := hn.le_of_write hb
  omega

theorem locks_given_up : ∃ data, Chain.Platform.codec.marshal (Chain.Platform.locks 400) .output = .ok data ∧
    Chain.Platform.codec.unmarshal data .output = .ok (Chain.Platform.locks 400) ∧
    ∀ room ≤ 400, Chain.Platform.codec.unmarshalIn room data .output = .error .noRoom := by
  obtain ⟨b, hb⟩ := Chain.Platform.exists_write_locks 400
  have hw : Chain.Platform.codec.marshal (Chain.Platform.locks 400) .output = .ok (versionBytes ++ b) :=
    bind_eq_ok.2 ⟨b, hb, rfl⟩
  have hu := Codec.unmarshal_marshal (Chain.spacious_codec .platform) hw
  refine ⟨_, hw, hu, fun room hr => ?_⟩
  have hv := (Chain.Platform.codec.stacked _).tagged_value _ _ hu
  rw [Chain.Platform.nesting_locks] at hv
  exact hv.given_up room (by omega)

-- Two locks around an output.
example : (Chain.Platform.codec.unmarshal (versionBytes ++ Bytes.ofNat 4 22 ++ Bytes.zeros 8 ++ Bytes.ofNat 4 22 ++
    Bytes.zeros 8 ++ Bytes.ofNat 4 7 ++ Bytes.zeros 24) .output).toOption.map (·.nesting (.interface .output)) =
      some 3 := by
  decide +kernel

end Countersign
