import Countersign.Key.Keyring
import Countersign.Proofs.Wire.Scalar

namespace Countersign

open Wire Curve

namespace Curve.Signature

variable {g : Signature}

lemma normalized_r (g : Signature) : g.normalized.r = g.r := by
  rw [normalized]
  split <;> rfl

lemma r_of_withNonce? {secret hash nonce : Nat} (h : withNonce? secret hash nonce = some g) :
    0 < g.r ∧ g.r < order := by
  rw [withNonce?] at h
  cases hp : Point.smul nonce .generator with
  | infinity =>
    rw [hp] at h
    cases h
  | affine x y =>
    rw [hp] at h
    dsimp only at h
    split at h
    · cases h
    · rename_i hn
      obtain rfl := Option.some.inj h
      rw [normalized_r]
      exact ⟨Nat.pos_of_ne_zero fun h0 => hn (.inl h0), Nat.mod_lt x (by decide)⟩

lemma toBytes_ne_emptySignature (h0 : 0 < g.r) (hlt : g.r < order) : g.toBytes ≠ emptySignature := by
  intro he
  have hr : Bytes.ofNat 32 g.r = Bytes.zeros 32 := by
    have ht := congrArg (List.take 32) he
    rwa [toBytes, List.append_assoc, List.take_left' (Bytes.length_ofNat 32 g.r)] at ht
  have hn := congrArg Bytes.toNat hr
  rw [Bytes.toNat_ofNat 32 g.r (Nat.lt_trans hlt (by decide))] at hn
  exact absurd (hn.trans (by decide)) (Nat.ne_of_gt h0)

end Curve.Signature

lemma PrivateKey.toBytes_of_sign {key : PrivateKey} {seed digest : Bytes} {g : Signature}
    (h : key.sign seed digest = .ok g) : g.toBytes.length = signatureSize ∧ g.toBytes ≠ emptySignature := by
  constructor
  · simp [Signature.toBytes, Bytes.length_ofNat, signatureSize]
  · rw [PrivateKey.sign] at h
    split at h
    · cases hs : Signature.sign? key.secret digest seed with
      | none =>
        rw [hs] at h
        cases h
      | some g' =>
        rw [hs] at h
        obtain rfl := Except.ok.inj h
        obtain ⟨i, _, hi⟩ := List.exists_of_findSome?_eq_some hs
        obtain ⟨h0, hlt⟩ := Signature.r_of_withNonce? hi
        exact Signature.toBytes_ne_emptySignature h0 hlt
    · cases h

namespace Keyring

variable {ring : Keyring} {address : Bytes}

lemma key_eq_ok {key : PrivateKey} :
    ring.key address = .ok key ↔ ring.get? address = some key := by
  rw [Keyring.key]
  cases ring.get? address <;> simp

lemma signature_eq_ok {tx : SignedTx} {slot : Nat} {seed sig : Bytes} :
    ring.signature seed tx slot address = .ok sig ↔ ∃ key cred digest g, ring.get? address = some key ∧
      tx.trailing? = some cred ∧ slot < cred.sigs.length ∧ tx.digest = .ok digest ∧ key.sign seed digest = .ok g ∧
      g.toBytes = sig := by
  rw [signature, bind_eq_ok]
  constructor
  · rintro ⟨key, hkey, h⟩
    cases ht : tx.trailing? with
    | none =>
      rw [ht] at h
      cases h
    | some cred =>
      rw [ht] at h
      dsimp only at h
      split at h
      · cases h
      · rename_i hlt
        obtain ⟨digest, hd, h⟩ := bind_eq_ok.1 h
        obtain ⟨g, hg, h⟩ := bind_eq_ok.1 h
        exact ⟨key, cred, digest, g, key_eq_ok.1 hkey, rfl, by omega, mapError_eq_ok.1 hd, mapError_eq_ok.1 hg,
          pure_eq_ok.1 h⟩
  · rintro ⟨key, cred, digest, g, hkey, ht, hlt, hd, hg, rfl⟩
    refine ⟨key, key_eq_ok.2 hkey, ?_⟩
    rw [ht]
    dsimp only
    rw [if_neg (by omega)]
    exact bind_eq_ok.2 ⟨digest, mapError_eq_ok.2 hd, bind_eq_ok.2 ⟨g, mapError_eq_ok.2 hg, rfl⟩⟩

end Keyring

end Countersign
