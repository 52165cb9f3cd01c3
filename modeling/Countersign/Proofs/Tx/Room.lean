import Countersign.Proofs.Tx.Signed
import Countersign.Proofs.Wire.Room

namespace Countersign.SignedTx

open Wire

variable {chain : Chain} {data : Bytes} {tx : SignedTx}

lemma ofBytes_ne_noRoom : ofBytes chain data ≠ .error .noRoom := by
  intro h
  obtain ⟨tx, ht, _⟩ | ⟨e, he, hu⟩ := ofBytes_tells chain data
  · rw [h] at ht
    cases ht
  · obtain rfl := Except.error.inj (h.symm.trans he)
    exact (chain.codec.roomy data).signed hu

lemma ofBytesIn_gauged (chain : Chain) (data : Bytes) :
    Gauged data (ofBytes chain data) (ofBytesIn · chain data) := by
  obtain ⟨depth, hl, hd⟩ := (chain.codec.stacked data).signed
  exact ⟨depth, hl, hd.through (· >>= ofMessage chain) rfl⟩

def nesting (tx : SignedTx) : Nat := Codec.signedNesting tx.unsigned (tx.creds.map Credential.toValue)

lemma ofBytesIn_reaches (h : ofBytes chain data = .ok tx) :
    Reaches .noRoom tx.nesting (.ok tx) (ofBytesIn · chain data) := by
  obtain ⟨tx', ht, hu⟩ | ⟨e, he, _⟩ := ofBytes_tells chain data
  · obtain rfl := Except.ok.inj (h.symm.trans ht)
    obtain ⟨rfl, _⟩ := ofBytes_eq_ok.1 h
    have hv := ((tx.chain.codec.stacked data).signed_value _ _ hu).through (· >>= ofMessage tx.chain) rfl
    rwa [show (Except.ok (tx.unsigned, tx.creds.map Credential.toValue) >>= ofMessage tx.chain) = .ok tx from
      ofMessage_toValue tx.unsigned tx.creds] at hv
  · rw [h] at he
    cases he

end Countersign.SignedTx
