import Countersign.Proofs.Tx.Outcome
import Mathlib.Algebra.GroupWithZero.Nat

/-! Where the slots of a transaction are in its bytes. A signature takes the place of the bytes of its slot and of no
others, so nothing moves when a slot is filled, and what the other slots sign stays the same. -/

namespace Countersign

open Wire Digest

variable {chain : Chain} {b data old : Bytes} {i cred slot : Nat}

lemma exists_flatten_set {size : Nat} {bs : List Bytes} (hs : ∀ s ∈ bs, s.length = size) (h : bs[i]? = some old) :
    ∃ before after : Bytes, before.length = size * i ∧ before ++ (old ++ after) = bs.flatten ∧
      ∀ new : Bytes, before ++ (new ++ after) = (bs.set i new).flatten := by
  induction bs generalizing i with
  | nil => cases h
  | cons s bs ih =>
    rw [List.forall_mem_cons] at hs
    cases i with
    | zero =>
      obtain rfl := Option.some.inj h
      exact ⟨[], bs.flatten, rfl, rfl, fun new => rfl⟩
    | succ i =>
      obtain ⟨before, after, hl, hb, hset⟩ := ih hs.2 h
      refine ⟨s ++ before, after, ?_, by simp [hb], fun new => by simp [hset new]⟩
      rw [List.length_append, hs.1, hl, Nat.mul_succ, Nat.add_comm]

namespace Credential

def size (c : Credential) : Nat := 8 + signatureSize * c.sigs.length

lemma length_write {c : Credential} (h : c.toValue.write (some chain.codec) (.interface .credential) = .ok b) :
    b.length = c.size := by
  obtain ⟨id, _, _, _, hs, rfl⟩ := write_toValue_eq_ok.1 h
  have hf : c.sigs.flatten.length = signatureSize * c.sigs.length := by
    rw [List.length_flatten, List.map_congr_left hs, List.map_const', List.sum_replicate_nat, Nat.mul_comm]
  simp only [List.length_append, Bytes.length_ofNat, hf, size]
  omega

lemma exists_write_setSlot {c : Credential} (h : c.toValue.write (some chain.codec) (.interface .credential) = .ok b)
    (ho : c.sigs[slot]? = some old) :
    ∃ before after : Bytes, before.length = 8 + signatureSize * slot ∧ before ++ (old ++ after) = b ∧
      ∀ sig : Bytes, sig.length = signatureSize →
        (c.setSlot slot sig).toValue.write (some chain.codec) (.interface .credential) = .ok (before ++ (sig ++ after)) := by
  obtain ⟨id, ht, hlt, hm, hs, rfl⟩ := write_toValue_eq_ok.1 h
  obtain ⟨before, after, hl, hb, hset⟩ := exists_flatten_set hs ho
  refine ⟨Bytes.ofNat 4 id ++ (Bytes.ofNat 4 c.sigs.length ++ before), after, ?_, by simp [hb], fun sig hx => ?_⟩
  · simp only [List.length_append, Bytes.length_ofNat, hl]
    omega
  · refine write_toValue_eq_ok.2 ⟨id, ht, hlt, ?_, fun s hm => ?_, ?_⟩
    · simpa [setSlot] using hm
    · rcases List.mem_or_eq_of_mem_set hm with hm | rfl
      · exact hs s hm
      · exact hx
    · simp [setSlot, ← hset sig]

lemma exists_writeAll_modify {cs : List Credential} {c : Credential}
    (h : Value.writeAll (some chain.codec) (.interface .credential) (cs.map toValue) = .ok b)
    (hc : cs[cred]? = some c) (ho : c.sigs[slot]? = some old) :
    ∃ before after : Bytes, before.length = ((cs.take cred).map size).sum + (8 + signatureSize * slot) ∧
      before ++ (old ++ after) = b ∧ ∀ sig : Bytes, sig.length = signatureSize →
        Value.writeAll (some chain.codec) (.interface .credential)
          ((cs.modify cred (·.setSlot slot sig)).map toValue) = .ok (before ++ (sig ++ after)) := by
  induction cs generalizing cred b with
  | nil => cases hc
  | cons d cs ih =>
    obtain ⟨b₁, b₂, h₁, h₂, rfl⟩ := Value.writeAll_cons_eq_ok.1 h
    cases cred with
    | zero =>
      obtain rfl := Option.some.inj hc
      obtain ⟨before, after, hl, rfl, hset⟩ := exists_write_setSlot h₁ ho
      refine ⟨before, after ++ b₂, by simp [hl], by simp, fun sig hx => ?_⟩
      exact Value.writeAll_cons_eq_ok.2 ⟨_, b₂, hset sig hx, h₂, by simp⟩
    | succ cred =>
      obtain ⟨before, after, hl, rfl, hset⟩ := ih h₂ hc
      refine ⟨b₁ ++ before, after, ?_, by simp, fun sig hx => ?_⟩
      · simp [hl, length_write h₁]
        omega
      · exact Value.writeAll_cons_eq_ok.2 ⟨b₁, _, h₁, hset sig hx, by simp⟩

end Credential

namespace SignedTx

variable {tx : SignedTx}

def slotOffset (tx : SignedTx) (cred slot : Nat) : Nat :=
  4 + ((tx.creds.take cred).map Credential.size).sum + (8 + signatureSize * slot)

structure SlotChanged (tx tx' : SignedTx) (cred slot : Nat) (sig : Bytes) : Prop where
  chain : tx'.chain = tx.chain
  unsigned : tx'.unsigned = tx.unsigned
  shape : tx'.shape = tx.shape
  here : tx'.slot? cred slot = some sig
  elsewhere : ∀ i j, (i, j) ≠ (cred, slot) → tx'.slot? i j = tx.slot? i j

lemma slotChanged_setSlot (ho : tx.slot? cred slot = some old) (sig : Bytes) :
    tx.SlotChanged (tx.setSlot cred slot sig) cred slot sig where
  chain := rfl
  unsigned := rfl
  shape := by
    have hs (c : Credential) : (c.setSlot slot sig).shape = c.shape := by simp [Credential.setSlot, Credential.shape]
    apply List.ext_getElem?
    intro i
    by_cases hi : cred = i <;> simp [shape, setSlot, hi, Function.comp_def, hs]
  here := by
    obtain ⟨c, hc, ho⟩ := Option.bind_eq_some_iff.1 ho
    obtain ⟨hl, _⟩ := List.getElem?_eq_some_iff.1 ho
    simp [slot?, setSlot, hc, Credential.setSlot, hl]
  elsewhere i j hne := by
    by_cases hi : cred = i
    · subst hi
      have hj : slot ≠ j := fun hj => hne (by rw [hj])
      cases hc : tx.creds[cred]? <;> simp [slot?, setSlot, hc, Credential.setSlot, hj]
    · simp [slot?, setSlot, hi]

lemma exists_toBytes_setSlot_parts (h : tx.toBytes = .ok data) (ho : tx.slot? cred slot = some old) :
    ∃ front before after, tx.unsignedBytes = .ok front ∧ front <+: before ∧
      before.length = front.length + tx.slotOffset cred slot ∧ before ++ (old ++ after) = data ∧
      ∀ sig : Bytes, sig.length = signatureSize → (tx.setSlot cred slot sig).toBytes = .ok (before ++ (sig ++ after)) := by
  obtain ⟨b, hb, h⟩ := bind_eq_ok.1 h
  obtain ⟨_, hc, h⟩ := bind_eq_ok.1 h
  obtain ⟨_, hl, hc⟩ := bind_eq_ok.1 hc
  obtain ⟨_, hw, hc⟩ := bind_eq_ok.1 hc
  obtain ⟨hm, rfl⟩ := writeLength_natCast.1 hl
  obtain rfl := pure_eq_ok.1 hc
  obtain rfl := pure_eq_ok.1 h
  obtain ⟨c, hc, ho⟩ := Option.bind_eq_some_iff.1 ho
  obtain ⟨before, after, hlen, rfl, hset⟩ := Credential.exists_writeAll_modify hw hc ho
  refine ⟨versionBytes ++ b, versionBytes ++ b ++ (Bytes.ofNat 4 tx.creds.length ++ before), after,
    bind_eq_ok.2 ⟨b, hb, rfl⟩, List.prefix_append _ _, ?_, by simp, fun sig hx => ?_⟩
  · simp only [List.length_append, Bytes.length_ofNat, hlen, slotOffset]
    omega
  · have hn : ((tx.setSlot cred slot sig).creds.map Credential.toValue).length = tx.creds.length := by simp [setSlot]
    rw [List.length_map] at hm
    have hcs : tx.chain.codec.writeCredentials ((tx.setSlot cred slot sig).creds.map Credential.toValue) =
        .ok (Bytes.ofNat 4 tx.creds.length ++ (before ++ (sig ++ after))) :=
      bind_eq_ok.2 ⟨_, writeLength_natCast.2 ⟨hn ▸ hm, rfl⟩, bind_eq_ok.2 ⟨_, hset sig hx, by rw [hn]; rfl⟩⟩
    exact bind_eq_ok.2 ⟨b, hb, bind_eq_ok.2 ⟨_, hcs, by simp⟩⟩

lemma length_of_slot? (h : tx.toBytes = .ok data) (ho : tx.slot? cred slot = some old) : old.length = signatureSize := by
  obtain ⟨c, hc, ho⟩ := Option.bind_eq_some_iff.1 ho
  obtain ⟨_, _, hw⟩ := exists_toBytes.1 ⟨data, h⟩
  obtain ⟨_, hw⟩ := hw c (List.mem_of_getElem? hc)
  obtain ⟨_, _, _, _, hs, _⟩ := Credential.write_toValue_eq_ok.1 hw
  exact hs old (List.mem_of_getElem? ho)

/-- Every slot has a place of its own in the bytes of a transaction, behind the unsigned part. Whatever signature is put
into the slot is found there, and all other bytes stay as they are. -/
theorem slot_in_place (h : tx.toBytes = .ok data) (ho : tx.slot? cred slot = some old) :
    ∃ front before after, tx.unsignedBytes = .ok front ∧ front <+: before ∧
      before.length = front.length + tx.slotOffset cred slot ∧
      old.length = signatureSize ∧ before ++ (old ++ after) = data ∧
      ∀ sig : Bytes, sig.length = signatureSize →
        let tx' := tx.setSlot cred slot sig
        let data' := before ++ (sig ++ after)
        tx'.toBytes = .ok data' ∧ data'.length = data.length ∧
        tx'.unsignedBytes = .ok front ∧ tx.digest = .ok (sha256 front) ∧ tx'.digest = .ok (sha256 front) ∧
        SignedTx.ofBytes tx.chain data' = .ok tx' ∧ tx.SlotChanged tx' cred slot sig ∧
        (data' = data ↔ sig = old) := by
  obtain ⟨front, before, after, hf, hp, hl, rfl, hset⟩ := exists_toBytes_setSlot_parts h ho
  have hold : old.length = signatureSize := length_of_slot? h ho
  refine ⟨front, before, after, hf, hp, hl, hold, rfl, fun sig hs => ?_⟩
  have hw := hset sig hs
  have hd : tx.digest = .ok (sha256 front) := map_eq_ok.2 ⟨front, hf, rfl⟩
  refine ⟨hw, by simp [hs, hold], hf, hd, hd, ofBytes_eq_ok.2 ⟨rfl, hw⟩, slotChanged_setSlot ho sig, ?_⟩
  rw [List.append_cancel_left_eq, List.append_cancel_right_eq]

def bundle : SignedTx where
  chain := .exchange
  unsigned := .record Chain.Exchange.plainTx
    [.record Chain.Component.baseTx [.int 1, .bytes (Bytes.zeros 32), .list [], .list [], .bytes []]]
  creds := [⟨.secp, [emptySignature, List.replicate signatureSize 1]⟩, ⟨.nft, [emptySignature]⟩,
    ⟨.property, [List.replicate signatureSize 2, emptySignature]⟩]

theorem bundle_slot_in_place : ∃ data before after : Bytes, bundle.toBytes = .ok data ∧
    bundle.slot? 2 1 = some emptySignature ∧ before.length = 342 ∧ before ++ (emptySignature ++ after) = data ∧
    (List.replicate signatureSize (3 : UInt8)).length = signatureSize ∧
    (bundle.setSlot 2 1 (List.replicate signatureSize 3)).toBytes =
      .ok (before ++ (List.replicate signatureSize 3 ++ after)) := by
  obtain ⟨data, hw⟩ := exists_eq_ok (by decide +kernel : bundle.toBytes.toOption.isSome = true)
  have ho : bundle.slot? 2 1 = some emptySignature := rfl
  obtain ⟨front, before, after, hf, _, hl, _, hb, hset⟩ := slot_in_place hw ho
  obtain ⟨_, hf', hfl⟩ := exists_eq_ok_and
    (by decide +kernel : bundle.unsignedBytes.toOption.map List.length = some 54)
  obtain rfl := Except.ok.inj (hf.symm.trans hf')
  have hx : (List.replicate signatureSize (3 : UInt8)).length = signatureSize := List.length_replicate
  exact ⟨data, before, after, hw, ho, by rw [hl, hfl]; rfl, hb, hx, (hset _ hx).1⟩

end SignedTx

end Countersign
