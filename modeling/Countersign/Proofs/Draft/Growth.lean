import Countersign.Proofs.Draft.Phase
import Countersign.Proofs.Tx.Outcome
import Mathlib.Data.List.Forall2

/-! Transactions whose slots are filled one by one. A slot that is filled stays as it is, and so does everything else,
so a transaction that was once found to be funded, signed or complete is so ever after. -/

namespace Countersign

open Wire Draft

variable {α : Type} {R : α → α → Prop} {as bs cs : List α}

lemma forall₂_trans (hR : ∀ {a b c}, R a b → R b c → R a c) (h : List.Forall₂ R as bs) (h' : List.Forall₂ R bs cs) :
    List.Forall₂ R as cs := by
  induction h generalizing cs with
  | nil => exact h'
  | cons hab _ ih =>
    cases h' with
    | cons hbc h' => exact .cons (hR hab hbc) (ih h')

lemma forall₂_modify {i : Nat} {f : α → α} (hr : ∀ a, R a a) (h : ∀ a, as[i]? = some a → R a (f a)) :
    List.Forall₂ R as (as.modify i f) := by
  induction as generalizing i with
  | nil =>
    rw [List.modify_nil]
    exact .nil
  | cons a as ih =>
    cases i with
    | zero => exact .cons (h a rfl) (List.forall₂_same.2 fun a _ => hr a)
    | succ i => exact .cons (hr a) (ih h)

lemma eq_of_forall₂ (h : List.Forall₂ R as bs) (he : ∀ a ∈ as, ∀ b, R a b → b = a) : bs = as := by
  induction h with
  | nil => rfl
  | cons hab _ ih =>
    rw [List.forall_mem_cons] at he
    rw [he.1 _ hab, ih he.2]

lemma exists_of_forall₂ {a : α} (h : List.Forall₂ R as bs) (ha : a ∈ as) : ∃ b ∈ bs, R a b := by
  induction h with
  | nil => cases ha
  | cons hab _ ih =>
    rcases List.mem_cons.1 ha with rfl | ha
    · exact ⟨_, List.mem_cons_self, hab⟩
    · obtain ⟨b, hb, hr⟩ := ih ha
      exact ⟨b, List.mem_cons_of_mem _ hb, hr⟩

def SlotGrows (a b : Bytes) : Prop := a ≠ emptySignature → b = a

lemma SlotGrows.refl (a : Bytes) : SlotGrows a a := fun _ => rfl

lemma SlotGrows.trans {a b c : Bytes} (h : SlotGrows a b) (h' : SlotGrows b c) : SlotGrows a c := by
  intro ha
  obtain rfl := h ha
  exact h' ha

lemma filter_empty_sublist (keys : List Bytes) {sigs sigs' : List Bytes} (h : List.Forall₂ SlotGrows sigs sigs') :
    ((keys.zip sigs').filter fun (_, sig) => sig = emptySignature).Sublist
      ((keys.zip sigs).filter fun (_, sig) => sig = emptySignature) := by
  induction h generalizing keys with
  | nil => exact .refl _
  | @cons a b sigs sigs' hab _ ih =>
    cases keys with
    | nil => exact .refl _
    | cons key keys =>
      rw [List.zip_cons_cons, List.zip_cons_cons, List.filter_cons, List.filter_cons]
      by_cases hb : b = emptySignature
      · have ha : a = emptySignature := by_contra fun ha => ha (hab ha ▸ hb)
        rw [if_pos (decide_eq_true hb), if_pos (decide_eq_true ha), ha, hb]
        exact (ih keys).cons_cons _
      · rw [if_neg fun h => hb (of_decide_eq_true h)]
        by_cases ha : a = emptySignature
        · rw [if_pos (decide_eq_true ha)]
          exact (ih keys).cons _
        · rw [if_neg fun h => ha (of_decide_eq_true h)]
          exact ih keys

structure Credential.Grows (c d : Credential) : Prop where
  extension : d.extension = c.extension
  sigs : List.Forall₂ SlotGrows c.sigs d.sigs

namespace Credential.Grows

variable {c d e : Credential}

lemma refl (c : Credential) : c.Grows c := ⟨rfl, List.forall₂_same.2 fun a _ => .refl a⟩

lemma trans (h : c.Grows d) (h' : d.Grows e) : c.Grows e where
  extension := h'.extension.trans h.extension
  sigs := forall₂_trans .trans h.sigs h'.sigs

lemma setSlot {slot : Nat} (h : c.sigs[slot]? = some emptySignature) (sig : Bytes) : c.Grows (c.setSlot slot sig) where
  extension := rfl
  sigs := by
    rw [Credential.setSlot, List.set_eq_modify]
    apply forall₂_modify .refl
    intro a ha hne
    exact absurd (Option.some.inj (ha.symm.trans h)) hne

lemma eq_of_filled (h : c.Grows d) (hf : c.isFilled = true) : d = c := by
  have hs : d.sigs = c.sigs := eq_of_forall₂ h.sigs fun a ha b hab => hab (of_decide_eq_true (List.all_eq_true.1 hf a ha))
  obtain ⟨e, sigs⟩ := d
  obtain rfl : sigs = c.sigs := hs
  obtain rfl : e = c.extension := h.extension
  rfl

lemma eq_of_all_filled {cs ds : List Credential} (h : List.Forall₂ Credential.Grows cs ds)
    (hf : ∀ c ∈ cs, c.isFilled = true) : ds = cs :=
  eq_of_forall₂ h fun c hm _ hd => hd.eq_of_filled (hf c hm)

end Credential.Grows

lemma slotGrows_fillSlot (a b : Bytes) : SlotGrows a (fillSlot a b) := fun ha => if_neg ha

lemma Credential.grows_fill {c d : Credential} (hs : c.shape = d.shape) : c.Grows (c.fill d) where
  extension := rfl
  sigs := by
    have hl : c.sigs.length = d.sigs.length := congrArg Prod.snd hs
    refine List.forall₂_iff_get.2 ⟨by simp [Credential.fill, hl], fun i hi hi' => ?_⟩
    simp only [Credential.fill, List.get_eq_getElem, List.getElem_zipWith]
    exact slotGrows_fillSlot _ _

lemma forall₂_grows_fill {cs ds : List Credential} (hs : cs.map Credential.shape = ds.map Credential.shape) :
    List.Forall₂ Credential.Grows cs (List.zipWith Credential.fill cs ds) := by
  have hl : cs.length = ds.length := by simpa using congrArg List.length hs
  refine List.forall₂_iff_get.2 ⟨by simp [hl], fun i hi hi' => ?_⟩
  have hi'' : i < ds.length := hl ▸ hi
  have hcd : cs[i].shape = ds[i].shape := by simpa [hi, hi''] using congrArg (·[i]?) hs
  simp only [List.get_eq_getElem, List.getElem_zipWith]
  exact Credential.grows_fill hcd

lemma Draft.Signers.phase_le {s s' : Signers} (hr : s'.required = s.required) (hm : s'.missing.Sublist s.missing) :
    s.phase.rank ≤ s'.phase.rank := by
  have hl := hm.length_le
  rw [phase, phase, hr]
  by_cases he : s.missing.isEmpty = true
  · rw [List.isEmpty_iff] at he
    rw [he, List.sublist_nil] at hm
    apply Nat.le_of_eq
    rw [he, hm]
  · rw [if_neg he]
    by_cases hlt : s.missing.length < s.required.length
    · rw [if_pos hlt, if_pos (Nat.lt_of_le_of_lt hl hlt)]
      split <;> decide
    · rw [if_neg hlt]
      exact Nat.zero_le _

namespace SignedTx

variable {tx tx' tx'' : SignedTx} {told : Except Draft.Fault Ownership}

structure Grows (tx tx' : SignedTx) : Prop where
  chain : tx'.chain = tx.chain
  unsigned : tx'.unsigned = tx.unsigned
  creds : List.Forall₂ Credential.Grows tx.creds tx'.creds

lemma merge_grows {other : SignedTx} {n : Nat} (h : tx.merge other = .ok (tx', n)) :
    tx.Grows tx' ∧ n = changedSlots tx.creds tx'.creds := by
  obtain ⟨hs, rfl, rfl⟩ := merge_eq_ok h
  exact ⟨⟨rfl, rfl, forall₂_grows_fill hs⟩, (changedSlots_fill hs).symm⟩

namespace Grows

lemma refl (tx : SignedTx) : tx.Grows tx := ⟨rfl, rfl, List.forall₂_same.2 fun c _ => .refl c⟩

lemma trans (h : tx.Grows tx') (h' : tx'.Grows tx'') : tx.Grows tx'' where
  chain := h'.chain.trans h.chain
  unsigned := h'.unsigned.trans h.unsigned
  creds := forall₂_trans .trans h.creds h'.creds

lemma setTrailing {slot : Nat} (h : tx.lacks slot = true) (sig : Bytes) : tx.Grows (tx.setTrailing slot sig) where
  chain := rfl
  unsigned := rfl
  creds := by
    apply forall₂_modify .refl
    intro c hc
    have hs := of_decide_eq_true h
    rw [trailingSigs, trailing?, List.getLast?_eq_getElem?, hc] at hs
    exact .setSlot hs sig

lemma eq_of_filled (h : tx.Grows tx') (hf : tx.isFilled = true) : tx' = tx := by
  have hc : tx'.creds = tx.creds := Credential.Grows.eq_of_all_filled h.creds (List.all_eq_true.1 hf)
  obtain ⟨chain, unsigned, creds⟩ := tx'
  obtain rfl : chain = tx.chain := h.chain
  obtain rfl : unsigned = tx.unsigned := h.unsigned
  obtain rfl : creds = tx.creds := hc
  rfl

lemma digest (h : tx.Grows tx') : tx'.digest = tx.digest := by
  rw [SignedTx.digest, SignedTx.digest, SignedTx.unsignedBytes, SignedTx.unsignedBytes, h.chain, h.unsigned]

lemma needsAuthorization (h : tx.Grows tx') : tx'.needsAuthorization = tx.needsAuthorization := by
  rw [SignedTx.needsAuthorization, h.unsigned]
  rfl

lemma authorization_eq (h : tx.Grows tx') : tx'.authorization = tx.authorization := by
  rw [SignedTx.authorization, SignedTx.authorization, kind, kind, h.chain, h.unsigned]

lemma authorization {positions : List Int} (h : tx.Grows tx') (hp : tx.authorization = .ok positions) :
    tx'.authorization = .ok positions := h.authorization_eq.trans hp

lemma dropLast (h : tx.Grows tx') : List.Forall₂ Credential.Grows tx.creds.dropLast tx'.creds.dropLast := by
  rw [List.dropLast_eq_take, List.dropLast_eq_take, ← h.creds.length_eq]
  exact List.forall₂_take _ h.creds

lemma funding (h : tx.Grows tx') : List.Forall₂ Credential.Grows tx.funding tx'.funding := by
  rw [SignedTx.funding, SignedTx.funding, h.needsAuthorization]
  split
  · exact h.dropLast
  · exact h.creds

lemma trailingSigs (h : tx.Grows tx') : List.Forall₂ SlotGrows tx.trailingSigs tx'.trailingSigs := by
  have hr := List.rel_reverse h.creds
  rw [SignedTx.trailingSigs, SignedTx.trailingSigs, trailing?, trailing?, ← List.head?_reverse, ← List.head?_reverse]
  generalize tx.creds.reverse = cs, tx'.creds.reverse = ds at hr ⊢
  cases hr with
  | nil => exact .nil
  | cons hc _ => exact hc.sigs

lemma checkFunding (h : tx.Grows tx') (hf : tx.checkFunding = .ok ()) : tx'.checkFunding = .ok () := by
  obtain ⟨hl, hf⟩ := checkFunding_eq_ok.1 hf
  rw [checkFunding_eq_ok, Credential.Grows.eq_of_all_filled h.dropLast hf, ← h.creds.length_eq]
  exact ⟨hl, hf⟩

lemma isPaid (h : tx.Grows tx') (hp : tx.isPaid = true) : tx'.isPaid = true := by
  rw [SignedTx.isPaid, Bool.and_eq_true_iff, Bool.not_eq_true', List.isEmpty_eq_false_iff_exists_mem,
    List.isEmpty_iff, missingFees_eq_nil] at hp ⊢
  obtain ⟨⟨c, hc⟩, hf⟩ := hp
  obtain ⟨d, hd, _⟩ := exists_of_forall₂ h.creds hc
  refine ⟨⟨d, hd⟩, ?_⟩
  rwa [Credential.Grows.eq_of_all_filled h.funding hf]

lemma hasSignature (h : tx.Grows tx') (hs : tx.hasSignature = true) : tx'.hasSignature = true := by
  simp only [SignedTx.hasSignature, List.any_eq_true, decide_eq_true_eq] at hs ⊢
  obtain ⟨c, hc, sig, hm, hs⟩ := hs
  obtain ⟨d, hd, hcd⟩ := exists_of_forall₂ h.creds hc
  obtain ⟨sig', hm', hg⟩ := exists_of_forall₂ hcd.sigs hm
  obtain rfl := hg hs
  exact ⟨d, hd, sig', hm', hs⟩

lemma compare {keys : List Bytes} {s : Signers} (h : tx.Grows tx') (hc : tx.compare keys = .ok s) :
    ∃ s', tx'.compare keys = .ok s' ∧ s'.required = s.required ∧ s'.missing.Sublist s.missing := by
  obtain ⟨hl, rfl⟩ := compare_eq_ok.1 hc
  refine ⟨_, compare_eq_ok.2 ⟨h.trailingSigs.length_eq ▸ hl, rfl⟩, rfl, List.Sublist.map _ ?_⟩
  exact filter_empty_sublist keys h.trailingSigs

lemma signersFor {s : Signers} (h : tx.Grows tx') (hs : tx.signersFor told = .ok s) :
    ∃ s', tx'.signersFor told = .ok s' ∧ s'.required = s.required ∧ s'.missing.Sublist s.missing := by
  obtain ⟨hf, positions, o, keys, hp, ho, hk, hc⟩ := signersFor_eq_ok.1 hs
  obtain ⟨s', hc', hr, hm⟩ := h.compare hc
  exact ⟨s', signersFor_eq_ok.2 ⟨h.checkFunding hf, positions, o, keys, h.authorization hp, ho, hk, hc'⟩, hr, hm⟩

lemma paidPhase (h : tx.Grows tx') : tx.paidPhase.rank ≤ tx'.paidPhase.rank := by
  rw [SignedTx.paidPhase, SignedTx.paidPhase]
  by_cases hp : tx.isPaid = true
  · apply Nat.le_of_eq
    rw [if_pos hp, if_pos (h.isPaid hp)]
  · rw [if_neg hp]
    by_cases hs : tx.hasSignature = true
    · rw [if_pos hs, if_pos (h.hasSignature hs)]
      split <;> decide
    · rw [if_neg hs]
      exact Nat.zero_le _

end Grows

end SignedTx

end Countersign
