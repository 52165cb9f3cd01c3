import Countersign.Proofs.Tx.Signed
import Countersign.Tx.Merge
import Mathlib.Data.List.Forall2

namespace Countersign

open Wire

variable {ι : Type} {cred slot : Nat} {sigs : List Bytes} {front : List Credential} {c d : Credential}

lemma joinSlot_self (a : Bytes) : joinSlot a a = some a := by
  rw [joinSlot]
  split
  · rfl
  · exact if_pos (.inr rfl)

lemma joinSlots_map {f g h : ι → Bytes} {xs : List ι} (hj : ∀ x ∈ xs, joinSlot (f x) (g x) = some (h x)) :
    joinSlots cred slot (xs.map f) (xs.map g) = .ok (xs.map h) := by
  induction xs generalizing slot with
  | nil => rfl
  | cons x xs ih =>
    rw [List.forall_mem_cons] at hj
    rw [List.map_cons, List.map_cons, joinSlots, hj.1]
    dsimp only
    rw [ih hj.2]
    rfl

lemma joinSlots_self : joinSlots cred slot sigs sigs = .ok sigs := by
  have h : joinSlots cred slot (sigs.map id) (sigs.map id) = .ok (sigs.map id) :=
    joinSlots_map fun s _ => joinSlot_self s
  rwa [List.map_id] at h

lemma joinCredentials_trailing (hj : ∀ cred, joinSlots cred 0 c.sigs d.sigs = .ok sigs) :
    joinCredentials cred (front ++ [c]) (front ++ [d]) = .ok (front ++ [{ c with sigs }]) := by
  induction front generalizing cred with
  | nil => exact bind_eq_ok.2 ⟨sigs, hj cred, rfl⟩
  | cons e front ih =>
    refine bind_eq_ok.2 ⟨e.sigs, joinSlots_self, ?_⟩
    exact bind_eq_ok.2 ⟨_, ih, rfl⟩

lemma Credential.sameShape_self (c : Credential) : c.sameShape c = true := by
  rw [sameShape, beq_self_eq_true, beq_self_eq_true, Bool.and_self]

lemma shapeMismatch?_trailing (hs : c.sameShape d = true) :
    shapeMismatch? cred (front ++ [c]) (front ++ [d]) = none := by
  induction front generalizing cred with
  | nil =>
    rw [List.nil_append, List.nil_append, shapeMismatch?, if_pos hs]
    rfl
  | cons e front ih =>
    rw [List.cons_append, List.cons_append, shapeMismatch?, if_pos e.sameShape_self]
    exact ih

lemma changedSlots_self (cs : List Credential) : changedSlots cs cs = 0 := by
  induction cs with
  | nil => rfl
  | cons c cs ih =>
    have hc : c.changes c = 0 := by
      rw [Credential.changes, List.countP_eq_zero]
      rintro ⟨a, b⟩ hm
      have he : a = b := List.forall₂_zip (List.forall₂_refl c.sigs) hm
      exact fun hne => of_decide_eq_true hne he
    rw [changedSlots, hc, ih]

lemma SignedTx.merge_trailing {chain : Chain} {unsigned : Value} {b : Bytes}
    (hb : chain.codec.marshal unsigned .unsignedTx = .ok b) (hs : c.sameShape d = true)
    (hj : ∀ cred, joinSlots cred 0 c.sigs d.sigs = .ok sigs) :
    ∃ n, merge ⟨chain, unsigned, front ++ [c]⟩ ⟨chain, unsigned, front ++ [d]⟩ =
      .ok (⟨chain, unsigned, front ++ [{ c with sigs }]⟩, n) := by
  have hu : checkSameUnsigned ⟨chain, unsigned, front ++ [c]⟩ ⟨chain, unsigned, front ++ [d]⟩ = .ok () := by
    rw [checkSameUnsigned, if_neg (not_not.2 rfl)]
    refine bind_eq_ok.2 ⟨b, mapError_eq_ok.2 hb, ?_⟩
    refine bind_eq_ok.2 ⟨b, mapError_eq_ok.2 hb, ?_⟩
    rw [if_neg (not_not.2 rfl)]
    rfl
  have hl : (front ++ [c]).length = (front ++ [d]).length := by
    rw [List.length_append, List.length_append]
    rfl
  refine ⟨changedSlots (front ++ [c]) (front ++ [{ c with sigs }]), bind_eq_ok.2 ⟨(), hu, ?_⟩⟩
  rw [if_neg (not_not.2 hl)]
  simp only [shapeMismatch?_trailing hs]
  exact bind_eq_ok.2 ⟨_, joinCredentials_trailing hj, rfl⟩

end Countersign
