import Countersign.Proofs.Tx.Merge
import Mathlib.Data.Nat.Find

namespace Countersign

open Wire

section Places

variable {α β : Type} {R : α → β → Prop} {a : α} {b : β} {as : List α} {bs : List β} {i : Nat}

def RelatedAt (R : α → β → Prop) (as : List α) (bs : List β) (i : Nat) : Prop :=
  ∃ a b, as[i]? = some a ∧ bs[i]? = some b ∧ R a b

def FirstAt (R : α → β → Prop) (as : List α) (bs : List β) (i : Nat) : Prop :=
  RelatedAt R as bs i ∧ ∀ j < i, ¬ RelatedAt R as bs j

@[simp] lemma relatedAt_nil_left : ¬ RelatedAt R [] bs i := by simp [RelatedAt]

@[simp] lemma relatedAt_nil_right : ¬ RelatedAt R as [] i := by simp [RelatedAt]

@[simp] lemma relatedAt_cons_zero : RelatedAt R (a :: as) (b :: bs) 0 ↔ R a b := by simp [RelatedAt]

@[simp] lemma relatedAt_cons_succ : RelatedAt R (a :: as) (b :: bs) (i + 1) ↔ RelatedAt R as bs i := by
  simp [RelatedAt]

lemma firstAt_cons : FirstAt R (a :: as) (b :: bs) i ↔
    i = 0 ∧ R a b ∨ ¬ R a b ∧ ∃ j, i = j + 1 ∧ FirstAt R as bs j := by
  cases i with
  | zero => simp [FirstAt]
  | succ i =>
    have hlt : (∀ j < i + 1, ¬ RelatedAt R (a :: as) (b :: bs) j) ↔ ¬ R a b ∧ ∀ j < i, ¬ RelatedAt R as bs j := by
      constructor
      · intro h
        exact ⟨fun hr => h 0 (by omega) (relatedAt_cons_zero.2 hr),
          fun j hj hr => h (j + 1) (by omega) (relatedAt_cons_succ.2 hr)⟩
      · rintro ⟨h0, h⟩ (_ | j) hj hr
        · exact h0 (relatedAt_cons_zero.1 hr)
        · exact h j (by omega) (relatedAt_cons_succ.1 hr)
    simp only [FirstAt, relatedAt_cons_succ, hlt]
    simp
    tauto

lemma RelatedAt.exists_firstAt (h : RelatedAt R as bs i) : ∃ j, FirstAt R as bs j := by
  classical
  have hex : ∃ j, RelatedAt R as bs j := ⟨i, h⟩
  exact ⟨Nat.find hex, Nat.find_spec hex, fun j hj => Nat.find_min hex hj⟩

end Places

variable {cred slot k : Nat} {as bs sigs : List Bytes} {cs ds es : List Credential} {f : MergeFault}

def Clash (a b : Bytes) : Prop := a ≠ emptySignature ∧ b ≠ emptySignature ∧ a ≠ b

def fillSlot (a b : Bytes) : Bytes := if a = emptySignature then b else a

lemma joinSlot_of_clash {a b : Bytes} (h : Clash a b) : joinSlot a b = none := by
  have hne : ¬ (b = emptySignature ∨ a = b) := by
    rintro (hb | hab)
    · exact h.2.1 hb
    · exact h.2.2 hab
  rw [joinSlot, if_neg h.1, if_neg hne]

lemma joinSlot_of_not_clash {a b : Bytes} (h : ¬ Clash a b) : joinSlot a b = some (fillSlot a b) := by
  rw [joinSlot, fillSlot]
  split
  · rfl
  · rename_i ha
    apply if_pos
    by_contra hne
    rw [not_or] at hne
    exact h ⟨ha, hne.1, hne.2⟩

lemma joinSlots_of_not_clash (h : ∀ i, ¬ RelatedAt Clash as bs i) :
    joinSlots cred slot as bs = .ok (List.zipWith fillSlot as bs) := by
  induction as generalizing slot bs with
  | nil => rfl
  | cons a as ih =>
    cases bs with
    | nil => rfl
    | cons b bs =>
      have hab : ¬ Clash a b := fun hc => h 0 (relatedAt_cons_zero.2 hc)
      have hrest : ∀ i, ¬ RelatedAt Clash as bs i := fun i hc => h (i + 1) (relatedAt_cons_succ.2 hc)
      simp only [joinSlots, joinSlot_of_not_clash hab, ih hrest]
      rfl

lemma joinSlots_of_clash {i : Nat} (h : FirstAt Clash as bs i) :
    joinSlots cred slot as bs = .error (.conflict cred (slot + i)) := by
  induction as generalizing slot bs i with
  | nil => exact absurd h.1 relatedAt_nil_left
  | cons a as ih =>
    cases bs with
    | nil => exact absurd h.1 relatedAt_nil_right
    | cons b bs =>
      obtain ⟨rfl, hab⟩ | ⟨hab, j, rfl, hj⟩ := firstAt_cons.1 h
      · simp only [joinSlots, joinSlot_of_clash hab, Nat.add_zero]
      · simp only [joinSlots, joinSlot_of_not_clash hab, ih hj]
        rw [Nat.add_right_comm, Nat.add_assoc]
        rfl

namespace Credential

def shape (c : Credential) : Extension × Nat := (c.extension, c.sigs.length)

lemma sameShape_iff {c d : Credential} : c.sameShape d = true ↔ c.shape = d.shape := by
  simp [sameShape, shape]

def ClashIn (slot : Nat) (c d : Credential) : Prop := RelatedAt Clash c.sigs d.sigs slot

def fill (c d : Credential) : Credential := { c with sigs := List.zipWith fillSlot c.sigs d.sigs }

end Credential

open Credential

lemma shapeMismatch?_eq_some {n : Nat} : shapeMismatch? k cs ds = some n ↔
    ∃ i, n = k + i ∧ FirstAt (fun c d => c.shape ≠ d.shape) cs ds i := by
  induction cs generalizing k ds with
  | nil => simp [shapeMismatch?, FirstAt]
  | cons c cs ih =>
    cases ds with
    | nil => simp [shapeMismatch?, FirstAt]
    | cons d ds =>
      by_cases hs : c.shape = d.shape
      · simp only [shapeMismatch?, sameShape_iff.2 hs, if_true, ih, firstAt_cons, hs]
        constructor
        · rintro ⟨i, rfl, hi⟩
          exact ⟨i + 1, by omega, .inr ⟨by simp, i, rfl, hi⟩⟩
        · rintro ⟨_, rfl, ⟨_, hne⟩ | ⟨_, i, rfl, hi⟩⟩
          · exact absurd rfl hne
          · exact ⟨i, by omega, hi⟩
      · have hne : ¬ c.sameShape d = true := fun h => hs (sameShape_iff.1 h)
        simp only [shapeMismatch?, if_neg hne, Option.some.injEq, firstAt_cons]
        constructor
        · rintro rfl
          exact ⟨0, rfl, .inl ⟨rfl, hs⟩⟩
        · rintro ⟨_, rfl, ⟨rfl, _⟩ | ⟨h, _⟩⟩
          · rfl
          · exact absurd hs h

lemma map_shape_eq_iff : cs.map shape = ds.map shape ↔ cs.length = ds.length ∧ shapeMismatch? k cs ds = none := by
  induction cs generalizing k ds with
  | nil => cases ds <;> simp [shapeMismatch?]
  | cons c cs ih =>
    cases ds with
    | nil => simp
    | cons d ds =>
      by_cases hs : c.shape = d.shape
      · simp [shapeMismatch?, sameShape_iff, hs, ih (k := k + 1)]
      · simp [shapeMismatch?, sameShape_iff, hs]

lemma joinCredentials_of_not_clash (h : ∀ i slot, ¬ RelatedAt (ClashIn slot) cs ds i) :
    joinCredentials k cs ds = .ok (List.zipWith Credential.fill cs ds) := by
  induction cs generalizing k ds with
  | nil => rfl
  | cons c cs ih =>
    cases ds with
    | nil => rfl
    | cons d ds =>
      have hcd : ∀ slot, ¬ RelatedAt Clash c.sigs d.sigs slot := fun slot hc => h 0 slot (relatedAt_cons_zero.2 hc)
      have hrest : ∀ i slot, ¬ RelatedAt (ClashIn slot) cs ds i := fun i slot hc =>
        h (i + 1) slot (relatedAt_cons_succ.2 hc)
      simp only [joinCredentials, joinSlots_of_not_clash hcd, ih hrest]
      rfl

lemma joinCredentials_of_clash {i : Nat} (h : RelatedAt (fun c d => FirstAt Clash c.sigs d.sigs slot) cs ds i)
    (hbefore : ∀ j < i, ∀ slot, ¬ RelatedAt (ClashIn slot) cs ds j) :
    joinCredentials k cs ds = .error (.conflict (k + i) slot) := by
  induction cs generalizing k ds i with
  | nil => exact absurd h relatedAt_nil_left
  | cons c cs ih =>
    cases ds with
    | nil => exact absurd h relatedAt_nil_right
    | cons d ds =>
      cases i with
      | zero =>
        have hcd := relatedAt_cons_zero.1 h
        simp only [joinCredentials, joinSlots_of_clash hcd, Nat.zero_add, Nat.add_zero]
        rfl
      | succ i =>
        have hcd : ∀ slot, ¬ RelatedAt Clash c.sigs d.sigs slot := fun slot hc =>
          hbefore 0 (Nat.succ_pos i) slot (relatedAt_cons_zero.2 hc)
        have hrest : ∀ j < i, ∀ slot, ¬ RelatedAt (ClashIn slot) cs ds j := fun j hj slot hc =>
          hbefore (j + 1) (Nat.succ_lt_succ hj) slot (relatedAt_cons_succ.2 hc)
        simp only [joinCredentials, joinSlots_of_not_clash hcd, ih (relatedAt_cons_succ.1 h) hrest]
        rw [Nat.add_right_comm, Nat.add_assoc]
        rfl

/-! ### Counting -/

def slotsOf (cs : List Credential) : List Bytes := cs.flatMap (·.sigs)

def gains (as bs : List Bytes) : Nat := (as.zip bs).countP fun (a, b) => a = emptySignature ∧ b ≠ emptySignature

lemma changes_fill (c d : Credential) (hl : c.sigs.length = d.sigs.length) :
    c.changes (c.fill d) = gains c.sigs d.sigs := by
  obtain ⟨e, as⟩ := c
  obtain ⟨e', bs⟩ := d
  simp only [Credential.changes, Credential.fill, gains]
  induction as generalizing bs with
  | nil => rfl
  | cons a as ih =>
    cases bs with
    | nil => cases hl
    | cons b bs =>
      have hb : (a ≠ fillSlot a b) ↔ (a = emptySignature ∧ b ≠ emptySignature) := by
        rw [fillSlot]
        split
        · rename_i ha
          simp [ha, eq_comm]
        · rename_i ha
          simp [ha]
      simp only [List.zipWith_cons_cons, List.zip_cons_cons, List.countP_cons, hb, ih bs (Nat.succ.inj hl)]

lemma changedSlots_fill (hs : cs.map shape = ds.map shape) :
    changedSlots cs (List.zipWith Credential.fill cs ds) = gains (slotsOf cs) (slotsOf ds) := by
  induction cs generalizing ds with
  | nil => rfl
  | cons c cs ih =>
    cases ds with
    | nil => cases hs
    | cons d ds =>
      obtain ⟨hcd, hrest⟩ := List.cons.inj hs
      have hl : c.sigs.length = d.sigs.length := congrArg Prod.snd hcd
      have hz : (slotsOf (c :: cs)).zip (slotsOf (d :: ds)) = c.sigs.zip d.sigs ++ (slotsOf cs).zip (slotsOf ds) :=
        List.zip_append hl
      rw [List.zipWith_cons_cons, changedSlots, changes_fill c d hl, ih hrest, gains, gains, gains, hz, List.countP_append]

end Countersign
