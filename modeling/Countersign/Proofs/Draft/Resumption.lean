import Countersign.Proofs.Draft.Signing

/-! Signing that fails at some slot. What was signed before stays signed, and what is left is what is signed next time,
so it ends as if nothing had failed. -/

namespace Countersign

open Wire Draft Digest

variable {sig : Bytes → Bytes} {slots front back : List (Bytes × Nat)} {tx : SignedTx} {k k' : Signatory} {i : Nat}
  {keys : List Bytes}

namespace SignedTx

def withSigned (sig : Bytes → Bytes) (tx : SignedTx) (slots : List (Bytes × Nat)) : SignedTx :=
  slots.foldl (fun tx x => tx.setTrailing x.2 (sig x.1)) tx

structure Awaits (tx : SignedTx) (slots : List (Bytes × Nat)) : Prop where
  ordered : slots.Pairwise (·.2 < ·.2)
  lacks : ∀ x ∈ slots, tx.lacks x.2 = true

lemma Awaits.next {x : Bytes × Nat} (h : tx.Awaits (x :: slots)) (sig : Bytes → Bytes) :
    (∀ y ∈ slots, x.2 < y.2) ∧ tx.lacks x.2 = true ∧ (tx.setTrailing x.2 (sig x.1)).Awaits slots := by
  obtain ⟨hx, ho⟩ := List.pairwise_cons.1 h.ordered
  refine ⟨hx, h.lacks x List.mem_cons_self, ho, fun y hy => ?_⟩
  rw [lacks_setTrailing (Nat.ne_of_gt (hx y hy))]
  exact h.lacks y (List.mem_cons_of_mem x hy)

lemma Awaits.first (h : tx.Awaits (front ++ back)) : tx.Awaits front where
  ordered := (List.pairwise_append.1 h.ordered).1
  lacks x hx := h.lacks x (List.mem_append_left back hx)

lemma withSigned_append : tx.withSigned sig (front ++ back) = (tx.withSigned sig front).withSigned sig back :=
  List.foldl_append

lemma dropLast_withSigned : (tx.withSigned sig slots).creds.dropLast = tx.creds.dropLast := by
  induction slots generalizing tx with
  | nil => rfl
  | cons x slots ih => exact ih.trans dropLast_setTrailing

lemma exists_toBytes_withSigned (h : ∃ data, tx.toBytes = .ok data) (hs : ∀ key, (sig key).length = signatureSize) :
    ∃ data, (tx.withSigned sig slots).toBytes = .ok data := by
  induction slots generalizing tx with
  | nil => exact h
  | cons x slots ih => exact ih (exists_toBytes_setTrailing h (hs x.1))

lemma grows_withSigned (h : tx.Awaits slots) : tx.Grows (tx.withSigned sig slots) := by
  induction slots generalizing tx with
  | nil => exact .refl tx
  | cons x slots ih =>
    obtain ⟨_, hl, hn⟩ := h.next sig
    exact (Grows.setTrailing hl (sig x.1)).trans (ih hn)

lemma slot_withSigned_of_ne (h : ∀ x ∈ slots, x.2 ≠ i) :
    (tx.withSigned sig slots).trailingSigs[i]? = tx.trailingSigs[i]? := by
  induction slots generalizing tx with
  | nil => rfl
  | cons x slots ih =>
    rw [List.forall_mem_cons] at h
    rw [withSigned, List.foldl_cons, ← withSigned, ih h.2, trailingSigs_setTrailing, List.getElem?_set_ne h.1]

lemma slot_withSigned {x : Bytes × Nat} (h : tx.Awaits slots) (hx : x ∈ slots) :
    (tx.withSigned sig slots).trailingSigs[x.2]? = some (sig x.1) := by
  induction slots generalizing tx with
  | nil => cases hx
  | cons y slots ih =>
    obtain ⟨hlt, hl, hn⟩ := h.next sig
    rw [withSigned, List.foldl_cons, ← withSigned]
    rcases List.mem_cons.1 hx with rfl | hx
    · have hin : x.2 < tx.trailingSigs.length := (List.getElem?_eq_some_iff.1 (of_decide_eq_true hl)).1
      rw [slot_withSigned_of_ne fun y hy => Nat.ne_of_gt (hlt y hy), trailingSigs_setTrailing,
        List.getElem?_set_self hin]
    · exact ih hn hx

lemma lacks_withSigned (hs : ∀ key, sig key ≠ emptySignature) (h : tx.Awaits slots) :
    (tx.withSigned sig slots).lacks i = true ↔ tx.lacks i = true ∧ ∀ x ∈ slots, x.2 ≠ i := by
  rw [lacks, lacks]
  by_cases hx : ∃ x ∈ slots, x.2 = i
  · obtain ⟨x, hx, rfl⟩ := hx
    rw [slot_withSigned h hx]
    exact ⟨fun he => absurd (Option.some.inj (of_decide_eq_true he)) (hs x.1), fun hn => absurd rfl (hn.2 x hx)⟩
  · have hn : ∀ x ∈ slots, x.2 ≠ i := fun x hm he => hx ⟨x, hm, he⟩
    rw [slot_withSigned_of_ne hn]
    exact ⟨fun he => ⟨he, hn⟩, fun he => he.1⟩

end SignedTx

namespace Draft

/-- A slot is signed with a signature that the address and the digest determine, unless the signing of the slot fails,
which leaves it empty. -/
def Signatory.SignsWith (k : Signatory) (base : SignedTx) (sig : Bytes → Bytes → Bytes) (failure : Nat → Option Fault) :
    Prop :=
  ∀ tx slot address digest, base.Grows tx → tx.lacks slot = true → k.holds address = true → tx.digest = .ok digest →
    k.sign tx slot address = match failure slot with
      | some f => ⟨none, some f⟩
      | none => ⟨some (sig address digest), none⟩

namespace Signatory.SignsWith

variable {base : SignedTx} {sig : Bytes → Bytes → Bytes} {digest address : Bytes} {failure : Nat → Option Fault}
  {slot : Nat}

lemma sign (h : k.SignsWith base sig failure) (hd : base.digest = .ok digest) (hg : base.Grows tx)
    (hl : tx.lacks slot = true) (hh : k.holds address = true) (hf : failure slot = none) :
    k.sign tx slot address = ⟨some (sig address digest), none⟩ := by
  rw [h tx slot address digest hg hl hh (hg.digest.trans hd), hf]

lemma fail {f : Fault} (h : k.SignsWith base sig failure) (hd : base.digest = .ok digest) (hg : base.Grows tx)
    (hl : tx.lacks slot = true) (hh : k.holds address = true) (hf : failure slot = some f) :
    k.sign tx slot address = ⟨none, some f⟩ := by
  rw [h tx slot address digest hg hl hh (hg.digest.trans hd), hf]

end Signatory.SignsWith

lemma Signatory.awaits_of_due {n : Nat} (h : k.due tx (keys.zipIdx n) = slots) : tx.Awaits slots := by
  subst h
  refine ⟨?_, fun x hx => (Bool.and_eq_true_iff.1 (List.mem_filter.1 hx).2).1⟩
  have hlt : ((keys.zipIdx n).map Prod.snd).Pairwise (· < ·) := by
    rw [List.zipIdx_map_snd]
    exact List.pairwise_lt_range'
  exact (List.pairwise_map.1 hlt).filter _

lemma Signatory.due_withSigned (hfilled : ∀ key, sig key ≠ emptySignature) (hk : k'.holds = k.holds)
    (h : k.due tx slots = front ++ back) (hu : tx.Awaits (front ++ back)) :
    k'.due (tx.withSigned sig front) slots = back := by
  have hdue : k'.due (tx.withSigned sig front) slots =
      (k.due tx slots).filter fun x => ∀ y ∈ front, y.2 ≠ x.2 := by
    rw [due, due, List.filter_filter]
    refine List.filter_congr fun x _ => ?_
    rw [Bool.eq_iff_iff]
    simp only [Bool.and_eq_true, SignedTx.lacks_withSigned hfilled hu.first, hk, decide_eq_true_eq]
    exact ⟨fun h => ⟨h.1.2, h.1.1, h.2⟩, fun h => ⟨⟨h.2.1, h.1⟩, h.2.2⟩⟩
  rw [hdue, h, List.filter_append, List.filter_eq_nil_iff.2, List.nil_append, List.filter_eq_self]
  · intro x hx
    refine decide_eq_true fun y hy => ?_
    exact Nat.ne_of_lt ((List.pairwise_append.1 hu.ordered).2.2 y hy x hx)
  · intro x hx hn
    exact of_decide_eq_true hn x hx rfl

namespace Session

variable {σ : Type} {d d' : Desk σ} {r : Resolver σ} {base : SignedTx}

def signEach (k : Signatory) : List (Bytes × Nat) → Session σ Unit
  | [] => return ()
  | (key, slot) :: rest => do
    signSlot k slot key
    signEach k rest

lemma runOn_signSlots (k : Signatory) (keys : List Bytes) (slot : Nat) (d : Desk σ) :
    (signSlots k slot keys).runOn d = (signEach k (k.due d.copy.tx (keys.zipIdx slot))).runOn d := by
  induction keys generalizing slot d with
  | nil => rfl
  | cons key keys ih =>
    have hother : ∀ x ∈ keys.zipIdx (slot + 1), x.2 ≠ slot := fun x hx => Nat.ne_of_gt (List.le_snd_of_mem_zipIdx hx)
    rw [runOn_signSlots_cons, List.zipIdx_cons, Signatory.due_cons]
    simp only [Bool.and_eq_true]
    split
    · rw [signEach, runOn_bind, runOn_bind, runOn_signSlot]
      dsimp only
      cases (k.sign d.copy.tx slot key).failure with
      | some f => rfl
      | none =>
        dsimp only
        rw [ih]
        cases (k.sign d.copy.tx slot key).written with
        | none => rfl
        | some sig =>
          dsimp only [Option.map_some, Option.getD_some]
          rw [Signatory.due_setTrailing hother]
    · exact ih (slot + 1) d

lemma runOn_signEach_append (sig : Bytes → Bytes) (back : List (Bytes × Nat)) (hu : d.copy.tx.Awaits front)
    (hs : ∀ tx, d.copy.tx.Grows tx → ∀ x ∈ front, tx.lacks x.2 = true →
      k.sign tx x.2 x.1 = ⟨some (sig x.1), none⟩) :
    ∃ moments, (signEach k (front ++ back)).runOn d =
      (signEach k back).runOn ⟨{ d.copy with tx := d.copy.tx.withSigned sig front }, d.book, d.log ++ moments⟩ := by
  induction front generalizing d with
  | nil => exact ⟨[], by rw [List.append_nil]; rfl⟩
  | cons x front ih =>
    obtain ⟨key, slot⟩ := x
    obtain ⟨_, hl, hn⟩ := hu.next sig
    have hg : d.copy.tx.Grows (d.copy.tx.setTrailing slot (sig key)) := .setTrailing hl (sig key)
    obtain ⟨moments, hrun⟩ := ih (d := ⟨{ d.copy with tx := d.copy.tx.setTrailing slot (sig key) }, d.book,
      d.log ++ [⟨.signing slot key, d.copy⟩]⟩) hn fun tx htx x hx => hs tx (hg.trans htx) x (List.mem_cons_of_mem _ hx)
    refine ⟨⟨.signing slot key, d.copy⟩ :: moments, ?_⟩
    rw [List.cons_append, signEach, runOn_bind, runOn_signSlot, hs _ (.refl _) _ List.mem_cons_self hl]
    dsimp only [Option.map_some, Option.getD_some]
    rw [hrun, List.append_assoc]
    rfl

variable {before : Signers} {o : SignOptions} {s : Option Submitter} {data key : Bytes} {slot : Nat}

lemma mem_missing_of_due (hs : (signers r).runOn d = (.ok before, d')) (h : before.required[slot]? = some key)
    (hl : d.copy.tx.lacks slot = true) : key ∈ before.missing := by
  obtain ⟨_, _, keys, _, _, _, _, hc⟩ := signers_ok hs
  have hkeys : before.required = keys := by rw [← (SignedTx.compare_eq_ok.1 hc).2]
  exact (mem_missing_iff_lacks hc).2 ⟨slot, hkeys ▸ h, hl⟩

lemma runOn_sign_of_signsWith {sig : Bytes → Bytes → Bytes} {digest : Bytes} (hc : d.copy.committed = none)
    (hs : (signers r).runOn d = (.ok before, d')) (ho : o.commitIfReady = false) (hm : key ∈ before.missing)
    (hh : k.holds key = true) (hk : k.SignsWith base sig fun _ => none) (hd : base.digest = .ok digest)
    (hg : base.Grows d'.copy.tx) (hdue : k.due d'.copy.tx before.required.zipIdx = slots)
    (htx : d'.copy.tx.withSigned (sig · digest) slots = tx) (hw : tx.toBytes = .ok data) :
    ∃ ready : Bool, ∃ log, (ready = true ↔ ∀ s ∈ tx.trailingSigs, s ≠ emptySignature) ∧
      (sign r k o s).runOn d = (.ok ⟨ready, false, if ready then Ident.encode (sha256 data) else ""⟩,
        ⟨{ d'.copy with tx }, d'.book, log⟩) := by
  have hu : d'.copy.tx.Awaits slots := Signatory.awaits_of_due hdue
  have hsign (tx : SignedTx) (htx : d'.copy.tx.Grows tx) (x : Bytes × Nat) (hx : x ∈ slots)
      (hl : tx.lacks x.2 = true) : k.sign tx x.2 x.1 = ⟨some (sig x.1 digest), none⟩ := by
    rw [← hdue, Signatory.mem_due] at hx
    exact hk.sign hd (hg.trans htx) hl hx.2.2 rfl
  obtain ⟨moments, hrun⟩ := runOn_signEach_append (sig · digest) [] hu hsign
  rw [List.append_nil, ← hdue, ← runOn_signSlots, hdue, htx] at hrun
  obtain ⟨ready, hready, hend⟩ := runOn_sign_of_signed (s := s) hc hs ho (fun h => h.2.2 key hm hh) hrun
    (htx ▸ SignedTx.grows_withSigned hu) hw
  exact ⟨ready, _, hready, hend⟩

end Session

structure SignedUpTo (k : Signatory) (sig : Bytes → Bytes) (slots : List (Bytes × Nat)) (slot : Nat)
    (tx tx' : SignedTx) : Prop where
  grows : tx.Grows tx'
  funding : tx'.creds.dropLast = tx.creds.dropLast
  signed : ∀ key i, (key, i) ∈ k.due tx slots → i < slot → tx'.trailingSigs[i]? = some (sig key)
  kept : ∀ i, slot ≤ i ∨ (∀ key, (key, i) ∉ k.due tx slots) → tx'.trailingSigs[i]? = tx.trailingSigs[i]?

lemma signedUpTo_withSigned {x : Bytes × Nat} (sig : Bytes → Bytes) (h : k.due tx slots = front ++ x :: back)
    (hu : tx.Awaits (front ++ x :: back)) : SignedUpTo k sig slots x.2 tx (tx.withSigned sig front) := by
  obtain ⟨_, hback, hlt⟩ := List.pairwise_append.1 hu.ordered
  refine ⟨SignedTx.grows_withSigned hu.first, SignedTx.dropLast_withSigned, fun key i hm hi => ?_, fun i hi => ?_⟩
  · rw [h] at hm
    rcases List.mem_append.1 hm with hm | hm
    · exact SignedTx.slot_withSigned hu.first hm
    · rcases List.mem_cons.1 hm with rfl | hm
      · exact absurd hi (Nat.lt_irrefl i)
      · exact absurd hi (Nat.not_lt.2 (Nat.le_of_lt ((List.pairwise_cons.1 hback).1 _ hm)))
  · refine SignedTx.slot_withSigned_of_ne fun y hy he => ?_
    rcases hi with hi | hi
    · exact Nat.not_lt.2 hi (he ▸ hlt y hy x List.mem_cons_self)
    · refine hi y.1 ?_
      rw [h, ← he]
      exact List.mem_append_left _ hy

namespace Session

variable {σ τ : Type} {d d' : Desk σ} {r : Resolver σ} {before : Signers} {digest key : Bytes} {f : Fault} {slot : Nat}
  {sig : Bytes → Bytes → Bytes}

lemma runOn_sign_of_failed {o : SignOptions} {s : Option Submitter} (hc : d.copy.committed = none)
    (hs : (signers r).runOn d = (.ok before, d')) (ho : o.commitIfReady = false)
    (hd : d'.copy.tx.digest = .ok digest)
    (hk : k.SignsWith d'.copy.tx sig fun i => if i = slot then some f else none)
    (hdue : k.due d'.copy.tx before.required.zipIdx = front ++ (key, slot) :: back) :
    ∃ log, (sign r k o s).runOn d =
      (.error f, ⟨{ d'.copy with tx := d'.copy.tx.withSigned (sig · digest) front }, d'.book, log⟩) := by
  have hu : d'.copy.tx.Awaits (front ++ (key, slot) :: back) := Signatory.awaits_of_due hdue
  have hne (x : Bytes × Nat) (hx : x ∈ front) : x.2 ≠ slot :=
    Nat.ne_of_lt ((List.pairwise_append.1 hu.ordered).2.2 x hx _ List.mem_cons_self)
  have hmem (x : Bytes × Nat) (hx : x ∈ front ++ (key, slot) :: back) :
      before.required[x.2]? = some x.1 ∧ d'.copy.tx.lacks x.2 = true ∧ k.holds x.1 = true := by
    rw [← hdue] at hx
    exact Signatory.mem_due.1 hx
  obtain ⟨hreq, hl, hh⟩ := hmem (key, slot) (by simp)
  have hm : key ∈ before.missing := mem_missing_of_due hs hreq ((signers_isQuiet.quiet hs).tx ▸ hl)
  have hsign (tx : SignedTx) (htx : d'.copy.tx.Grows tx) (x : Bytes × Nat) (hx : x ∈ front)
      (hl : tx.lacks x.2 = true) : k.sign tx x.2 x.1 = ⟨some (sig x.1 digest), none⟩ :=
    hk.sign hd htx hl (hmem x (List.mem_append_left _ hx)).2.2 (if_neg (hne x hx))
  have hkept : (d'.copy.tx.withSigned (sig · digest) front).trailingSigs[slot]? = d'.copy.tx.trailingSigs[slot]? :=
    SignedTx.slot_withSigned_of_ne hne
  have hfail : k.sign (d'.copy.tx.withSigned (sig · digest) front) slot key = ⟨none, some f⟩ :=
    hk.fail hd (SignedTx.grows_withSigned hu.first) (decide_eq_true (hkept.trans (of_decide_eq_true hl))) hh
      (if_pos rfl)
  obtain ⟨moments, hrun⟩ := runOn_signEach_append (sig · digest) ((key, slot) :: back) hu.first hsign
  rw [runOn_sign_of_told hc hs ho fun h => h.2.2 key hm hh, runOn_signSlots, hdue, hrun, signEach, runOn_bind,
    runOn_signSlot, hfail]
  exact ⟨_, rfl⟩

lemma sign_rest {later : Desk τ} {r' : Resolver τ} {o₁ o₂ : SignOptions} {s₁ s₂ : Option Submitter}
    (hc : d.copy.committed = none) (hs : (signers r).runOn d = (.ok before, d'))
    (hw : ∃ data, d'.copy.tx.toBytes = .ok data) (hd : d'.copy.tx.digest = .ok digest)
    (hsized : ∀ key, (sig key digest).length = signatureSize) (hfilled : ∀ key, sig key digest ≠ emptySignature)
    (hdue : k.due d'.copy.tx before.required.zipIdx = front ++ (key, slot) :: back) (hholds : k'.holds = k.holds)
    (hk : k'.SignsWith d'.copy.tx sig fun _ => none)
    (hlater : later.copy = { d'.copy with tx := d'.copy.tx.withSigned (sig · digest) front })
    (ho₁ : o₁.commitIfReady = false) (ho₂ : o₂.commitIfReady = false) :
    ∃ y, ((sign r' k' o₁ s₁).runOn later).1 = .ok y ∧ ((sign r k' o₂ s₂).runOn d).1 = .ok y ∧
      ((sign r' k' o₁ s₁).runOn later).2.copy = ((sign r k' o₂ s₂).runOn d).2.copy := by
  have hq := signers_isQuiet.quiet hs
  have hu : d'.copy.tx.Awaits (front ++ (key, slot) :: back) := Signatory.awaits_of_due hdue
  have hslot : (key, slot) ∈ k.due d'.copy.tx before.required.zipIdx := by rw [hdue]; simp
  obtain ⟨hreq, hl, hh⟩ := Signatory.mem_due.1 hslot
  rw [← hholds] at hh
  have hpart := signedUpTo_withSigned (sig · digest) hdue hu
  have htx : later.copy.tx = d'.copy.tx.withSigned (sig · digest) front := by rw [hlater]
  rw [← htx] at hpart
  -- The owner is known, so whoever is asked then, the signers are the same.
  obtain ⟨w, hown, hfor⟩ := signers_known hs
  obtain ⟨after, hafter, hsame, _⟩ := hpart.grows.signersFor hfor
  have hagain : (signers r').runOn later = (.ok after, later) := signers_of_snapshot (hlater ▸ hown) hafter
  have hcommitted : later.copy.committed = none := by
    rw [hlater]
    exact hq.committed.trans hc
  have hm : key ∈ before.missing := mem_missing_of_due hs hreq (hq.tx ▸ hl)
  have hl' : later.copy.tx.lacks slot = true :=
    decide_eq_true ((hpart.kept slot (.inl (Nat.le_refl slot))).trans (of_decide_eq_true hl))
  have hm' : key ∈ after.missing := mem_missing_of_due hagain (hsame ▸ hreq) hl'
  have hall : k'.due d'.copy.tx before.required.zipIdx = front ++ (key, slot) :: back := by
    rw [Signatory.due, hholds]
    exact hdue
  have hrest : k'.due later.copy.tx after.required.zipIdx = (key, slot) :: back := by
    rw [hsame, htx]
    exact Signatory.due_withSigned hfilled hholds hdue hu
  have hend : later.copy.tx.withSigned (sig · digest) ((key, slot) :: back) = _ :=
    htx ▸ SignedTx.withSigned_append.symm
  obtain ⟨data, hdata⟩ : ∃ data,
      (d'.copy.tx.withSigned (sig · digest) (front ++ (key, slot) :: back)).toBytes = .ok data :=
    SignedTx.exists_toBytes_withSigned hw hsized
  obtain ⟨ready₁, _, hready₁, hrun₁⟩ := runOn_sign_of_signsWith (s := s₁) hcommitted hagain ho₁ hm' hh hk hd
    hpart.grows hrest hend hdata
  obtain ⟨ready₂, _, hready₂, hrun₂⟩ := runOn_sign_of_signsWith (s := s₂) hc hs ho₂ hm hh hk hd (.refl _) hall rfl
    hdata
  obtain rfl : ready₁ = ready₂ := Bool.eq_iff_iff.2 (hready₁.trans hready₂.symm)
  rw [hrun₁, hrun₂, hlater]
  exact ⟨_, rfl, rfl, rfl⟩

end Session

open Session

variable {σ : Type} {d d' : Desk σ} {r : Resolver σ} {before : Signers} {o : SignOptions} {data digest key : Bytes}
  {f : Fault} {slot : Nat}

/-- Signing that fails at a slot ends with that failure, and loses nothing: what was due before the slot stays signed.
Signing again, with nothing that fails, ends as signing does that never failed. -/
theorem failed_signing_resumed {sig : Bytes → Bytes → Bytes} (s : Option Submitter) (hc : d.copy.committed = none)
    (hs : (signers r).runOn d = (.ok before, d')) (hw : d.copy.toBytes = .ok data) (ho : o.commitIfReady = false)
    (hd : d.copy.tx.digest = .ok digest) (hsized : ∀ key, (sig key digest).length = signatureSize)
    (hfilled : ∀ key, sig key digest ≠ emptySignature)
    (hk : k.SignsWith d.copy.tx sig fun i => if i = slot then some f else none)
    (hslot : (key, slot) ∈ k.due d.copy.tx before.required.zipIdx) :
    ∃ tx log, (sign r k o s).runOn d = (.error f, ⟨{ d'.copy with tx }, d'.book, log⟩) ∧
      SignedUpTo k (sig · digest) before.required.zipIdx slot d.copy.tx tx ∧
      ∀ k' : Signatory, k'.holds = k.holds → k'.SignsWith d.copy.tx sig (fun _ => none) →
        ∀ {τ : Type} (r' : Resolver τ) (later : Desk τ) (o₁ o₂ : SignOptions) s₁ s₂, later.copy = { d'.copy with tx } →
          o₁.commitIfReady = false → o₂.commitIfReady = false → ∃ y,
            ((sign r' k' o₁ s₁).runOn later).1 = .ok y ∧ ((sign r k' o₂ s₂).runOn d).1 = .ok y ∧
            ((sign r' k' o₁ s₁).runOn later).2.copy = ((sign r k' o₂ s₂).runOn d).2.copy := by
  have hq := signers_isQuiet.quiet hs
  have hw' : ∃ data, d'.copy.tx.toBytes = .ok data := ⟨data, by rw [hq.tx, mapError_eq_ok.1 hw]⟩
  rw [← hq.tx] at hd hk hslot ⊢
  obtain ⟨front, back, hdue⟩ := List.append_of_mem hslot
  obtain ⟨log, hfail⟩ := runOn_sign_of_failed (s := s) hc hs ho hd hk hdue
  refine ⟨_, log, hfail, signedUpTo_withSigned _ hdue (Signatory.awaits_of_due hdue), ?_⟩
  intro k' hholds hk' τ r' later o₁ o₂ s₁ s₂ hlater ho₁ ho₂
  exact sign_rest hc hs hw' hd hsized hfilled hdue hholds hk' hlater ho₁ ho₂

theorem second_founder_resumed :
    let r : Resolver Unit := fun _ b => (.error .noSubmitter, b)
    let sig : Bytes := List.replicate signatureSize 9
    let k : Signatory := ⟨fun _ => true, fun _ slot _ =>
      if slot = 1 then ⟨none, some (.outside .signerFailed)⟩ else ⟨some sig, none⟩⟩
    let k' : Signatory := ⟨fun _ => true, fun _ _ _ => ⟨some sig, none⟩⟩
    let o : SignOptions := ⟨true, false, true⟩
    let m : Draft := .ofTx (chainCreation Ident.empty [0, 1] 2) .standard
    let d : Desk Unit := ⟨{ m with snapshot := some founder }, (), []⟩
    ∃ d₁ y, (sign r k o none).runOn d = (.error (.outside .signerFailed), d₁) ∧
      d₁.copy.tx.trailingSigs[0]? = some sig ∧ d₁.copy.tx.trailingSigs[1]? = some emptySignature ∧
      ((sign r k' o none).runOn d₁).1 = .ok y ∧
      ((sign r k' o none).runOn d₁).2.copy = ((sign r k' o none).runOn d).2.copy := by
  intro r sig k k' o m d
  let keys : List Bytes := [List.replicate 20 160, List.replicate 20 161]
  have hs : (signers r).runOn d = (.ok ⟨keys, keys⟩, d) := signers_of_snapshot rfl (by decide +kernel)
  obtain ⟨data, hw⟩ := exists_eq_ok (by decide +kernel : d.copy.toBytes.toOption.isSome = true)
  obtain ⟨digest, hd⟩ := exists_eq_ok (by decide +kernel : d.copy.tx.digest.toOption.isSome = true)
  have hk : k.SignsWith d.copy.tx (fun _ _ => sig) fun i => if i = 1 then some (.outside .signerFailed) else none := by
    intro tx slot address digest _ _ _ _
    by_cases hslot : slot = 1 <;> simp [k, hslot]
  have hslot : (List.replicate 20 161, 1) ∈ k.due d.copy.tx keys.zipIdx := by decide +kernel
  obtain ⟨tx, log, hfail, hpart, hresume⟩ := failed_signing_resumed none rfl hs hw (o := o) rfl hd
    (fun _ => by decide) (fun _ => by decide) hk hslot
  obtain ⟨y, hy, _, hsame⟩ := hresume k' rfl (fun _ _ _ _ _ _ _ _ => rfl) r
    ⟨{ d.copy with tx }, (), log⟩ o o none none rfl rfl rfl
  refine ⟨_, y, hfail, ?_, ?_, hy, hsame⟩
  · exact hpart.signed (List.replicate 20 160) 0 (by decide +kernel) Nat.zero_lt_one
  · exact (hpart.kept 1 (.inl (Nat.le_refl 1))).trans (by decide +kernel)

end Draft

end Countersign
