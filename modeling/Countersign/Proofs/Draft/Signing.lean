import Countersign.Proofs.Draft.Growth
import Countersign.Proofs.Draft.Precedence
import Countersign.Proofs.Draft.Requests
import Countersign.Proofs.Key.Keyring

namespace Countersign.Draft

open Wire Digest

variable {tx tx' base : SignedTx} {slot : Nat} {sig data : Bytes}

def Signatory.SignsFor (k : Signatory) (base : SignedTx) : Prop :=
  ∀ tx slot address, base.Grows tx → tx.lacks slot = true → k.holds address = true →
    ∃ sig, sig.length = signatureSize ∧ k.sign tx slot address = ⟨some sig, none⟩

def Signatory.due (k : Signatory) (tx : SignedTx) (slots : List (Bytes × Nat)) : List (Bytes × Nat) :=
  slots.filter fun (key, slot) => tx.lacks slot && k.holds key

structure Fills (k : Signatory) (base : SignedTx) (slots : List (Bytes × Nat)) (tx tx' : SignedTx) : Prop where
  grows : tx.Grows tx'
  funding : tx'.creds.dropLast = tx.creds.dropLast
  bytes : ∃ data, tx'.toBytes = .ok data
  written : ∀ key slot, (key, slot) ∈ k.due tx slots → ∃ at' sig, base.Grows at' ∧ sig.length = signatureSize ∧
    k.sign at' slot key = ⟨some sig, none⟩ ∧ tx'.trailingSigs[slot]? = some sig
  kept : ∀ slot, (∀ key, (key, slot) ∉ k.due tx slots) → tx'.trailingSigs[slot]? = tx.trailingSigs[slot]?

variable {k : Signatory} {key : Bytes} {keys : List Bytes} {slots : List (Bytes × Nat)}

lemma Signatory.due_cons : k.due tx ((key, slot) :: slots) =
    if tx.lacks slot = true ∧ k.holds key = true then (key, slot) :: k.due tx slots else k.due tx slots := by
  simp only [due, List.filter_cons, Bool.and_eq_true]

lemma Signatory.due_setTrailing (h : ∀ x ∈ slots, x.2 ≠ slot) :
    k.due (tx.setTrailing slot sig) slots = k.due tx slots := by
  refine List.filter_congr fun (key, i) hx => ?_
  dsimp only
  rw [SignedTx.lacks_setTrailing (h _ hx)]

namespace Fills

lemma nil (h : ∃ data, tx.toBytes = .ok data) : Fills k base [] tx tx where
  grows := .refl tx
  funding := rfl
  bytes := h
  written := nofun
  kept _ _ := rfl

lemma skip (h : Fills k base slots tx tx') (hn : ¬ (tx.lacks slot = true ∧ k.holds key = true)) :
    Fills k base ((key, slot) :: slots) tx tx' where
  grows := h.grows
  funding := h.funding
  bytes := h.bytes
  written := by
    rw [Signatory.due_cons, if_neg hn]
    exact h.written
  kept := by
    rw [Signatory.due_cons, if_neg hn]
    exact h.kept

lemma sign (h : Fills k base slots (tx.setTrailing slot sig) tx') (hg : base.Grows tx) (hl : tx.lacks slot = true)
    (hk : k.holds key = true) (hs : sig.length = signatureSize) (hw : k.sign tx slot key = ⟨some sig, none⟩)
    (hother : ∀ x ∈ slots, x.2 ≠ slot) : Fills k base ((key, slot) :: slots) tx tx' where
  grows := (SignedTx.Grows.setTrailing hl sig).trans h.grows
  funding := h.funding.trans SignedTx.dropLast_setTrailing
  bytes := h.bytes
  written := by
    have hslot : tx'.trailingSigs[slot]? = some sig := by
      have hlt : slot < tx.trailingSigs.length := (List.getElem?_eq_some_iff.1 (of_decide_eq_true hl)).1
      rw [h.kept slot fun key hm => hother _ (List.mem_of_mem_filter hm) rfl, SignedTx.trailingSigs_setTrailing,
        List.getElem?_set_self hlt]
    have hdue : k.due (tx.setTrailing slot sig) slots = k.due tx slots := Signatory.due_setTrailing hother
    rw [Signatory.due_cons, if_pos ⟨hl, hk⟩, ← hdue]
    intro key' slot' hm
    rcases List.mem_cons.1 hm with he | hm
    · cases he
      exact ⟨tx, sig, hg, hs, hw, hslot⟩
    · exact h.written key' slot' hm
  kept := by
    have hdue : k.due (tx.setTrailing slot sig) slots = k.due tx slots := Signatory.due_setTrailing hother
    rw [Signatory.due_cons, if_pos ⟨hl, hk⟩, ← hdue]
    intro slot' hn
    have hne : slot ≠ slot' := by
      rintro rfl
      exact hn key List.mem_cons_self
    rw [h.kept slot' fun key hm => hn key (List.mem_cons_of_mem _ hm), SignedTx.trailingSigs_setTrailing,
      List.getElem?_set_ne hne]

end Fills

namespace Session

variable {σ : Type} {d d' : Desk σ} {r : Resolver σ}

lemma signSlots_fills (hk : k.SignsFor base) (keys : List Bytes) (slot : Nat) (d : Desk σ) (hg : base.Grows d.copy.tx)
    (hw : ∃ data, d.copy.tx.toBytes = .ok data) :
    ∃ tx moments, (signSlots k slot keys).runOn d =
        (.ok (), ⟨{ d.copy with tx }, d.book, d.log ++ moments⟩) ∧
      moments.map (·.event) = (k.due d.copy.tx (keys.zipIdx slot)).map (fun (key, slot) => .signing slot key) ∧
      Fills k base (keys.zipIdx slot) d.copy.tx tx := by
  -- The transaction is another one after each slot, but the slots that are still to come are as they were.
  induction keys generalizing slot d with
  | nil =>
    refine ⟨d.copy.tx, [], ?_, rfl, .nil hw⟩
    rw [List.append_nil]
    rfl
  | cons key keys ih =>
    rw [runOn_signSlots_cons, List.zipIdx_cons, Signatory.due_cons]
    simp only [Bool.and_eq_true]
    split
    · rename_i h
      obtain ⟨hl, hh⟩ := h
      obtain ⟨sig, hs, hsign⟩ := hk _ slot key hg hl hh
      have hother : ∀ x ∈ keys.zipIdx (slot + 1), x.2 ≠ slot := fun x hx =>
        Nat.ne_of_gt (List.le_snd_of_mem_zipIdx hx)
      rw [runOn_bind, runOn_signSlot, hsign]
      dsimp only [Option.map_some, Option.getD_some]
      obtain ⟨tx, moments, hr, hm, hf⟩ := ih (slot + 1) { d with
        copy := { d.copy with tx := d.copy.tx.setTrailing slot sig }
        log := d.log ++ [⟨.signing slot key, d.copy⟩] } (hg.trans (.setTrailing hl sig))
        (SignedTx.exists_toBytes_setTrailing hw hs)
      refine ⟨tx, ⟨.signing slot key, d.copy⟩ :: moments, ?_, ?_, hf.sign hg hl hh hs hsign hother⟩
      · rw [hr, List.append_assoc]
        rfl
      · rw [List.map_cons, List.map_cons, hm, Signatory.due_setTrailing hother]
    · rename_i hn
      obtain ⟨tx, moments, hr, hm, hf⟩ := ih (slot + 1) d hg hw
      exact ⟨tx, moments, hr, hm, hf.skip hn⟩

inductive Signs (k : Signatory) (checkFirst : Bool) (before : Signers) (d : Desk σ) :
    Except Fault SignResult → Desk σ → Prop
  | refused (hf : checkFirst = true) (hm : before.missing ≠ []) (hk : ∀ key ∈ before.missing, ¬ k.holds key = true) :
      Signs k checkFirst before d (.error (.noSigner before.missing.length)) d
  | signed {tx : SignedTx} {moments : List Moment} {data : Bytes} {ready : Bool}
      (hn : ¬ (checkFirst = true ∧ before.missing ≠ [] ∧ ∀ key ∈ before.missing, ¬ k.holds key = true))
      (calls : moments.map (·.event) =
        (k.due d.copy.tx before.required.zipIdx).map fun (key, slot) => .signing slot key)
      (fills : Fills k d.copy.tx before.required.zipIdx d.copy.tx tx) (hw : tx.toBytes = .ok data)
      (hr : ready = true ↔ ∀ sig ∈ tx.trailingSigs, sig ≠ emptySignature) :
      Signs k checkFirst before d
        (.ok ⟨ready, false, if ready then Ident.encode (sha256 data) else ""⟩)
        ⟨{ d.copy with tx }, d.book, d.log ++ moments⟩

variable {before : Signers} {o : SignOptions} {s : Option Submitter}

lemma refuses_iff {checkFirst : Bool} :
    (checkFirst && !before.missing.isEmpty && !before.missing.any k.holds) = true ↔
      checkFirst = true ∧ before.missing ≠ [] ∧ ∀ key ∈ before.missing, ¬ k.holds key = true := by
  simp [and_assoc]

lemma runOn_sign_of_told (hc : d.copy.committed = none) (hs : (signers r).runOn d = (.ok before, d'))
    (ho : o.commitIfReady = false)
    (hn : ¬ (o.checkFirst = true ∧ before.missing ≠ [] ∧ ∀ key ∈ before.missing, ¬ k.holds key = true)) :
    (sign r k o s).runOn d =
      match (signSlots k 0 before.required).runOn d' with
      | (.error f, d') => (.error f, d')
      | (.ok _, d') =>
        match (signers r).runOn d' with
        | (.error f, d') => (.error f, d')
        | (.ok after, d') =>
          if after.missing.isEmpty then (finish r o s).runOn d' else (.ok ⟨false, false, ""⟩, d') := by
  obtain ⟨_, positions, _, _, _, ha, _⟩ := signers_ok hs
  rw [runOn_sign r k o s hc, ho, if_neg (by simp), if_pos (SignedTx.needsAuthorization_of_authorization ha), hs]
  exact if_neg (mt refuses_iff.1 hn)

lemma runOn_sign_of_signed {log : List Moment} (hc : d.copy.committed = none)
    (hs : (signers r).runOn d = (.ok before, d')) (ho : o.commitIfReady = false)
    (hn : ¬ (o.checkFirst = true ∧ before.missing ≠ [] ∧ ∀ key ∈ before.missing, ¬ k.holds key = true))
    (hrun : (signSlots k 0 before.required).runOn d' = (.ok (), ⟨{ d'.copy with tx }, d'.book, log⟩))
    (hg : d'.copy.tx.Grows tx) (hw : tx.toBytes = .ok data) :
    ∃ ready : Bool, (ready = true ↔ ∀ sig ∈ tx.trailingSigs, sig ≠ emptySignature) ∧
      (sign r k o s).runOn d = (.ok ⟨ready, false, if ready then Ident.encode (sha256 data) else ""⟩,
        ⟨{ d'.copy with tx }, d'.book, log⟩) := by
  obtain ⟨w, hown, hfor⟩ := signers_known hs
  -- The owner is known by now, so those who are missing are told from the slots alone.
  obtain ⟨after, hafter, hreq, hsub⟩ := hg.signersFor hfor
  have hagain : (signers r).runOn ⟨{ d'.copy with tx }, d'.book, log⟩ = (.ok after, _) :=
    signers_of_snapshot hown hafter
  obtain ⟨_, _, _, _, _, _, _, hcompare⟩ := SignedTx.signersFor_eq_ok.1 hafter
  refine ⟨after.missing.isEmpty, by rw [List.isEmpty_iff, SignedTx.missing_eq_nil hcompare], ?_⟩
  rw [runOn_sign_of_told hc hs ho hn, hrun]
  dsimp only
  rw [hagain]
  dsimp only
  cases after.missing.isEmpty with
  | true =>
    have hid : (tx.idText.mapError Fault.wire) = .ok _ := mapError_eq_ok.2 (SignedTx.idText_eq_ok hw)
    rw [if_pos rfl, runOn_finish, ho]
    dsimp only
    rw [hid]
    rfl
  | false => rfl

lemma sign_signs (hc : d.copy.committed = none)
    (hs : (signers r).runOn d = (.ok before, d')) (hw : ∃ data, d'.copy.tx.toBytes = .ok data)
    (ho : o.commitIfReady = false) (hk : k.SignsFor d'.copy.tx) :
    Signs k o.checkFirst before d' ((sign r k o s).runOn d).1 ((sign r k o s).runOn d).2 := by
  by_cases h : o.checkFirst = true ∧ before.missing ≠ [] ∧ ∀ key ∈ before.missing, ¬ k.holds key = true
  · obtain ⟨_, positions, _, _, _, ha, _⟩ := signers_ok hs
    rw [runOn_sign r k o s hc, ho, if_neg (by simp), if_pos (SignedTx.needsAuthorization_of_authorization ha), hs]
    dsimp only
    rw [if_pos (refuses_iff.2 h)]
    exact .refused h.1 h.2.1 h.2.2
  · obtain ⟨tx, moments, hrun, hcalls, hfills⟩ := signSlots_fills hk before.required 0 d' (.refl _) hw
    obtain ⟨data, hdata⟩ := hfills.bytes
    obtain ⟨ready, hready, hsign⟩ := runOn_sign_of_signed (s := s) hc hs ho h hrun hfills.grows hdata
    rw [hsign]
    exact .signed h hcalls hfills hdata hready

end Session

lemma Signatory.ofKeyring_sign {ring : Keyring} {seed : Nat → Bytes} :
    (Signatory.ofKeyring ring seed).sign tx slot key = ⟨some sig, none⟩ ↔
      ring.signature (seed slot) tx slot key = .ok sig := by
  rw [Signatory.ofKeyring]
  dsimp only
  cases ring.signature (seed slot) tx slot key <;> simp [Signing.ofResult, Except.mapError]

lemma Signatory.ofKeyring_signsFor {ring : Keyring} {seed : Nat → Bytes} {digest : Bytes}
    (hd : base.digest = .ok digest) (hu : ∀ key ∈ ring.keys, ∀ slot, ∃ g, key.sign (seed slot) digest = .ok g) :
    (Signatory.ofKeyring ring seed).SignsFor base := by
  intro tx slot address hg hl hh
  obtain ⟨key, hkey⟩ := Option.isSome_iff_exists.1 hh
  obtain ⟨g, hsign⟩ := hu key (List.mem_of_find?_eq_some hkey) slot
  have hlt : slot < tx.trailingSigs.length := (List.getElem?_eq_some_iff.1 (of_decide_eq_true hl)).1
  rw [SignedTx.trailingSigs] at hlt
  cases ht : tx.trailing? with
  | none =>
    rw [ht] at hlt
    cases hlt
  | some cred =>
    rw [ht] at hlt
    refine ⟨g.toBytes, (PrivateKey.toBytes_of_sign hsign).1, ofKeyring_sign.2 ?_⟩
    exact Keyring.signature_eq_ok.2 ⟨key, cred, digest, g, hkey, ht, hlt, hg.digest.trans hd, hsign, rfl⟩

lemma Signatory.mem_due : (key, slot) ∈ k.due tx keys.zipIdx ↔
    keys[slot]? = some key ∧ tx.lacks slot = true ∧ k.holds key = true := by
  rw [due, List.mem_filter, List.mk_mem_zipIdx_iff_getElem?, Bool.and_eq_true]

lemma mem_missing_iff_lacks {s : Signers} (h : tx.compare keys = .ok s) :
    key ∈ s.missing ↔ ∃ slot, keys[slot]? = some key ∧ tx.lacks slot = true := by
  simp only [SignedTx.mem_missing h, List.mem_iff_getElem?, List.getElem?_zip_eq_some, SignedTx.lacks,
    decide_eq_true_eq]

lemma Fills.filled_iff {before : Signers} (h : Fills k tx keys.zipIdx tx tx') (hc : tx.compare keys = .ok before)
    (hne : ∀ key slot, (key, slot) ∈ k.due tx keys.zipIdx → tx'.trailingSigs[slot]? ≠ some emptySignature) :
    (∀ sig ∈ tx'.trailingSigs, sig ≠ emptySignature) ↔ ∀ key ∈ before.missing, k.holds key = true := by
  constructor
  · intro hf key hm
    obtain ⟨slot, hkey, hl⟩ := (mem_missing_iff_lacks hc).1 hm
    by_contra hh
    have hkept : tx'.trailingSigs[slot]? = tx.trailingSigs[slot]? := by
      refine h.kept slot fun key' hdue => ?_
      obtain ⟨hkey', _, hh'⟩ := Signatory.mem_due.1 hdue
      rw [hkey] at hkey'
      cases hkey'
      exact hh hh'
    exact hf _ (List.mem_of_getElem? (hkept.trans (of_decide_eq_true hl))) rfl
  · rintro hh sig hm rfl
    obtain ⟨slot, hslot⟩ := List.mem_iff_getElem?.1 hm
    by_cases hdue : ∃ key, (key, slot) ∈ k.due tx keys.zipIdx
    · obtain ⟨key, hdue⟩ := hdue
      exact hne key slot hdue hslot
    · rw [h.kept slot fun key hm => hdue ⟨key, hm⟩] at hslot
      have hlt : slot < keys.length := (SignedTx.compare_eq_ok.1 hc).1 ▸ (List.getElem?_eq_some_iff.1 hslot).1
      have hkey := List.getElem?_eq_getElem hlt
      have hl : tx.lacks slot = true := decide_eq_true hslot
      exact hdue ⟨_, Signatory.mem_due.2 ⟨hkey, hl, hh _ ((mem_missing_iff_lacks hc).2 ⟨slot, hkey, hl⟩)⟩⟩

open Session

variable {σ : Type} {d d' : Desk σ} {r : Resolver σ} {before : Signers} {o : SignOptions}

/-- Of a transaction whose signers are known, the empty slots are signed that a signatory can sign for, and nothing else
is changed. Keys that can sign the digest fail for no slot, and no signature of theirs leaves a slot empty. -/
theorem signing_exact (s : Option Submitter) (hc : d.copy.committed = none)
    (hs : (signers r).runOn d = (.ok before, d')) (hw : d.copy.toBytes = .ok data) (ho : o.commitIfReady = false) :
    d.Quiet d' ∧
    (∀ k : Signatory, k.SignsFor d.copy.tx →
      Signs k o.checkFirst before d' ((sign r k o s).runOn d).1 ((sign r k o s).runOn d).2) ∧
    ∀ (ring : Keyring) (seed : Nat → Bytes) digest, d.copy.tx.digest = .ok digest →
      (∀ key ∈ ring.keys, ∀ slot, ∃ g, key.sign (seed slot) digest = .ok g) →
      let k := Signatory.ofKeyring ring seed
      k.SignsFor d.copy.tx ∧ ∀ x d'', (sign r k o s).runOn d = (.ok x, d'') →
        (∀ address slot, (address, slot) ∈ k.due d.copy.tx before.required.zipIdx → ∃ key g,
          ring.get? address = some key ∧ key.sign (seed slot) digest = .ok g ∧ g.toBytes ≠ emptySignature ∧
          d''.copy.tx.trailingSigs[slot]? = some g.toBytes) ∧
        (x.ready = true ↔ ∀ address ∈ before.missing, ring.holds address = true) := by
  have hq := signers_isQuiet.quiet hs
  have hw' : ∃ data, d'.copy.tx.toBytes = .ok data := ⟨data, by rw [hq.tx, mapError_eq_ok.1 hw]⟩
  have hsigns (k : Signatory) (hk : k.SignsFor d.copy.tx) :
      Signs k o.checkFirst before d' ((sign r k o s).runOn d).1 ((sign r k o s).runOn d).2 := by
    rw [← hq.tx] at hk
    exact sign_signs hc hs hw' ho hk
  refine ⟨hq, hsigns, ?_⟩
  intro ring seed digest hd hu k
  have hk : k.SignsFor d.copy.tx := Signatory.ofKeyring_signsFor hd hu
  refine ⟨hk, fun x d'' hx => ?_⟩
  have hp := hsigns k hk
  rw [hx] at hp
  cases hp with
  | @signed tx moments data ready hn calls fills hdata hr =>
    obtain ⟨_, _, keys, _, _, _, _, hcompare⟩ := signers_ok hs
    have hkeys : before.required = keys := by rw [← (SignedTx.compare_eq_ok.1 hcompare).2]
    rw [hq.tx, hkeys] at fills
    rw [hkeys]
    have hfilled (address : Bytes) (slot : Nat) (hm : (address, slot) ∈ k.due d.copy.tx keys.zipIdx) : ∃ key g,
        ring.get? address = some key ∧ key.sign (seed slot) digest = .ok g ∧ g.toBytes ≠ emptySignature ∧
        tx.trailingSigs[slot]? = some g.toBytes := by
      obtain ⟨at', sig, hg, _, hsign, hslot⟩ := fills.written address slot hm
      obtain ⟨key, _, digest', g, hkey, _, _, hd', hsign, rfl⟩ :=
        Keyring.signature_eq_ok.1 (Signatory.ofKeyring_sign.1 hsign)
      obtain rfl := Except.ok.inj (hd.symm.trans (hg.digest.symm.trans hd'))
      exact ⟨key, g, hkey, hsign, (PrivateKey.toBytes_of_sign hsign).2, hslot⟩
    refine ⟨hfilled, hr.trans (fills.filled_iff hcompare fun address slot hm he => ?_)⟩
    obtain ⟨_, g, _, _, hne, hslot⟩ := hfilled address slot hm
    exact hne (Option.some.inj (hslot.symm.trans he))

theorem founder_signs :
    let k : Signatory := ⟨(· == List.replicate 20 160), fun _ _ _ => ⟨some (List.replicate signatureSize 9), none⟩⟩
    let m : Draft := .ofTx (chainCreation Ident.empty [0, 1] 2) .standard
    let d : Desk Unit := ⟨{ m with snapshot := some founder }, (), []⟩
    ∃ d', (sign (fun _ b => (.error .noSubmitter, b)) k ⟨true, false, true⟩ none).runOn d =
        (.ok ⟨false, false, ""⟩, d') ∧
      d'.copy.tx.trailingSigs[0]? = some (List.replicate signatureSize 9) ∧
      d'.copy.tx.trailingSigs[1]? = some emptySignature := by
  intro k m d
  let keys : List Bytes := [List.replicate 20 160, List.replicate 20 161]
  have hs : (signers fun _ b => (.error .noSubmitter, b)).runOn d = (.ok ⟨keys, keys⟩, d) :=
    signers_of_snapshot rfl (by decide +kernel)
  obtain ⟨data, hw⟩ := exists_eq_ok (by decide +kernel : d.copy.toBytes.toOption.isSome = true)
  have hk : k.SignsFor d.copy.tx := fun _ _ _ _ _ _ => ⟨_, by decide, rfl⟩
  obtain ⟨_, hp, _⟩ := signing_exact none rfl hs hw (o := ⟨true, false, true⟩) rfl
  have hp := hp k hk
  generalize (sign (fun _ b => (.error .noSubmitter, b)) k ⟨true, false, true⟩ none).runOn d = p at hp ⊢
  obtain ⟨x, d'⟩ := p
  dsimp only at hp
  cases hp with
  | refused hf hm hno => exact absurd (by decide +kernel) (hno (List.replicate 20 160) (by decide +kernel))
  | @signed tx moments data ready hn calls fills hdata hr =>
    obtain ⟨_, sig, _, _, hsign, hslot⟩ := fills.written (List.replicate 20 160) 0 (by decide +kernel)
    cases hsign
    have hkept : tx.trailingSigs[1]? = some emptySignature := by
      refine (fills.kept 1 fun key hm => ?_).trans (by decide +kernel)
      obtain ⟨hkey, _, hh⟩ := Signatory.mem_due.1 hm
      cases hkey
      exact absurd hh (by decide)
    have hready : ready = false := by
      rw [Bool.eq_false_iff, Ne, hr]
      exact fun h => h _ (List.mem_of_getElem? hkept) rfl
    subst hready
    exact ⟨_, rfl, hslot, hkept⟩

end Countersign.Draft
