import Countersign.Proofs.Draft.Phase

/-! What is wrong with a copy is found out in a fixed order: who pays, the owner, the control keys, the slots. The
owner is asked for only if those who pay have signed, and whatever is asked about the signers fails in the same way. -/

namespace Countersign

open Draft

lemma exists_first {α : Type} {P : α → Prop} {as : List α} (h : ¬ ∀ a ∈ as, P a) :
    ∃ before a after, as = before ++ a :: after ∧ (∀ b ∈ before, P b) ∧ ¬ P a := by
  induction as with
  | nil => exact absurd nofun h
  | cons a as ih =>
    by_cases ha : P a
    · rw [List.forall_mem_cons, not_and] at h
      obtain ⟨before, b, after, rfl, hb, hp⟩ := ih (h ha)
      exact ⟨a :: before, b, after, rfl, List.forall_mem_cons.2 ⟨ha, hb⟩, hp⟩
    · exact ⟨[], a, as, rfl, nofun, ha⟩

variable {positions : List Int} {keys : List Bytes} {o : Ownership} {tx : SignedTx}

def Draft.FirstOutside (o : Ownership) (positions : List Int) (p : Int) : Prop :=
  ∃ before after, positions = before ++ p :: after ∧ (∀ q ∈ before, q < o.controlKeys.length) ∧
    ¬ p < o.controlKeys.length

lemma Draft.keysAt_of_firstOutside {p : Int} (h0 : ∀ q ∈ positions, 0 ≤ q) (h : FirstOutside o positions p) :
    keysAt o positions = .error (.corrupt (.noControlKey p o.controlKeys.length)) := by
  obtain ⟨before, after, rfl, hb, hp⟩ := h
  induction before with
  | nil =>
    have hn : ¬ p.toNat < o.controlKeys.length := by omega
    rw [List.nil_append, keysAt, position?_of_nonneg (h0 p (by simp)), if_neg hn]
    rfl
  | cons q before ih =>
    rw [List.forall_mem_cons] at hb
    rw [List.cons_append, List.forall_mem_cons] at h0
    have hq : q.toNat < o.controlKeys.length := by omega
    have hk := List.getElem?_eq_getElem hq
    rw [List.cons_append, keysAt, position?_of_nonneg h0.1, if_pos hq, Option.bind_some, hk, ih h0.2 hb.2]
    rfl

lemma map_fst_filter_zip {sigs all : List Bytes} {k : Nat} (hl : sigs.length = keys.length) (ha : all.drop k = sigs) :
    ((keys.zip sigs).filter fun (_, sig) => sig = emptySignature).map (·.1) =
      ((keys.zipIdx k).filter fun (_, i) => all[i]? = some emptySignature).map (·.1) := by
  induction keys generalizing sigs k with
  | nil => rfl
  | cons key keys ih =>
    cases sigs with
    | nil => cases hl
    | cons sig sigs =>
      have hk : all[k]? = some sig := by
        rw [← List.head?_drop, ha]
        rfl
      have hd : all.drop (k + 1) = sigs := by
        rw [← List.tail_drop, ha]
        rfl
      have ih := ih (Nat.succ.inj hl) hd
      rw [List.zip_cons_cons, List.zipIdx_cons, List.filter_cons, List.filter_cons]
      by_cases hs : sig = emptySignature <;> simp [hk, hs, ih]

namespace SignedTx

def IsFunded (tx : SignedTx) : Prop := 2 ≤ tx.creds.length ∧ ∀ c ∈ tx.creds.dropLast, c.isFilled = true

def FirstUnfunded (tx : SignedTx) (i : Nat) : Prop :=
  ∃ before c after, tx.creds.dropLast = before ++ c :: after ∧ before.length = i ∧
    (∀ b ∈ before, b.isFilled = true) ∧ ¬ c.isFilled = true

lemma funding_cases (tx : SignedTx) :
    tx.creds.length < 2 ∨ (2 ≤ tx.creds.length ∧ ∃ i, tx.FirstUnfunded i) ∨ tx.IsFunded := by
  by_cases h2 : 2 ≤ tx.creds.length
  · by_cases hf : ∀ c ∈ tx.creds.dropLast, c.isFilled = true
    · exact .inr (.inr ⟨h2, hf⟩)
    · obtain ⟨before, c, after, he, hb⟩ := exists_first hf
      exact .inr (.inl ⟨h2, _, before, c, after, he, rfl, hb⟩)
  · exact .inl (Nat.not_le.1 h2)

lemma checkFunding_of_firstUnfunded {i : Nat} (h2 : 2 ≤ tx.creds.length) (h : tx.FirstUnfunded i) :
    tx.checkFunding = .error (.malformed (.unfunded i)) := by
  obtain ⟨before, c, after, he, rfl, hb, hc⟩ := h
  rw [checkFunding, if_neg (Nat.not_lt.2 h2), he, List.zipIdx_append, List.find?_append, List.find?_eq_none.2,
    Option.none_or, List.zipIdx_cons, List.find?_cons_of_pos (by simp [hc]), Nat.zero_add]
  rintro ⟨b, j⟩ hm
  simp [hb b (List.fst_mem_of_mem_zipIdx hm)]

lemma head?_missingFees {i : Nat} (hn : tx.needsAuthorization = true) (h : tx.FirstUnfunded i) :
    ∃ slot, tx.missingFees.head? = some (i, slot) := by
  obtain ⟨before, c, after, he, rfl, hb, hc⟩ := h
  obtain ⟨slot, rest, hs⟩ := List.exists_cons_of_ne_nil (mt Credential.emptySlots_eq_nil.1 hc)
  refine ⟨slot, ?_⟩
  rw [missingFees, funding, if_pos hn, he, List.zipIdx_append, List.flatMap_append, List.flatMap_eq_nil_iff.2,
    List.nil_append, List.zipIdx_cons, List.flatMap_cons, Nat.zero_add]
  · dsimp only
    rw [hs]
    rfl
  · rintro ⟨b, j⟩ hm
    simp [Credential.emptySlots_eq_nil.2 (hb b (List.fst_mem_of_mem_zipIdx hm))]

lemma compare_of_ne (h : tx.trailingSigs.length ≠ keys.length) :
    tx.compare keys = .error (.corrupt (.slotCount tx.trailingSigs.length keys.length)) := if_neg h

def awaited (tx : SignedTx) (keys : List Bytes) : List Bytes := (keys.zipIdx.filter fun (_, i) => tx.lacks i).map (·.1)

lemma compare_of_eq (h : tx.trailingSigs.length = keys.length) : tx.compare keys = .ok ⟨keys, tx.awaited keys⟩ := by
  rw [compare_eq_ok, map_fst_filter_zip h List.drop_zero]
  exact ⟨h, rfl⟩

end SignedTx

namespace Draft.Session

variable {σ : Type} {r : Resolver σ} {d d' : Desk σ} {subnet : Bytes} {x : Except Fault Signers}

def lookUp (r : Resolver σ) (subnet : Bytes) (d : Desk σ) : Except Fault Ownership × Desk σ :=
  match d.copy.snapshot with
  | some o => (.ok o, d)
  | none =>
    match r subnet d.book with
    | (.error f, book) => (.error f, { d with book })
    | (.ok o, book) => (.ok o, { d with copy := { d.copy with snapshot := some o }, book })

lemma runOn_owners_of_sized (hi : d.copy.tx.subnetId? = some subnet) (hl : subnet.length = Ident.size) :
    (owners r).runOn d = lookUp r subnet d := by
  have hid : Ident.sized subnet = .ok subnet := if_pos hl
  rw [runOn_owners, lookUp, hi]
  cases d.copy.snapshot with
  | some o => rfl
  | none =>
    dsimp only
    rcases r subnet d.book with ⟨f | o, book⟩
    · rfl
    · dsimp only
      rw [hid]
      rfl

/-- What is found out about the signers of a transaction that control keys at some positions authorize. Every rule says
that none of the rules before it applies. -/
inductive Decides (r : Resolver σ) (positions : List Int) (subnet : Bytes) (d : Desk σ) :
    Except Fault Signers → Desk σ → Prop
  | tooFew (h : d.copy.tx.creds.length < 2) :
      Decides r positions subnet d (.error (.malformed (.tooFewCredentials d.copy.tx.creds.length))) d
  | unfunded {i : Nat} (h : 2 ≤ d.copy.tx.creds.length) (hi : d.copy.tx.FirstUnfunded i) :
      Decides r positions subnet d (.error (.malformed (.unfunded i))) d
  | unknown {f : Fault} {d' : Desk σ} (h : d.copy.tx.IsFunded) (ho : lookUp r subnet d = (.error f, d')) :
      Decides r positions subnet d (.error f) d'
  | outside {o : Ownership} {d' : Desk σ} {p : Int} (h : d.copy.tx.IsFunded) (ho : lookUp r subnet d = (.ok o, d'))
      (hp : FirstOutside o positions p) :
      Decides r positions subnet d (.error (.corrupt (.noControlKey p o.controlKeys.length))) d'
  | slots {o : Ownership} {d' : Desk σ} (h : d.copy.tx.IsFunded) (ho : lookUp r subnet d = (.ok o, d'))
      (hp : ∀ p ∈ positions, p < o.controlKeys.length) (hs : d.copy.tx.trailingSigs.length ≠ positions.length) :
      Decides r positions subnet d
        (.error (.corrupt (.slotCount d.copy.tx.trailingSigs.length positions.length))) d'
  | told {o : Ownership} {d' : Desk σ} {s : Signers} (h : d.copy.tx.IsFunded) (ho : lookUp r subnet d = (.ok o, d'))
      (hs : d.copy.tx.trailingSigs.length = positions.length)
      (hr : positions.map (o.controlKeys[·.toNat]?) = s.required.map some)
      (hm : s.missing = d.copy.tx.awaited s.required) :
      Decides r positions subnet d (.ok s) d'

lemma exists_decides (h0 : ∀ p ∈ positions, 0 ≤ p) (r : Resolver σ) (subnet : Bytes) (d : Desk σ) :
    ∃ x d', Decides r positions subnet d x d' := by
  rcases d.copy.tx.funding_cases with h | ⟨h2, i, hi⟩ | hf
  · exact ⟨_, d, .tooFew h⟩
  · exact ⟨_, d, .unfunded h2 hi⟩
  · rcases ho : lookUp r subnet d with ⟨f | o, d'⟩
    · exact ⟨_, d', .unknown hf ho⟩
    · by_cases hp : ∀ p ∈ positions, p < o.controlKeys.length
      · by_cases hs : d.copy.tx.trailingSigs.length = positions.length
        · obtain ⟨keys, hk⟩ := exists_keysAt h0 hp
          exact ⟨.ok ⟨keys, d.copy.tx.awaited keys⟩, d', .told hf ho hs ((keysAt_eq_ok h0).1 hk) rfl⟩
        · exact ⟨_, d', .slots hf ho hp hs⟩
      · obtain ⟨before, p, after, hp⟩ := exists_first hp
        exact ⟨_, d', .outside hf ho ⟨before, after, hp⟩⟩

lemma Decides.runOn (h : Decides r positions subnet d x d') (ha : d.copy.tx.authorization = .ok positions)
    (h0 : ∀ p ∈ positions, 0 ≤ p) (hi : d.copy.tx.subnetId? = some subnet) (hl : subnet.length = Ident.size) :
    (signers r).runOn d = (x, d') := by
  rw [runOn_signers, ha, runOn_owners_of_sized hi hl]
  cases h with
  | tooFew h => rw [SignedTx.checkFunding, if_pos h]
  | unfunded h hf => rw [SignedTx.checkFunding_of_firstUnfunded h hf]
  | unknown h ho => rw [SignedTx.checkFunding_eq_ok.2 h, ho]
  | outside h ho hp =>
    rw [SignedTx.checkFunding_eq_ok.2 h, ho]
    dsimp only
    rw [keysAt_of_firstOutside h0 hp]
    rfl
  | slots h ho hp hs =>
    obtain ⟨keys, hk⟩ := exists_keysAt h0 hp
    rw [← (length_of_keysAt h0 hk).1] at hs ⊢
    rw [SignedTx.checkFunding_eq_ok.2 h, ho]
    dsimp only
    rw [hk, ← SignedTx.compare_of_ne hs]
    rfl
  | @told o d' s h ho hs hr hm =>
    have hk := (keysAt_eq_ok h0).2 hr
    rw [← (length_of_keysAt h0 hk).1] at hs
    rw [SignedTx.checkFunding_eq_ok.2 h, ho]
    dsimp only
    rw [hk]
    show (d.copy.tx.compare s.required, d') = _
    rw [SignedTx.compare_of_eq hs, ← hm]

/-- What is answered about the signers of a transaction is told by the first rule that applies. Readiness and phase fail
where the signers do, and are otherwise up to the signers that are missing. -/
theorem decided_in_order (r : Resolver σ) (d : Desk σ) (ha : d.copy.tx.authorization = .ok positions)
    (h0 : ∀ p ∈ positions, 0 ≤ p) (hi : d.copy.tx.subnetId? = some subnet) (hl : subnet.length = Ident.size) :
    (∀ x d', (signers r).runOn d = (x, d') ↔ Decides r positions subnet d x d') ∧
    (∀ i, d.copy.tx.FirstUnfunded i → ∃ slot, d.copy.tx.missingFees.head? = some (i, slot)) ∧
    (∀ f d', (signers r).runOn d = (.error f, d') →
      (isReady r).runOn d = (.error f, d') ∧ (d.copy.committed = none → (phase r).runOn d = (.error f, d'))) ∧
    ∀ s d', (signers r).runOn d = (.ok s, d') →
      (isReady r).runOn d = (.ok s.missing.isEmpty, d') ∧
      (d.copy.committed = none → (phase r).runOn d = (.ok s.phase, d')) := by
  have hn := SignedTx.needsAuthorization_of_authorization ha
  refine ⟨fun x d' => ⟨fun h => ?_, fun h => h.runOn ha h0 hi hl⟩, fun i => SignedTx.head?_missingFees hn, ?_, ?_⟩
  · obtain ⟨x', d'', hd⟩ := exists_decides h0 r subnet d
    obtain ⟨rfl, rfl⟩ := Prod.mk.inj (h.symm.trans (hd.runOn ha h0 hi hl))
    exact hd
  · intro f d' h
    rw [runOn_isReady, runOn_phase, if_pos hn, if_pos hn, h]
    refine ⟨rfl, fun hc => ?_⟩
    rw [hc]
    rfl
  · intro s d' h
    rw [runOn_isReady, runOn_phase, if_pos hn, if_pos hn, h]
    refine ⟨rfl, fun hc => ?_⟩
    rw [hc]
    rfl

def chainCreation (subnet : Bytes) (positions : List Int) (slots : Nat) : SignedTx where
  chain := .platform
  unsigned := .record Chain.Platform.createChainTx
    [.record Chain.Component.baseTx [.int 0, .bytes Ident.empty, .list [], .list [], .bytes []], .bytes subnet,
      .text "", .bytes Ident.empty, .list [], .bytes [], .record Chain.Secp.input [.list (positions.map .int)]]
  creds := [⟨.secp, [List.replicate signatureSize 15]⟩, .blank slots]

def founder : Ownership := ⟨[List.replicate 20 160, List.replicate 20 161], 2, by decide⟩

theorem first_outside_reported :
    let r : Resolver Nat := fun _ asked => (.ok founder, asked + 1)
    let m : Draft := .ofTx (chainCreation Ident.empty [1, 5, 0, 7] 3) .standard
    (signers r).runOn ⟨m, 0, []⟩ =
      (.error (.corrupt (.noControlKey 5 2)), ⟨{ m with snapshot := some founder }, 1, []⟩) := by
  intro r m
  have ha : m.tx.authorization = .ok [1, 5, 0, 7] := rfl
  have hf : m.tx.IsFunded := ⟨by decide, by decide +kernel⟩
  have ho : lookUp r Ident.empty ⟨m, 0, []⟩ = (.ok founder, ⟨{ m with snapshot := some founder }, 1, []⟩) := rfl
  have hp : FirstOutside founder [1, 5, 0, 7] 5 := ⟨[1], [0, 7], rfl, by decide, by decide⟩
  exact ((decided_in_order r ⟨m, 0, []⟩ ha (by decide) rfl (by decide)).1 _ _).2 (.outside hf ho hp)

theorem misnamed_undecided :
    let r : Resolver Nat := fun _ asked => (.ok founder, asked + 1)
    let subnet : Bytes := List.replicate 31 7
    let d : Desk Nat := ⟨.ofTx (chainCreation subnet [0] 1) .standard, 0, []⟩
    let key : Bytes := List.replicate 20 160
    d.copy.tx.authorization = .ok [0] ∧ d.copy.tx.subnetId? = some subnet ∧
      (∃ d', Decides r [0] subnet d (.ok ⟨[key], [key]⟩) d') ∧
      ((signers r).runOn d).1 = .error (.ident (.badLength 31)) := by
  intro r subnet d key
  have hf : d.copy.tx.IsFunded := ⟨by decide, by decide +kernel⟩
  have hm : [key] = d.copy.tx.awaited [key] := by decide +kernel
  exact ⟨rfl, rfl, ⟨_, .told hf rfl rfl rfl hm⟩, by decide +kernel⟩

end Draft.Session

end Countersign
