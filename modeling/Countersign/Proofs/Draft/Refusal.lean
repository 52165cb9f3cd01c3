import Countersign.Proofs.Draft.Precedence
import Countersign.Proofs.Draft.Progress
import Countersign.Proofs.Draft.Requests

namespace Countersign

open Wire Draft

namespace SignedTx

variable {tx tx' : SignedTx}

def IsUngoverned (tx : SignedTx) : Prop :=
  ∃ t, tx.unsigned.type? = some t ∧ tx.chain.isTxType t = true ∧
    (tx.chain = .platform → t ≠ Chain.Platform.createSubnetTx ∧ t ∉ Chain.Platform.governance)

example : ((Chain.codec .platform).typesOf .unsignedTx |>.filter fun t =>
    t ≠ Chain.Platform.createSubnetTx ∧ t ∉ Chain.Platform.governance).length = 11 := by
  decide +kernel

lemma IsUngoverned.grows (h : tx.IsUngoverned) (hg : tx.Grows tx') : tx'.IsUngoverned := by
  rw [IsUngoverned, hg.chain, hg.unsigned]
  exact h

lemma eq_platform_of_isTxType {c : Chain} (h : c.isTxType Chain.Platform.createSubnetTx = true) : c = .platform := by
  cases c with
  | platform => rfl
  | exchange => exact absurd h (by decide +kernel)
  | contract => exact absurd h (by decide +kernel)

lemma IsUngoverned.needsAuthorization (h : tx.IsUngoverned) : tx.needsAuthorization = true := by
  obtain ⟨t, ht, hc, hp⟩ := h
  have hne : t ≠ Chain.Platform.createSubnetTx := by
    rintro rfl
    exact (hp (eq_platform_of_isTxType hc)).1 rfl
  rw [SignedTx.needsAuthorization, ht]
  exact decide_eq_true fun h => hne (Option.some.inj h)

lemma IsUngoverned.authorization (h : tx.IsUngoverned) :
    tx.authorization = .error (.malformed (.notGovernance tx.kind tx.chain)) := by
  cases ha : tx.authorization with
  | ok positions =>
    obtain ⟨t, ht, _, hp⟩ := h
    obtain ⟨t', ht', hg⟩ := type?_of_authorization ha
    obtain rfl := Option.some.inj (ht.symm.trans ht')
    exact absurd hg (hp (authorization_eq_ok.1 ha).1).2
  | error f =>
    rw [SignedTx.authorization] at ha
    cases hs : tx.chain.subnetAuth? tx.unsigned with
    | some positions =>
      rw [hs] at ha
      cases ha
    | none =>
      rw [hs] at ha
      exact ha.symm

inductive Refuses (tx : SignedTx) : Malformed → Prop
  | tooFew (h : tx.creds.length < 2) : Refuses tx (.tooFewCredentials tx.creds.length)
  | unfunded {i : Nat} (h : 2 ≤ tx.creds.length) (hi : tx.FirstUnfunded i) : Refuses tx (.unfunded i)
  | notGovernance (h : tx.IsFunded) : Refuses tx (.notGovernance tx.kind tx.chain)

lemma exists_refuses (tx : SignedTx) : ∃ what, tx.Refuses what := by
  rcases tx.funding_cases with h | ⟨h2, i, hi⟩ | hf
  · exact ⟨_, .tooFew h⟩
  · exact ⟨_, .unfunded h2 hi⟩
  · exact ⟨_, .notGovernance hf⟩

end SignedTx

namespace Draft

open Session

variable {σ : Type} {d d' d'' : Desk σ} {what : Malformed}

structure Desk.Refused (d : Desk σ) (what : Malformed) : Prop where
  reason : d.copy.tx.Refuses what
  authSigners : ∀ r : Resolver σ, (authSigners r).runOn d =
    (.error (.malformed (.notGovernance d.copy.tx.kind d.copy.tx.chain)), d)
  signers : ∀ r : Resolver σ, (signers r).runOn d = (.error (.malformed what), d)
  isReady : ∀ r : Resolver σ, (isReady r).runOn d = (.error (.malformed what), d)
  phase : ∀ r : Resolver σ, (phase r).runOn d = (.error (.malformed what), d)
  commit : ∀ (r : Resolver σ) s wait, (commit r s wait).runOn d = (.error (.malformed what), d)
  sign : ∀ (r : Resolver σ) k o s, (sign r k o s).runOn d =
    (.error (if o.commitIfReady && s.isNone then .noSubmitter else .malformed what), d)

lemma signers_refused (h : d.copy.tx.IsUngoverned) (hw : d.copy.tx.Refuses what) (r : Resolver σ) :
    (signers r).runOn d = (.error (.malformed what), d) := by
  rw [runOn_signers, h.authorization]
  cases hw with
  | tooFew h => rw [SignedTx.checkFunding, if_pos h]
  | unfunded h2 hi => rw [SignedTx.checkFunding_of_firstUnfunded h2 hi]
  | notGovernance hf => rw [SignedTx.checkFunding_eq_ok.2 hf]

lemma exists_refused (h : d.copy.tx.IsUngoverned) (hc : d.copy.committed = none) : ∃ what, d.Refused what := by
  obtain ⟨what, hw⟩ := d.copy.tx.exists_refuses
  have hs := signers_refused h hw
  have hn := h.needsAuthorization
  have hready (r : Resolver σ) : (isReady r).runOn d = (.error (.malformed what), d) := by
    rw [runOn_isReady, if_pos hn, hs r]
  refine ⟨what, hw, fun r => ?_, hs, hready, fun r => ?_, fun r s wait => ?_, fun r k o s => ?_⟩
  · rw [runOn_authSigners, h.authorization]
  · rw [runOn_phase, hc, if_neg (by decide), if_pos hn, hs r]
  · rw [runOn_commit r s wait hc, hready r]
  · rw [runOn_sign r k o s hc, if_pos hn, hs r]
    split <;> rfl

structure Desk.Unasked (d d' : Desk σ) : Prop where
  book : d'.book = d.book
  log : ∃ moments, d'.log = d.log ++ moments ∧ ∀ m ∈ moments, ∀ slot address, m.event ≠ .signing slot address

namespace Desk.Unasked

lemma of_eq (hb : d'.book = d.book) (hl : d'.log = d.log) : d.Unasked d' :=
  ⟨hb, [], hl.trans (List.append_nil _).symm, fun _ hm => absurd hm List.not_mem_nil⟩

lemma refl (d : Desk σ) : d.Unasked d := .of_eq rfl rfl

lemma trans (h : d.Unasked d') (h' : d'.Unasked d'') : d.Unasked d'' where
  book := h'.book.trans h.book
  log := by
    obtain ⟨ms, hl, hm⟩ := h.log
    obtain ⟨ms', hl', hm'⟩ := h'.log
    refine ⟨ms ++ ms', by rw [hl', hl, List.append_assoc], fun m hmem => ?_⟩
    rcases List.mem_append.1 hmem with hmem | hmem
    · exact hm m hmem
    · exact hm' m hmem

end Desk.Unasked

lemma attempts_unasked (s : Submitter) (policy : RetryPolicy) (data : Bytes) (id : String) (wait : Bool) (more i : Nat)
    (d : Desk σ) : d.Unasked ((attempts s policy data id wait more i).runOn d).2 := by
  have hnote (e : Event) (he : ∀ slot address, e ≠ .signing slot address) (d' : Desk σ) (h : d.Unasked d') :
      d.Unasked { d' with log := d'.log ++ [⟨e, d'.copy⟩] } := by
    refine h.trans ⟨rfl, _, rfl, fun m hm => ?_⟩
    obtain rfl := List.mem_singleton.1 hm
    exact he
  refine attempts_invariant (I := d.Unasked) (P := fun p => d.Unasked p.2) ?_ ?_ ?_ ?_ (.refl d)
  · exact fun d' h => hnote (.pause policy.backoff) nofun d' h
  · exact fun d' attempt h _ _ => hnote (.submission attempt) nofun d' h
  · exact fun d' attempt h _ _ => (hnote (.submission attempt) nofun d' h).trans (.of_eq rfl rfl)
  · exact fun d' last h => h

structure Desk.Founding (d : Desk σ) : Prop where
  isPaid : d.copy.tx.isPaid = true ↔
    d.copy.tx.creds ≠ [] ∧ ∀ c ∈ d.copy.tx.creds, ∀ sig ∈ c.sigs, sig ≠ emptySignature
  isReady : ∀ r : Resolver σ, (isReady r).runOn d = (.ok d.copy.tx.isPaid, d)
  phase : ∃ p, ∀ r : Resolver σ, (phase r).runOn d = (.ok p, d)
  commit : ∀ (r r' : Resolver σ) s wait, (commit r s wait).runOn d = (commit r' s wait).runOn d ∧
    d.Unasked ((commit r s wait).runOn d).2
  sign : ∀ (r r' : Resolver σ) k k' o s, (sign r k o s).runOn d = (sign r' k' o s).runOn d ∧
    d.Unasked ((sign r k o s).runOn d).2
  unready : d.copy.committed = none → d.copy.tx.isPaid = false →
    ∀ (r : Resolver σ) s wait, (Session.commit r s wait).runOn d = (.error (.notReady d.copy.tx.kind), d)

variable (hn : ¬ d.copy.tx.needsAuthorization = true)

include hn

lemma isReady_paid (r : Resolver σ) : (isReady r).runOn d = (.ok d.copy.tx.isPaid, d) := by
  rw [runOn_isReady, if_neg hn]

lemma commit_paid (r r' : Resolver σ) (s : Submitter) (wait : Bool) :
    (commit r s wait).runOn d = (commit r' s wait).runOn d ∧ d.Unasked ((commit r s wait).runOn d).2 := by
  cases hc : d.copy.committed with
  | some id =>
    rw [runOn_commit_of_committed r s wait hc, runOn_commit_of_committed r' s wait hc]
    exact ⟨rfl, .refl d⟩
  | none =>
    rw [runOn_commit r s wait hc, runOn_commit r' s wait hc, isReady_paid hn, isReady_paid hn]
    refine ⟨rfl, ?_⟩
    cases d.copy.tx.isPaid with
    | false => exact .refl d
    | true =>
      dsimp only
      cases d.copy.tx.toBytes with
      | error f => exact .refl d
      | ok data => exact attempts_unasked ..

lemma finish_paid (r r' : Resolver σ) (o : SignOptions) (s : Option Submitter) :
    (finish r o s).runOn d = (finish r' o s).runOn d ∧ d.Unasked ((finish r o s).runOn d).2 := by
  rw [runOn_finish, runOn_finish]
  obtain ⟨checkFirst, commitIfReady, wait⟩ := o
  cases commitIfReady with
  | false => exact ⟨rfl, .refl d⟩
  | true =>
    cases s with
    | none => exact ⟨rfl, .refl d⟩
    | some s =>
      obtain ⟨he, hu⟩ := commit_paid hn r r' s wait
      dsimp only
      rw [← he]
      refine ⟨rfl, ?_⟩
      generalize (commit r s wait).runOn d = p at hu ⊢
      rcases p with ⟨f | id, d'⟩ <;> exact hu

lemma sign_paid (r r' : Resolver σ) (k k' : Signatory) (o : SignOptions) (s : Option Submitter) :
    (sign r k o s).runOn d = (sign r' k' o s).runOn d ∧ d.Unasked ((sign r k o s).runOn d).2 := by
  cases hc : d.copy.committed with
  | some id =>
    rw [runOn_sign_of_committed r k o s hc, runOn_sign_of_committed r' k' o s hc]
    exact ⟨rfl, .refl d⟩
  | none =>
    rw [runOn_sign r k o s hc, runOn_sign r' k' o s hc, if_neg hn, if_neg hn, isReady_paid hn, isReady_paid hn]
    split
    · exact ⟨rfl, .refl d⟩
    · dsimp only
      split
      · exact finish_paid hn r r' o s
      · exact ⟨rfl, .refl d⟩

lemma founding : d.Founding where
  isPaid := by
    rw [SignedTx.isPaid, Bool.and_eq_true_iff, List.isEmpty_iff, SignedTx.missingFees_eq_nil, SignedTx.funding,
      if_neg hn]
    simp [Credential.isFilled]
  isReady := isReady_paid hn
  phase := by
    refine ⟨if d.copy.committed.isSome then .committed else d.copy.tx.paidPhase, fun r => ?_⟩
    rw [runOn_phase, if_neg hn]
    split <;> rfl
  commit := commit_paid hn
  sign := sign_paid hn
  unready hc hp r s wait := by
    rw [runOn_commit r s wait hc, isReady_paid hn, hp]

omit hn

namespace Request

variable {r : Resolver σ}

lemma runOn_merge (r : Resolver σ) (other : Draft) (d : Desk σ) : ((merge other).perform r).runOn d =
    match d.copy.merge other with
    | .ok (m, _) => (.ok none, { d with copy := m })
    | .error f => (.error f, d) := by
  rw [perform, runOn_bind, runOn_copy]
  dsimp only
  rw [runOn_bind, runOn_lift]
  cases d.copy.merge other <;> rfl

lemma runOn_merge_desk (r : Resolver σ) (other : Draft) (d : Desk σ) :
    ∃ tx, (((merge other).perform r).runOn d).2 = { d with copy := { d.copy with tx } } := by
  rw [runOn_merge]
  cases hm : d.copy.merge other with
  | error f => exact ⟨d.copy.tx, rfl⟩
  | ok x =>
    obtain ⟨tx, _, he⟩ := merge_eq_ok.1 hm
    exact ⟨tx, by rw [he]⟩

lemma perform_refused (q : Request) (h : d.copy.tx.IsUngoverned) (hc : d.copy.committed = none) :
    ((q.perform r).runOn d).2.log = d.log ∧ ((q.perform r).runOn d).2.book = d.book ∧
      ((q.perform r).runOn d).2.copy.committed = none := by
  obtain ⟨what, hr⟩ := exists_refused h hc
  cases q with
  | sign k o s =>
    rw [perform, runOn_bind, hr.sign]
    exact ⟨rfl, rfl, hc⟩
  | commit s wait =>
    rw [perform, runOn_bind, hr.commit]
    exact ⟨rfl, rfl, hc⟩
  | merge other =>
    obtain ⟨tx, he⟩ := runOn_merge_desk r other d
    rw [he]
    exact ⟨rfl, rfl, hc⟩

lemma run_refused (requests : List Request) (h : d.copy.tx.IsUngoverned) (hc : d.copy.committed = none) :
    (run r requests d).log = d.log ∧ (run r requests d).book = d.book ∧ (run r requests d).copy.committed = none ∧
      (run r requests d).copy.tx.IsUngoverned := by
  induction requests generalizing d with
  | nil => exact ⟨rfl, rfl, hc, h⟩
  | cons q requests ih =>
    obtain ⟨hl, hb, hc'⟩ := q.perform_refused (r := r) h hc
    obtain ⟨hl', hb', hrest⟩ := ih (h.grows (q.perform_isForward (r := r) d).tx) hc'
    exact ⟨hl'.trans hl, hb'.trans hb, hrest⟩

lemma perform_unasked (q : Request) (hn : ¬ d.copy.tx.needsAuthorization = true) :
    d.Unasked ((q.perform r).runOn d).2 := by
  cases q with
  | sign k o s =>
    have hu := (sign_paid hn r r k k o s).2
    rw [perform, runOn_bind]
    generalize (Session.sign r k o s).runOn d = p at hu ⊢
    rcases p with ⟨f | x, d'⟩ <;> exact hu
  | commit s wait =>
    have hu := (commit_paid hn r r s wait).2
    rw [perform, runOn_bind]
    generalize (Session.commit r s wait).runOn d = p at hu ⊢
    rcases p with ⟨f | x, d'⟩ <;> exact hu
  | merge other =>
    obtain ⟨tx, he⟩ := runOn_merge_desk r other d
    rw [he]
    exact .of_eq rfl rfl

lemma run_unasked (requests : List Request) (hn : ¬ d.copy.tx.needsAuthorization = true) :
    d.Unasked (run r requests d) ∧ ¬ (run r requests d).copy.tx.needsAuthorization = true := by
  induction requests generalizing d with
  | nil => exact ⟨.refl d, hn⟩
  | cons q requests ih =>
    have hn' := hn
    rw [← (q.perform_isForward (r := r) d).tx.needsAuthorization] at hn'
    obtain ⟨hu, hrest⟩ := ih hn'
    exact ⟨(q.perform_unasked hn).trans hu, hrest⟩

end Request

/-- Whatever has been asked of a copy before: where no control keys authorize its transaction, every request fails, and
nobody has been asked for an owner, a signature or an acceptance; where it creates a subnet, nobody has been asked for
an owner or a signature, and it can be submitted if and only if no slot is empty. -/
theorem nobody_asked (r : Resolver σ) (requests : List Request) (d : Desk σ) :
    let d' := Request.run r requests d
    (d.copy.tx.IsUngoverned → d.copy.committed = none →
      d'.log = d.log ∧ d'.book = d.book ∧ d'.copy.committed = none ∧ ∃ what, d'.Refused what) ∧
    (d.copy.tx.unsigned.type? = some Chain.Platform.createSubnetTx → d.Unasked d' ∧ d'.Founding) := by
  intro d'
  constructor
  · intro h hc
    obtain ⟨hl, hb, hc', h'⟩ := Request.run_refused (r := r) requests h hc
    exact ⟨hl, hb, hc', exists_refused h' hc'⟩
  · intro ht
    have hn : ¬ d.copy.tx.needsAuthorization = true := by
      rw [SignedTx.needsAuthorization, ht]
      simp
    obtain ⟨hu, hn'⟩ := Request.run_unasked (r := r) requests hn
    exact ⟨hu, founding hn'⟩

def deactivation : SignedTx where
  chain := .platform
  unsigned := .record Chain.Platform.disableValidatorTx
    [.record Chain.Component.baseTx [.int 1, .bytes (Bytes.zeros 32), .list [], .list [], .bytes []],
      .bytes (Bytes.zeros 32), .record Chain.Secp.input [.list [.int 0]]]
  creds := [⟨.secp, [List.replicate signatureSize 1]⟩, .blank 1]

theorem deactivation_refused :
    let r : Resolver Nat := fun _ asked => (.ok ⟨[], 0, by decide⟩, asked + 1)
    let k : Signatory := ⟨fun _ => true, fun _ _ _ => ⟨some (List.replicate signatureSize 9), none⟩⟩
    let o : SignOptions := ⟨false, false, true⟩
    (∃ what, (sign r k o none).runOn ⟨.ofTx deactivation .standard, 0, []⟩ =
      (.error (.malformed what), ⟨.ofTx deactivation .standard, 0, []⟩)) ∧
    (isReady r).runOn ⟨.ofTx creation .standard, 0, []⟩ = (.ok true, ⟨.ofTx creation .standard, 0, []⟩) := by
  intro r k o
  have ht : deactivation.IsUngoverned :=
    ⟨Chain.Platform.disableValidatorTx, rfl, by decide +kernel, fun _ => by decide +kernel⟩
  obtain ⟨_, _, _, what, hr⟩ := (nobody_asked r [] ⟨.ofTx deactivation .standard, 0, []⟩).1 ht rfl
  obtain ⟨_, hf⟩ := (nobody_asked r [] ⟨.ofTx creation .standard, 0, []⟩).2 rfl
  refine ⟨⟨what, hr.sign r k o none⟩, ?_⟩
  have hp := hf.isReady r
  rwa [hf.isPaid.2 ⟨by decide, by decide +kernel⟩] at hp

end Draft

end Countersign
