import Countersign.Proofs.Draft.Session

namespace Countersign

open Draft

namespace Draft

def Signers.phase (s : Signers) : Phase :=
  if s.missing.isEmpty then .readyToCommit
  else if s.missing.length < s.required.length then .partiallySigned
  else .unsigned

lemma Signers.phase_ne_committed (s : Signers) : s.phase ≠ .committed := by
  rw [phase]
  split
  · nofun
  · split <;> nofun

end Draft

namespace SignedTx

def isPaid (tx : SignedTx) : Bool := !tx.creds.isEmpty && tx.missingFees.isEmpty

def paidPhase (tx : SignedTx) : Phase :=
  if tx.isPaid then .readyToCommit else if tx.hasSignature then .partiallySigned else .unsigned

lemma paidPhase_ne_committed (tx : SignedTx) : tx.paidPhase ≠ .committed := by
  rw [paidPhase]
  split
  · nofun
  · split <;> nofun

def signersFor (tx : SignedTx) (told : Except Fault Ownership) : Except Fault Signers := do
  tx.checkFunding
  let positions ← tx.authorization
  tx.compare (← keysAt (← told) positions)

def readyFor (tx : SignedTx) (told : Except Fault Ownership) : Except Fault Bool :=
  if tx.needsAuthorization then (·.missing.isEmpty) <$> tx.signersFor told else .ok tx.isPaid

def phaseFor (tx : SignedTx) (told : Except Fault Ownership) : Except Fault Phase :=
  if tx.needsAuthorization then Signers.phase <$> tx.signersFor told else .ok tx.paidPhase

variable {tx : SignedTx} {told told' : Except Fault Ownership} {s : Signers}

lemma signersFor_eq_ok : tx.signersFor told = .ok s ↔ tx.checkFunding = .ok () ∧
    ∃ positions o keys, tx.authorization = .ok positions ∧ told = .ok o ∧ keysAt o positions = .ok keys ∧
      tx.compare keys = .ok s := by
  simp only [signersFor, bind_eq_ok]
  constructor
  · rintro ⟨_, hf, positions, hp, o, ho, keys, hk, hc⟩
    exact ⟨hf, positions, o, keys, hp, ho, hk, hc⟩
  · rintro ⟨hf, positions, o, keys, hp, ho, hk, hc⟩
    exact ⟨(), hf, positions, hp, o, ho, keys, hk, hc⟩

lemma signersFor_congr (h : ∀ positions, tx.authorization = .ok positions → told = told') :
    tx.signersFor told = tx.signersFor told' := by
  rw [signersFor, signersFor]
  cases hp : tx.authorization with
  | ok positions => rw [h positions hp]
  | error e => rfl

end SignedTx

namespace Draft.Session

variable {σ : Type} {d d' : Desk σ} {r : Resolver σ} {s : Signers} {p : Phase}

def told (r : Resolver σ) (d : Desk σ) : Except Fault Ownership := ((owners r).runOn d).1

lemma told_of_snapshot {o : Ownership} (h : d.copy.snapshot = some o) : told r d = .ok o := by
  rw [told, runOn_owners, h]

lemma runOn_authSigners (r : Resolver σ) (d : Desk σ) : (authSigners r).runOn d =
    match d.copy.tx.authorization with
    | .error e => (.error e, d)
    | .ok positions =>
      match (owners r).runOn d with
      | (.error e, d') => (.error e, d')
      | (.ok o, d') => (keysAt o positions, d') := by
  rw [authSigners, runOn_bind, runOn_tx]
  dsimp only
  rw [runOn_bind, runOn_lift]
  cases d.copy.tx.authorization with
  | error e => rfl
  | ok positions =>
    dsimp only
    rw [runOn_bind]
    rcases (owners r).runOn d with ⟨e | o, d'⟩ <;> rfl

lemma runOn_signers (r : Resolver σ) (d : Desk σ) : (signers r).runOn d =
    match d.copy.tx.checkFunding, d.copy.tx.authorization with
    | .error e, _ => (.error e, d)
    | .ok _, .error e => (.error e, d)
    | .ok _, .ok positions =>
      match (owners r).runOn d with
      | (.error e, d') => (.error e, d')
      | (.ok o, d') => (keysAt o positions >>= d.copy.tx.compare, d') := by
  have hq := (owners_isQuiet (r := r) d).tx
  rw [signers, runOn_bind, runOn_tx]
  dsimp only
  rw [runOn_bind, runOn_lift]
  cases d.copy.tx.checkFunding with
  | error e => rfl
  | ok _ =>
    dsimp only
    rw [runOn_bind, runOn_authSigners]
    cases d.copy.tx.authorization with
    | error e => rfl
    | ok positions =>
      dsimp only
      generalize (owners r).runOn d = q at hq ⊢
      obtain ⟨told, d'⟩ := q
      cases told with
      | error e => rfl
      | ok o =>
        dsimp only at hq ⊢
        cases keysAt o positions with
        | error e => rfl
        | ok keys =>
          dsimp only
          rw [runOn_bind, runOn_tx, hq]
          rfl

lemma signers_answer (r : Resolver σ) (d : Desk σ) :
    ((signers r).runOn d).1 = d.copy.tx.signersFor (told r d) := by
  rw [runOn_signers, SignedTx.signersFor, told]
  cases d.copy.tx.checkFunding with
  | error e => rfl
  | ok _ =>
    cases d.copy.tx.authorization with
    | error e => rfl
    | ok positions => rcases (owners r).runOn d with ⟨e | o, d'⟩ <;> rfl

lemma idle_bind {α β : Type} {s : Session σ α} {f : α → Session σ β} (hs : (s.runOn d).2 = d)
    (hf : ∀ x, ((f x).runOn d).2 = d) : ((s >>= f).runOn d).2 = d := by
  rw [runOn_bind]
  generalize s.runOn d = p at hs ⊢
  obtain ⟨x, d'⟩ := p
  cases x with
  | error e => exact hs
  | ok x =>
    obtain rfl : d' = d := hs
    exact hf x

lemma signers_idle {o : Ownership} (h : d.copy.snapshot = some o) : ((signers r).runOn d).2 = d := by
  have howners : ((owners r).runOn d).2 = d := by
    rw [runOn_owners, h]
  have hauth : ((authSigners r).runOn d).2 = d :=
    idle_bind rfl fun _ => idle_bind rfl fun _ => idle_bind howners fun _ => rfl
  exact idle_bind rfl fun _ => idle_bind rfl fun _ => idle_bind hauth fun _ => idle_bind rfl fun _ => rfl

lemma signers_known (h : (signers r).runOn d = (.ok s, d')) :
    ∃ o, d'.copy.snapshot = some o ∧ d'.copy.tx.signersFor (.ok o) = .ok s := by
  obtain ⟨o, positions, keys, ho, hf, hp, hk, hc⟩ := signers_ok h
  refine ⟨o, ho, ?_⟩
  rw [(signers_isQuiet.quiet h).tx]
  exact SignedTx.signersFor_eq_ok.2 ⟨hf, positions, o, keys, hp, rfl, hk, hc⟩

lemma signers_of_snapshot {o : Ownership} (ho : d.copy.snapshot = some o) (hs : d.copy.tx.signersFor (.ok o) = .ok s) :
    (signers r).runOn d = (.ok s, d) := by
  have ha : ((signers r).runOn d).1 = .ok s := by
    rw [signers_answer, told_of_snapshot ho, hs]
  exact Prod.ext ha (signers_idle ho)

lemma signers_again {τ : Type} {later : Desk τ} (h : (signers r).runOn d = (.ok s, d')) (r' : Resolver τ)
    (hl : later.copy = d'.copy) : (signers r').runOn later = (.ok s, later) := by
  obtain ⟨o, ho, hs⟩ := signers_known h
  rw [← hl] at ho hs
  exact signers_of_snapshot ho hs

lemma runOn_isReady (r : Resolver σ) (d : Desk σ) : (isReady r).runOn d =
    if d.copy.tx.needsAuthorization then
      match (signers r).runOn d with
      | (.ok s, d') => (.ok s.missing.isEmpty, d')
      | (.error e, d') => (.error e, d')
    else (.ok d.copy.tx.isPaid, d) := by
  rw [isReady, runOn_bind, runOn_tx]
  dsimp only
  split
  · rw [runOn_bind]
    rcases (signers r).runOn d with ⟨e | s, d'⟩ <;> rfl
  · rfl

lemma isReady_again {τ : Type} {later : Desk τ} {ready : Bool} (h : (isReady r).runOn d = (.ok ready, d'))
    (r' : Resolver τ) (hl : later.copy = d'.copy) : (isReady r').runOn later = (.ok ready, later) := by
  have htx := (isReady_isQuiet.quiet h).tx
  rw [← hl] at htx
  rw [runOn_isReady] at h ⊢
  rw [htx]
  split
  · rename_i hn
    rw [if_pos hn] at h
    cases hs : (signers r).runOn d with
    | mk x d'' =>
      rw [hs] at h
      cases x with
      | error f => cases h
      | ok s =>
        cases h
        rw [signers_again hs r' hl]
  · rename_i hn
    rw [if_neg hn] at h
    rw [(Prod.mk.inj h).1]

lemma isReady_answer (r : Resolver σ) (d : Desk σ) :
    ((isReady r).runOn d).1 = d.copy.tx.readyFor (told r d) := by
  rw [runOn_isReady, SignedTx.readyFor]
  split
  · rw [← signers_answer]
    rcases (signers r).runOn d with ⟨e | s, d'⟩ <;> rfl
  · rfl

lemma runOn_phase (r : Resolver σ) (d : Desk σ) : (phase r).runOn d =
    if d.copy.committed.isSome then (.ok .committed, d)
    else if d.copy.tx.needsAuthorization then
      match (signers r).runOn d with
      | (.ok s, d') => (.ok s.phase, d')
      | (.error e, d') => (.error e, d')
    else (.ok d.copy.tx.paidPhase, d) := by
  rw [phase, runOn_bind, runOn_copy]
  dsimp only
  split
  · rfl
  · rw [runOn_bind, runOn_isReady]
    by_cases hn : d.copy.tx.needsAuthorization = true
    · rw [if_pos hn, if_pos hn]
      cases hs : (signers r).runOn d with
      | mk x d' =>
        cases x with
        | error e => rfl
        | ok s =>
          dsimp only
          rw [Signers.phase]
          split
          · rfl
          · -- The signers are asked for a second time.
            rw [runOn_bind, runOn_tx, (signers_isQuiet.quiet hs).tx]
            dsimp only
            rw [if_pos hn, runOn_bind, signers_again hs r rfl]
            rfl
    · rw [if_neg hn, if_neg hn, SignedTx.paidPhase]
      dsimp only
      split
      · rfl
      · rw [runOn_bind, runOn_tx]
        dsimp only
        rw [if_neg hn]
        rfl

lemma phase_of_isReady (hc : d.copy.committed = none) (h : (isReady r).runOn d = (.ok true, d)) :
    (phase r).runOn d = (.ok .readyToCommit, d) := by
  rw [phase, runOn_bind, runOn_copy]
  dsimp only
  rw [hc, if_neg (by decide), runOn_bind, h]
  rfl

lemma phase_answer (r : Resolver σ) (d : Desk σ) : ((phase r).runOn d).1 =
    if d.copy.committed.isSome then .ok .committed else d.copy.tx.phaseFor (told r d) := by
  rw [runOn_phase, SignedTx.phaseFor, ← signers_answer]
  split
  · rfl
  · split
    · rcases (signers r).runOn d with ⟨e | s, d'⟩ <;> rfl
    · rfl

lemma phase_isQuiet : (phase r).IsQuiet := by
  intro d
  have hq := signers_isQuiet (r := r) d
  rw [runOn_phase]
  split
  · exact .refl d
  · split
    · generalize (signers r).runOn d = q at hq ⊢
      rcases q with ⟨e | s, d'⟩ <;> exact hq
    · exact .refl d

end Draft.Session

end Countersign
