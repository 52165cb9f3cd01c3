import Countersign.Draft.Sign
import Countersign.Proofs.Draft.Basic

namespace Countersign.Draft

variable {σ α β : Type} {d d' d'' : Desk σ}

structure Desk.Quiet (d d' : Desk σ) : Prop where
  log : d'.log = d.log
  tx : d'.copy.tx = d.copy.tx
  policy : d'.copy.policy = d.copy.policy
  committed : d'.copy.committed = d.copy.committed
  snapshot : ∀ o, d.copy.snapshot = some o → d'.copy.snapshot = some o

namespace Desk.Quiet

lemma refl (d : Desk σ) : d.Quiet d := ⟨rfl, rfl, rfl, rfl, fun _ => id⟩

lemma trans (h : d.Quiet d') (h' : d'.Quiet d'') : d.Quiet d'' where
  log := h'.log.trans h.log
  tx := h'.tx.trans h.tx
  policy := h'.policy.trans h.policy
  committed := h'.committed.trans h.committed
  snapshot o ho := h'.snapshot o (h.snapshot o ho)

end Desk.Quiet

namespace Session

variable {s : Session σ α} {f : α → Session σ β} {r : Resolver σ} {y : β}

lemma runOn_copy (d : Desk σ) : (copy (σ := σ)).runOn d = (.ok d.copy, d) := rfl

lemma runOn_tx (d : Desk σ) : (tx (σ := σ)).runOn d = (.ok d.copy.tx, d) := rfl

lemma runOn_note (e : Event) (d : Desk σ) : (note e).runOn d = (.ok (), { d with log := d.log ++ [⟨e, d.copy⟩] }) := rfl

lemma runOn_update (f : Draft → Draft) (d : Desk σ) : (update f).runOn d = (.ok (), { d with copy := f d.copy }) := rfl

lemma runOn_ask (r : Resolver σ) (subnet : Bytes) (d : Desk σ) :
    (ask r subnet).runOn d = ((r subnet d.book).1, { d with book := (r subnet d.book).2 }) := rfl

lemma runOn_lift (x : Except Fault α) (d : Desk σ) : (liftM x : Session σ α).runOn d = (x, d) := rfl

lemma runOn_lift_ok {x : Except Fault α} {y : α} :
    (liftM x : Session σ α).runOn d = (.ok y, d') ↔ x = .ok y ∧ d = d' := by
  rw [runOn_lift, Prod.mk.injEq]

lemma runOn_pure_ok {x y : α} : (pure x : Session σ α).runOn d = (.ok y, d') ↔ x = y ∧ d = d' := by
  rw [runOn_pure, Prod.mk.injEq, Except.ok.injEq]

lemma runOn_bind_ok : (s >>= f).runOn d = (.ok y, d'') ↔
    ∃ x d', s.runOn d = (.ok x, d') ∧ (f x).runOn d' = (.ok y, d'') := by
  rw [runOn_bind]
  rcases s.runOn d with ⟨e | x, d'⟩
  · exact ⟨nofun, by rintro ⟨_, _, ⟨⟩, _⟩⟩
  · constructor
    · intro h
      exact ⟨x, d', rfl, h⟩
    · rintro ⟨_, _, ⟨⟩, h⟩
      exact h

def IsQuiet (s : Session σ α) : Prop := ∀ d : Desk σ, d.Quiet (s.runOn d).2

namespace IsQuiet

lemma bind (hs : s.IsQuiet) (hf : ∀ x, (f x).IsQuiet) : (s >>= f).IsQuiet := by
  intro d
  have h := hs d
  rw [runOn_bind]
  generalize s.runOn d = p at h ⊢
  obtain ⟨x, d'⟩ := p
  cases x with
  | error e => exact h
  | ok x => exact h.trans (hf x d')

lemma pure (x : α) : (pure x : Session σ α).IsQuiet := Desk.Quiet.refl

lemma throw (e : Fault) : (throw e : Session σ α).IsQuiet := Desk.Quiet.refl

lemma copy : (copy (σ := σ)).IsQuiet := Desk.Quiet.refl

lemma tx : (tx (σ := σ)).IsQuiet := Desk.Quiet.refl

lemma lift (x : Except Fault α) : (liftM x : Session σ α).IsQuiet := Desk.Quiet.refl

lemma quiet {x : Except Fault α} (hs : s.IsQuiet) (h : s.runOn d = (x, d')) : d.Quiet d' := by
  have hq := hs d
  rwa [h] at hq

end IsQuiet

lemma runOn_owners (r : Resolver σ) (d : Desk σ) : (owners r).runOn d =
    match d.copy.snapshot, d.copy.tx.subnetId? with
    | some o, _ => (.ok o, d)
    | none, none => (.error (.malformed (.noSubnet d.copy.tx.kind)), d)
    | none, some subnet =>
      match r subnet d.book with
      | (.error f, book) => (.error f, { d with book })
      | (.ok o, book) =>
        (((Ident.sized subnet).mapError .ident).map fun _ => o, ⟨{ d.copy with snapshot := some o }, book, d.log⟩) := by
  obtain ⟨⟨tx, policy, snapshot, committed⟩, book, log⟩ := d
  cases snapshot with
  | some o => rfl
  | none =>
    rw [owners, runOn_bind, runOn_copy]
    dsimp only
    cases tx.subnetId? with
    | none => rfl
    | some subnet =>
      dsimp only
      rw [runOn_bind, runOn_ask]
      rcases r subnet book with ⟨f | o, book⟩
      · rfl
      · dsimp only
        rw [runOn_bind, runOn_update]
        cases Ident.sized subnet <;> rfl

lemma owners_isQuiet : (owners r).IsQuiet := by
  intro d
  rw [runOn_owners]
  obtain ⟨⟨tx, policy, snapshot, committed⟩, book, log⟩ := d
  cases snapshot with
  | some o => exact .refl _
  | none =>
    dsimp only
    cases tx.subnetId? with
    | none => exact .refl _
    | some subnet =>
      dsimp only
      rcases r subnet book with ⟨f | o, book⟩
      · exact ⟨rfl, rfl, rfl, rfl, fun _ => id⟩
      · exact ⟨rfl, rfl, rfl, rfl, nofun⟩

lemma authSigners_isQuiet : (authSigners r).IsQuiet :=
  .bind .tx fun _ => .bind (.lift _) fun _ => .bind owners_isQuiet fun _ => .lift _

lemma signers_isQuiet : (signers r).IsQuiet :=
  .bind .tx fun _ => .bind (.lift _) fun _ => .bind authSigners_isQuiet fun _ => .bind .tx fun _ => .lift _

lemma isReady_isQuiet : (isReady r).IsQuiet := by
  refine .bind .tx fun t => ?_
  split
  · exact .bind signers_isQuiet fun _ => .pure _
  · exact .pure _

lemma owners_ok {o : Ownership} (h : (owners r).runOn d = (.ok o, d')) : d'.copy.snapshot = some o := by
  rw [runOn_owners] at h
  obtain ⟨⟨tx, policy, snapshot, committed⟩, book, log⟩ := d
  cases snapshot with
  | some o' =>
    cases h
    rfl
  | none =>
    dsimp only at h
    cases hi : tx.subnetId? with
    | none =>
      rw [hi] at h
      cases h
    | some subnet =>
      rw [hi] at h
      dsimp only at h
      generalize r subnet book = p at h
      obtain ⟨x, book'⟩ := p
      cases x with
      | error f => cases h
      | ok o' =>
        dsimp only at h
        cases hs : Ident.sized subnet with
        | error f =>
          rw [hs] at h
          cases h
        | ok id =>
          rw [hs] at h
          cases h
          rfl

lemma authSigners_ok {keys : List Bytes} (h : (authSigners r).runOn d = (.ok keys, d')) :
    ∃ o positions, d'.copy.snapshot = some o ∧ d.copy.tx.authorization = .ok positions ∧
      keysAt o positions = .ok keys := by
  obtain ⟨_, _, h₁, h⟩ := runOn_bind_ok.1 h
  cases h₁
  obtain ⟨positions, _, h₂, h⟩ := runOn_bind_ok.1 h
  obtain ⟨hp, rfl⟩ := runOn_lift_ok.1 h₂
  obtain ⟨o, _, ho, h₃⟩ := runOn_bind_ok.1 h
  obtain ⟨hk, rfl⟩ := runOn_lift_ok.1 h₃
  exact ⟨o, positions, owners_ok ho, hp, hk⟩

lemma signers_ok {s : Signers} (h : (signers r).runOn d = (.ok s, d')) :
    ∃ o positions keys, d'.copy.snapshot = some o ∧ d.copy.tx.checkFunding = .ok () ∧
      d.copy.tx.authorization = .ok positions ∧ keysAt o positions = .ok keys ∧ d.copy.tx.compare keys = .ok s := by
  obtain ⟨_, _, h₁, h⟩ := runOn_bind_ok.1 h
  cases h₁
  obtain ⟨_, _, h₂, h⟩ := runOn_bind_ok.1 h
  obtain ⟨hf, rfl⟩ := runOn_lift_ok.1 h₂
  obtain ⟨keys, _, ha, h⟩ := runOn_bind_ok.1 h
  obtain ⟨_, _, h₃, h⟩ := runOn_bind_ok.1 h
  cases h₃
  obtain ⟨hc, rfl⟩ := runOn_lift_ok.1 h
  obtain ⟨o, positions, ho, hp, hk⟩ := authSigners_ok ha
  rw [(authSigners_isQuiet.quiet ha).tx] at hc
  exact ⟨o, positions, keys, ho, hf, hp, hk, hc⟩

lemma runOn_signSlot (k : Signatory) (slot : Nat) (signer : Bytes) (d : Desk σ) :
    (signSlot k slot signer).runOn d =
      let signing := k.sign d.copy.tx slot signer
      (match signing.failure with
        | some f => .error f
        | none => .ok (),
      { d with
        copy := { d.copy with tx := (signing.written.map (d.copy.tx.setTrailing slot)).getD d.copy.tx }
        log := d.log ++ [⟨.signing slot signer, d.copy⟩] }) := by
  rw [signSlot, runOn_bind, runOn_note]
  dsimp only
  rw [runOn_bind, runOn_tx]
  dsimp only
  obtain ⟨written, failure⟩ := k.sign d.copy.tx slot signer
  cases written with
  | none => cases failure <;> rfl
  | some sig => cases failure <;> rfl

lemma runOn_signSlots_cons (k : Signatory) (slot : Nat) (signer : Bytes) (rest : List Bytes) (d : Desk σ) :
    (signSlots k slot (signer :: rest)).runOn d =
      if d.copy.tx.lacks slot && k.holds signer then
        (signSlot k slot signer >>= fun _ => signSlots k (slot + 1) rest).runOn d
      else (signSlots k (slot + 1) rest).runOn d := by
  rw [signSlots, runOn_bind, runOn_tx]
  dsimp only
  split <;> rfl

end Session

end Countersign.Draft
