import Countersign.Proofs.Draft.Session

/-! What is submitted, over all that the parties ask of a copy. A transaction is submitted only if nothing is missing
in it any more, and once it was accepted nothing is submitted again. -/

namespace Countersign.Draft

open Wire Digest

variable {σ α β : Type} {d d' : Desk σ} {r : Resolver σ} {data : Bytes} {id : String} {m : Draft}

def Authorized (m : Draft) : Prop :=
  ∃ t o positions, m.tx.chain = .platform ∧ m.tx.unsigned.type? = some t ∧ t ∈ Chain.Platform.governance ∧
    2 ≤ m.tx.creds.length ∧ m.snapshot = some o ∧ m.tx.authorization = .ok positions ∧
    (∀ p ∈ positions, 0 ≤ p ∧ p < o.controlKeys.length) ∧ m.tx.trailingSigs.length = positions.length

structure Submittable (m : Draft) (data : Bytes) : Prop where
  bytes : m.toBytes = .ok data
  reads : SignedTx.ofBytes m.tx.chain data = .ok m.tx
  signed : m.tx.creds ≠ []
  filled : ∀ c ∈ m.tx.creds, ∀ sig ∈ c.sigs, sig ≠ emptySignature
  authorized : m.tx.unsigned.type? = some Chain.Platform.createSubnetTx ∨ m.Authorized

def Event.IsAccepted : Event → Prop
  | .submission attempt => attempt.outcome = .accepted
  | _ => False

/-- Every submission is of a copy that was complete. If one was accepted, it is what happened last, and its copy has
the identifier that is kept. -/
structure Desk.Sound (d : Desk σ) : Prop where
  complete : ∀ m ∈ d.log, ∀ attempt, m.event = .submission attempt → m.copy.Submittable attempt.data
  pending : d.copy.committed = none → ∀ m ∈ d.log, ¬ m.event.IsAccepted
  accepted : ∀ id, d.copy.committed = some id → ∃ before m attempt, d.log = before ++ [m] ∧
    m.event = .submission attempt ∧ attempt.outcome = .accepted ∧ m.copy.tx.idText = .ok id ∧
    ∀ m ∈ before, ¬ m.event.IsAccepted

namespace Desk.Sound

lemma initial (tx : SignedTx) (policy : RetryPolicy) (book : σ) : Desk.Sound ⟨.ofTx tx policy, book, []⟩ where
  complete _ hm := absurd hm List.not_mem_nil
  pending _ _ hm := absurd hm List.not_mem_nil
  accepted id hid := absurd hid (Option.some_ne_none id).symm

lemma congr (h : d.Sound) (hl : d'.log = d.log) (hc : d'.copy.committed = d.copy.committed) : d'.Sound where
  complete := hl ▸ h.complete
  pending := hl ▸ hc ▸ h.pending
  accepted := hl ▸ hc ▸ h.accepted

lemma quiet (h : d.Sound) (hq : d.Quiet d') : d'.Sound := h.congr hq.log hq.committed

lemma complete_concat {e : Event} (h : d.Sound)
    (hs : ∀ attempt, e = .submission attempt → d.copy.Submittable attempt.data) :
    ∀ m ∈ d.log ++ [⟨e, d.copy⟩], ∀ attempt, m.event = .submission attempt → m.copy.Submittable attempt.data := by
  intro m hm attempt ha
  rcases List.mem_append.1 hm with hm | hm
  · exact h.complete m hm attempt ha
  · obtain rfl := List.mem_singleton.1 hm
    exact hs attempt ha

lemma note {e : Event} (h : d.Sound) (hc : d.copy.committed = none) (he : ¬ e.IsAccepted)
    (hs : ∀ attempt, e = .submission attempt → d.copy.Submittable attempt.data)
    (hl : d'.log = d.log ++ [⟨e, d.copy⟩]) (hc' : d'.copy.committed = none) : d'.Sound where
  complete := hl ▸ h.complete_concat hs
  pending := by
    rw [hl]
    intro _ m hm
    rcases List.mem_append.1 hm with hm | hm
    · exact h.pending hc m hm
    · obtain rfl := List.mem_singleton.1 hm
      exact he
  accepted := by
    intro id hid
    rw [hc'] at hid
    cases hid

lemma pause {length : Decimal} (h : d.Sound) (hc : d.copy.committed = none) :
    Desk.Sound { d with log := d.log ++ [⟨.pause length, d.copy⟩] } :=
  h.note (e := .pause length) hc (fun ha => ha) (fun _ ha => nomatch ha) rfl hc

lemma fail {attempt : Submission} (h : d.Sound) (hc : d.copy.committed = none) (ha : attempt.outcome ≠ .accepted)
    (hs : d.copy.Submittable attempt.data) :
    Desk.Sound { d with log := d.log ++ [⟨.submission attempt, d.copy⟩] } := by
  refine h.note (e := .submission attempt) hc ha (fun attempt' ha' => ?_) rfl hc
  cases ha'
  exact hs

lemma accept {attempt : Submission} (h : d.Sound) (hc : d.copy.committed = none) (ha : attempt.outcome = .accepted)
    (hs : d.copy.Submittable attempt.data) (hid : d.copy.tx.idText = .ok id)
    (hl : d'.log = d.log ++ [⟨.submission attempt, d.copy⟩]) (hc' : d'.copy.committed = some id) : d'.Sound where
  complete := by
    rw [hl]
    refine h.complete_concat fun attempt' ha' => ?_
    cases ha'
    exact hs
  pending := by
    intro hn
    rw [hc'] at hn
    cases hn
  accepted := by
    intro id' hid'
    rw [hc'] at hid'
    obtain rfl := Option.some.inj hid'
    exact ⟨d.log, _, attempt, hl, rfl, ha, hid, h.pending hc⟩

lemma nothing_after {before after : List Moment} {m : Moment} (h : d.Sound) (hl : d.log = before ++ m :: after)
    (ha : m.event.IsAccepted) : after = [] := by
  have hm : m ∈ d.log := by
    rw [hl]
    exact List.mem_append_right _ List.mem_cons_self
  cases hc : d.copy.committed with
  | none => exact absurd ha (h.pending hc m hm)
  | some id =>
    -- Anything after the moment would put it among those before the last, none of which was accepted.
    obtain ⟨front, last, _, hf, _, _, _, hn⟩ := h.accepted id hc
    rcases List.eq_nil_or_concat after with rfl | ⟨rest, x, rfl⟩
    · rfl
    · have he : (before ++ m :: rest) ++ [x] = front ++ [last] := by
        rw [← hf, hl, List.concat_eq_append, List.append_assoc, List.cons_append]
      have hm : m ∈ front := by
        rw [← (List.append_inj' he rfl).1]
        exact List.mem_append_right _ List.mem_cons_self
      exact absurd ha (hn m hm)

end Desk.Sound

def SignResult.id? (x : SignResult) : Option String := if x.committed then some x.id else none

structure Delivers (id? : α → Option String) (p : Except Fault α × Desk σ) : Prop where
  sound : p.2.Sound
  committed : ∀ x id, p.1 = .ok x → id? x = some id → p.2.copy.committed = some id

namespace Delivers

variable {id? : α → Option String} {id?' : β → Option String}

lemma error {f : Fault} (h : d.Sound) : Delivers id? (.error f, d) := ⟨h, nofun⟩

lemma nothing {x : α} (h : d.Sound) (hx : id? x = none) : Delivers id? (.ok x, d) where
  sound := h
  committed y id hy hid := by
    obtain rfl := Except.ok.inj hy
    rw [hx] at hid
    cases hid

lemma kept {x : α} (h : d.Sound) (hx : id? x = d.copy.committed) : Delivers id? (.ok x, d) where
  sound := h
  committed y id hy hid := by
    obtain rfl := Except.ok.inj hy
    exact hx.symm.trans hid

lemma bind {s : Session σ α} {f : α → Session σ β} (h : d.Sound) (hs : s.IsQuiet)
    (hf : ∀ x d', s.runOn d = (.ok x, d') → d'.Sound → d.Quiet d' → Delivers id?' ((f x).runOn d')) :
    Delivers id?' ((s >>= f).runOn d) := by
  have hq := hs d
  rw [Session.runOn_bind]
  cases hr : s.runOn d with
  | mk x d' =>
    rw [hr] at hq
    cases x with
    | error e => exact error (h.quiet hq)
    | ok x => exact hf x d' hr (h.quiet hq) hq

lemma map {s : Session σ α} {f : α → β} (h : Delivers id? (s.runOn d)) (hf : ∀ x, id?' (f x) = id? x) :
    Delivers id?' ((s >>= fun x => pure (f x)).runOn d) := by
  rw [Session.runOn_bind]
  generalize s.runOn d = p at h ⊢
  obtain ⟨x, d'⟩ := p
  cases x with
  | error e => exact error h.sound
  | ok x =>
    refine ⟨h.sound, fun y id hy hid => ?_⟩
    obtain rfl := Except.ok.inj hy
    exact h.committed x id rfl (hf x ▸ hid)

end Delivers

namespace Session

lemma signers_filled {s : Signers} (h : (signers r).runOn d = (.ok s, d')) (hw : d.copy.tx.toBytes = .ok data)
    (hm : s.missing = []) :
    d.copy.tx.creds ≠ [] ∧ (∀ c ∈ d.copy.tx.creds, c.isFilled = true) ∧ d'.copy.Authorized := by
  obtain ⟨o, positions, keys, ho, hf, hp, hk, hc⟩ := signers_ok h
  obtain ⟨h2, hf⟩ := SignedTx.checkFunding_eq_ok.1 hf
  have h0 := SignedTx.nonneg_of_authorization hw hp
  obtain ⟨hl, hlt⟩ := length_of_keysAt h0 hk
  obtain ⟨t, ht, hg⟩ := SignedTx.type?_of_authorization hp
  have hne : d.copy.tx.creds ≠ [] := List.ne_nil_of_length_pos (by omega)
  refine ⟨hne, ?_, t, o, positions, ?_⟩
  · obtain ⟨last, he, hsigs⟩ := SignedTx.exists_trailing hne
    have hfilled := (SignedTx.missing_eq_nil hc).1 hm
    rw [hsigs] at hfilled
    rw [← he]
    intro c hmem
    rcases List.mem_append.1 hmem with hmem | hmem
    · exact hf c hmem
    · obtain rfl := List.mem_singleton.1 hmem
      exact List.all_eq_true.2 fun sig hs => decide_eq_true (hfilled sig hs)
  · rw [(signers_isQuiet.quiet h).tx]
    refine ⟨(SignedTx.authorization_eq_ok.1 hp).1, ht, hg, h2, ho, hp, fun p hmem => ⟨h0 p hmem, hlt p hmem⟩, ?_⟩
    rw [(SignedTx.compare_eq_ok.1 hc).1, hl]

lemma isReady_ok (h : (isReady r).runOn d = (.ok true, d')) (hw : d.copy.tx.toBytes = .ok data) :
    d'.copy.Submittable data := by
  have hq := isReady_isQuiet.quiet h
  obtain ⟨_, _, h₁, h⟩ := runOn_bind_ok.1 h
  cases h₁
  suffices hr : d.copy.tx.creds ≠ [] ∧ (∀ c ∈ d.copy.tx.creds, c.isFilled = true) ∧
      (d.copy.tx.unsigned.type? = some Chain.Platform.createSubnetTx ∨ d'.copy.Authorized) by
    obtain ⟨hc, hf, ha⟩ := hr
    rw [← hq.tx] at hc hf ha hw
    refine ⟨mapError_eq_ok.2 hw, SignedTx.ofBytes_eq_ok.2 ⟨rfl, hw⟩, hc, fun c hm sig hs => ?_, ha⟩
    exact of_decide_eq_true (List.all_eq_true.1 (hf c hm) sig hs)
  by_cases hn : d.copy.tx.needsAuthorization = true
  · rw [if_pos hn] at h
    obtain ⟨s, _, hs, h⟩ := runOn_bind_ok.1 h
    obtain ⟨he, rfl⟩ := runOn_pure_ok.1 h
    obtain ⟨hc, hf, ha⟩ := signers_filled hs hw (List.isEmpty_iff.1 he)
    exact ⟨hc, hf, .inr ha⟩
  · rw [if_neg hn] at h
    obtain ⟨he, rfl⟩ := runOn_pure_ok.1 h
    have hb := Bool.and_eq_true_iff.1 he
    have hf := SignedTx.missingFees_eq_nil.1 (List.isEmpty_iff.1 hb.2)
    rw [SignedTx.funding, if_neg hn] at hf
    refine ⟨fun hc => ?_, hf, .inl ?_⟩
    · rw [hc] at hb
      cases hb.1
    · simpa [SignedTx.needsAuthorization] using hn

lemma runOn_attempt (s : Submitter) (policy : RetryPolicy) (data : Bytes) (wait : Bool) (i : Nat) (d : Desk σ) :
    (attempt s policy data wait i).runOn d =
      let (outcome, took) := (s i).within policy.timeout
      (.ok outcome,
        { d with log := d.log ++ [⟨.submission ⟨data, policy.timeout, wait, outcome, took⟩, d.copy⟩] }) := rfl

lemma runOn_attempts (s : Submitter) (policy : RetryPolicy) (data : Bytes) (id : String) (wait : Bool) (more i : Nat)
    (d : Desk σ) : (attempts s policy data id wait more i).runOn d =
      let d' := if 0 < i then { d with log := d.log ++ [⟨.pause policy.backoff, d.copy⟩] } else d
      let (outcome, took) := (s i).within policy.timeout
      let d'' := { d' with log := d'.log ++ [⟨.submission ⟨data, policy.timeout, wait, outcome, took⟩, d'.copy⟩] }
      match outcome, more with
      | .accepted, _ => (.ok id, { d'' with copy := { d''.copy with committed := some id } })
      | last, 0 => (.error (.notSubmitted id last), d'')
      | _, more + 1 => (attempts s policy data id wait more (i + 1)).runOn d'' := by
  rcases hw : (s i).within policy.timeout with ⟨outcome, took⟩
  by_cases hi : 0 < i
  all_goals
    cases more
    all_goals
      rw [attempts]
      simp only [hi, if_true, if_false, runOn_bind, runOn_note, runOn_attempt, hw]
      cases outcome <;> rfl

lemma attempts_invariant {s : Submitter} {policy : RetryPolicy} {wait : Bool} {more i : Nat} {I : Desk σ → Prop}
    {P : Except Fault String × Desk σ → Prop}
    (pause : ∀ d, I d → I { d with log := d.log ++ [⟨.pause policy.backoff, d.copy⟩] })
    (fail : ∀ d attempt, I d → attempt.data = data → attempt.outcome ≠ .accepted →
      I { d with log := d.log ++ [⟨.submission attempt, d.copy⟩] })
    (accept : ∀ d attempt, I d → attempt.data = data → attempt.outcome = .accepted →
      P (.ok id, { d with
        copy := { d.copy with committed := some id }
        log := d.log ++ [⟨.submission attempt, d.copy⟩] }))
    (stop : ∀ d last, I d → P (.error (.notSubmitted id last), d)) (h : I d) :
    P ((attempts s policy data id wait more i).runOn d) := by
  have hpaused (i : Nat) (d : Desk σ) (h : I d) :
      I (if 0 < i then { d with log := d.log ++ [⟨.pause policy.backoff, d.copy⟩] } else d) := by
    split
    · exact pause d h
    · exact h
  induction more generalizing i d with
  | zero =>
    have hd := hpaused i d h
    rw [runOn_attempts]
    generalize (if 0 < i then _ else d) = d' at hd ⊢
    rcases (s i).within policy.timeout with ⟨outcome, took⟩
    cases outcome with
    | accepted => exact accept d' _ hd rfl rfl
    | refused => exact stop _ _ (fail d' _ hd rfl nofun)
    | raised cause => exact stop _ _ (fail d' _ hd rfl nofun)
    | timedOut cause => exact stop _ _ (fail d' _ hd rfl nofun)
  | succ more ih =>
    have hd := hpaused i d h
    rw [runOn_attempts]
    generalize (if 0 < i then _ else d) = d' at hd ⊢
    rcases (s i).within policy.timeout with ⟨outcome, took⟩
    cases outcome with
    | accepted => exact accept d' _ hd rfl rfl
    | refused => exact ih (fail d' _ hd rfl nofun)
    | raised cause => exact ih (fail d' _ hd rfl nofun)
    | timedOut cause => exact ih (fail d' _ hd rfl nofun)

lemma attempts_delivers {s : Submitter} {policy : RetryPolicy} {wait : Bool} {more i : Nat} (h : d.Sound)
    (hc : d.copy.committed = none) (hs : d.copy.Submittable data) (hid : d.copy.tx.idText = .ok id) :
    Delivers some ((attempts s policy data id wait more i).runOn d) := by
  refine attempts_invariant (I := fun d => d.Sound ∧ d.copy.committed = none ∧ d.copy.Submittable data ∧
    d.copy.tx.idText = .ok id) ?_ ?_ ?_ ?_ ⟨h, hc, hs, hid⟩
  · rintro d ⟨h, hc, hs⟩
    exact ⟨h.pause hc, hc, hs⟩
  · rintro d attempt ⟨h, hc, hs, hid⟩ rfl ha
    exact ⟨h.fail hc ha hs, hc, hs, hid⟩
  · rintro d attempt ⟨h, hc, hs, hid⟩ rfl ha
    exact .kept (h.accept hc ha hs hid rfl rfl) rfl
  · rintro d last ⟨h, _⟩
    exact .error h

lemma commit_delivers {s : Submitter} {wait : Bool} (h : d.Sound) : Delivers some ((commit r s wait).runOn d) := by
  rw [commit, runOn_bind, runOn_copy]
  dsimp only
  cases hc : d.copy.committed with
  | some id => exact .kept h hc.symm
  | none =>
    refine .bind h isReady_isQuiet fun ready d' hr hd hq => ?_
    cases ready with
    | false => exact .error hd
    | true =>
      refine .bind hd .copy fun m d'' hm hd hq' => ?_
      cases hm
      refine .bind hd (.lift _) fun data d'' hb hd _ => ?_
      obtain ⟨hw, rfl⟩ := runOn_lift_ok.1 hb
      refine .bind hd .tx fun t d'' ht hd _ => ?_
      cases ht
      refine .bind hd (.lift _) fun id d'' hi hd _ => ?_
      obtain ⟨hid, rfl⟩ := runOn_lift_ok.1 hi
      refine .bind hd .copy fun m d'' hm hd _ => ?_
      cases hm
      have hs := isReady_ok hr (hq.tx ▸ mapError_eq_ok.1 hw)
      exact attempts_delivers hd (hq.committed.trans hc) hs (mapError_eq_ok.1 hid)

lemma signSlots_sound {k : Signatory} {slot : Nat} {keys : List Bytes} (h : d.Sound) (hc : d.copy.committed = none) :
    ((signSlots k slot keys).runOn d).2.Sound ∧ ((signSlots k slot keys).runOn d).2.copy.committed = none := by
  induction keys generalizing slot d with
  | nil => exact ⟨h, hc⟩
  | cons key keys ih =>
    rw [runOn_signSlots_cons]
    split
    · rw [runOn_bind, runOn_signSlot]
      have hs : ∀ tx, Desk.Sound { d with
          copy := { d.copy with tx }
          log := d.log ++ [⟨.signing slot key, d.copy⟩] } := fun tx =>
        h.note (e := .signing slot key) hc (fun ha => ha) (fun _ ha => nomatch ha) rfl hc
      dsimp only
      cases (k.sign d.copy.tx slot key).failure with
      | some f => exact ⟨hs _, hc⟩
      | none => exact ih (hs _) hc
    · exact ih h hc

lemma finish_delivers {o : SignOptions} {s : Option Submitter} (h : d.Sound) :
    Delivers SignResult.id? ((finish r o s).runOn d) := by
  have hlast : Delivers SignResult.id?
      ((tx >>= fun t => liftM (t.idText.mapError Fault.wire) >>= fun id => pure ⟨true, false, id⟩ :
        Session σ SignResult).runOn d) := by
    refine .bind h .tx fun t d' _ hd _ => ?_
    exact .bind hd (.lift _) fun id d' _ hd _ => .nothing hd rfl
  obtain ⟨checkFirst, commitIfReady, wait⟩ := o
  cases commitIfReady with
  | false => exact hlast
  | true =>
    cases s with
    | none => exact hlast
    | some s => exact .map (commit_delivers h) fun _ => rfl

lemma sign_delivers {k : Signatory} {o : SignOptions} {s : Option Submitter} (h : d.Sound) :
    Delivers SignResult.id? ((sign r k o s).runOn d) := by
  have hunready (d' : Desk σ) (hd : d'.Sound) :
      Delivers SignResult.id? ((pure ⟨false, false, ""⟩ : Session σ SignResult).runOn d') := .nothing hd rfl
  rw [sign, runOn_bind, runOn_copy]
  dsimp only
  cases hc : d.copy.committed with
  | some id => exact .kept h hc.symm
  | none =>
    dsimp only
    split
    · exact .error h
    refine .bind h .tx fun t d' ht _ _ => ?_
    cases ht
    split
    · refine .bind h signers_isQuiet fun before d' _ hd hq => ?_
      split
      · exact .error hd
      have hs : ((signSlots k 0 before.required).runOn d').2.Sound ∧ _ := signSlots_sound hd (hq.committed.trans hc)
      rw [runOn_bind]
      generalize (signSlots k 0 before.required).runOn d' = p at hs ⊢
      obtain ⟨x, d''⟩ := p
      cases x with
      | error f => exact .error hs.1
      | ok _ =>
        refine .bind hs.1 signers_isQuiet fun after d'' _ hd _ => ?_
        split
        · exact finish_delivers hd
        · exact hunready d'' hd
    · refine .bind h isReady_isQuiet fun ready d' _ hd _ => ?_
      split
      · exact finish_delivers hd
      · exact hunready d' hd

end Session

inductive Request
  | sign (k : Signatory) (o : SignOptions) (s : Option Submitter)
  | commit (s : Submitter) (wait : Bool)
  | merge (other : Draft)

namespace Request

def perform (r : Resolver σ) : Request → Session σ (Option String)
  | sign k o s => return (← Session.sign r k o s).id?
  | commit s wait => return some (← Session.commit r s wait)
  | merge other => do
    let (m, _) ← (← Session.copy).merge other
    Session.update fun _ => m
    return none

def run (r : Resolver σ) (requests : List Request) (d : Desk σ) : Desk σ :=
  requests.foldl (fun d request => ((request.perform r).runOn d).2) d

lemma perform_delivers (request : Request) (h : d.Sound) : Delivers (fun id? => id?) ((request.perform r).runOn d) := by
  cases request with
  | sign k o s => exact .map (Session.sign_delivers h) fun _ => rfl
  | commit s wait => exact .map (Session.commit_delivers h) fun _ => rfl
  | merge other =>
    refine .bind h .copy fun m d' hm hd _ => ?_
    cases hm
    refine .bind hd (.lift _) fun x d' hx hd _ => ?_
    obtain ⟨hx', rfl⟩ := Session.runOn_lift_ok.1 hx
    obtain ⟨tx, _, he⟩ := merge_eq_ok.1 hx'
    exact .nothing (hd.congr rfl (congrArg Draft.committed he).symm) rfl

theorem run_sound (requests : List Request) (h : d.Sound) : (run r requests d).Sound := by
  induction requests generalizing d with
  | nil => exact h
  | cons request requests ih => exact ih (request.perform_delivers h).sound

end Request

/-- Whatever is asked of a copy, in any order and with any failures: the bytes that are submitted are those of the copy,
with no signature missing; nothing happens to it once it was accepted; and the identifier that is returned then is the
one of the bytes that were accepted. -/
theorem submissions_complete (r : Resolver σ) (tx : SignedTx) (policy : RetryPolicy) (book : σ)
    (requests : List Request) :
    let d := Request.run r requests ⟨.ofTx tx policy, book, []⟩
    (∀ m ∈ d.log, ∀ attempt, m.event = .submission attempt → m.copy.Submittable attempt.data) ∧
    (∀ before m after, d.log = before ++ m :: after → m.event.IsAccepted → after = []) ∧
    ∀ (request : Request) d' id, (request.perform r).runOn d = (.ok (some id), d') →
      ∃ m ∈ d'.log, ∃ attempt, m.event = .submission attempt ∧ attempt.outcome = .accepted ∧
        m.copy.tx.idText = .ok id ∧ id = Ident.encode (sha256 attempt.data) := by
  intro d
  have hd : d.Sound := Request.run_sound requests (.initial tx policy book)
  refine ⟨hd.complete, fun before m after => hd.nothing_after, ?_⟩
  intro request d' id h
  have hp := request.perform_delivers (r := r) hd
  rw [h] at hp
  obtain ⟨before, m, attempt, hl, he, ha, hid, _⟩ := hp.sound.accepted id (hp.committed _ id rfl rfl)
  have hm : m ∈ d'.log := by
    rw [hl]
    exact List.mem_append_right _ (List.mem_singleton_self m)
  have hw := mapError_eq_ok.1 (hp.sound.complete m hm attempt he).bytes
  exact ⟨m, hm, attempt, he, ha, hid, Except.ok.inj (hid.symm.trans (SignedTx.idText_eq_ok hw))⟩

def creation : SignedTx where
  chain := .platform
  unsigned := .record Chain.Platform.createSubnetTx
    [.record Chain.Component.baseTx [.int 1, .bytes (Bytes.zeros 32), .list [], .list [], .bytes []],
      .record Chain.Secp.outputOwners [.int 0, .int 1, .list [.bytes (Bytes.zeros 20)]]]
  creds := [⟨.secp, [List.replicate signatureSize 1]⟩]

example :
    let s : Submitter := fun i => ⟨some 1, if i = 0 then .refused else .accepted⟩
    let d := Request.run (fun _ b => (.error .noSubmitter, b)) [.commit s true, .commit s true]
      ⟨.ofTx creation .standard, (), []⟩
    d.log.map (fun m => match m.event with | .submission a => some a.outcome | _ => none) =
      [some .refused, none, some .accepted] := by
  decide +kernel

end Countersign.Draft
