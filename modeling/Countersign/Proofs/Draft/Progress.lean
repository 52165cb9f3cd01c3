import Countersign.Proofs.Draft.Growth
import Countersign.Proofs.Draft.Requests
import Countersign.Proofs.Draft.Submission

namespace Countersign.Draft

open Wire

variable {σ τ α β : Type} {d d' : Desk σ} {m m' m'' : Draft} {r : Resolver σ} {p : Phase} {id : String}

structure Settled (m : Draft) (id : String) : Prop where
  filled : m.tx.isFilled = true
  idText : m.tx.idText = .ok id

structure Advances (m m' : Draft) : Prop where
  tx : m.tx.Grows m'.tx
  snapshot : ∀ o, m.snapshot = some o → m'.snapshot = some o
  committed : ∀ id, m.committed = some id → m'.committed = some id
  accepted : ∀ id, m'.committed = some id → m.committed = some id ∨ m'.Settled id

lemma Settled.grows (h : m.Settled id) (hg : m.tx.Grows m'.tx) : m'.tx = m.tx ∧ m'.Settled id := by
  have he := hg.eq_of_filled h.filled
  refine ⟨he, ?_, ?_⟩
  · rw [he]
    exact h.filled
  · rw [he]
    exact h.idText

namespace Advances

lemma ofGrows {tx : SignedTx} (h : m.tx.Grows tx) : m.Advances { m with tx } :=
  ⟨h, fun _ h => h, fun _ h => h, fun _ h => .inl h⟩

lemma refl (m : Draft) : m.Advances m := .ofGrows (.refl m.tx)

lemma trans (h : m.Advances m') (h' : m'.Advances m'') : m.Advances m'' where
  tx := h.tx.trans h'.tx
  snapshot o ho := h'.snapshot o (h.snapshot o ho)
  committed id hid := h'.committed id (h.committed id hid)
  accepted id hid := by
    rcases h'.accepted id hid with hid | hs
    · rcases h.accepted id hid with hid | hs
      · exact .inl hid
      · exact .inr (hs.grows h'.tx).2
    · exact .inr hs

lemma ofQuiet (h : d.Quiet d') : d.copy.Advances d'.copy where
  tx := h.tx ▸ .refl _
  snapshot := h.snapshot
  committed _ hid := h.committed.trans hid
  accepted _ hid := .inl (h.committed.symm.trans hid)

lemma accept (hc : m.committed = none) (hs : m.Settled id) : m.Advances { m with committed := some id } where
  tx := .refl _
  snapshot _ h := h
  committed id' h := by
    rw [hc] at h
    cases h
  accepted id' h := by
    obtain rfl := Option.some.inj h
    exact .inr ⟨hs.filled, hs.idText⟩

end Advances

lemma Submittable.isFilled {data : Bytes} (h : m.Submittable data) : m.tx.isFilled = true :=
  List.all_eq_true.2 fun c hc => List.all_eq_true.2 fun sig hs => decide_eq_true (h.filled c hc sig hs)

namespace Session

variable {s : Session σ α} {f : α → Session σ β}

lemma advances_bind (hs : d.copy.Advances (s.runOn d).2.copy)
    (hf : ∀ x d', s.runOn d = (.ok x, d') → d'.copy.Advances ((f x).runOn d').2.copy) :
    d.copy.Advances ((s >>= f).runOn d).2.copy := by
  rw [runOn_bind]
  cases hr : s.runOn d with
  | mk x d' =>
    rw [hr] at hs
    cases x with
    | error e => exact hs
    | ok x => exact hs.trans (hf x d' hr)

def IsForward (s : Session σ α) : Prop := ∀ d : Desk σ, d.copy.Advances (s.runOn d).2.copy

lemma IsQuiet.isForward (h : s.IsQuiet) : s.IsForward := fun d => .ofQuiet (h d)

lemma IsForward.bind (hs : s.IsForward) (hf : ∀ x, (f x).IsForward) : (s >>= f).IsForward :=
  fun d => advances_bind (hs d) fun x d' _ => hf x d'

lemma signSlot_advances {k : Signatory} {slot : Nat} (signer : Bytes) (h : d.copy.tx.lacks slot = true) :
    d.copy.Advances ((signSlot k slot signer).runOn d).2.copy := by
  rw [runOn_signSlot]
  cases hw : (k.sign d.copy.tx slot signer).written with
  | none => simpa only [hw] using .refl d.copy
  | some sig => simpa only [hw] using .ofGrows (.setTrailing h sig)

lemma signSlots_isForward {k : Signatory} {slot : Nat} {keys : List Bytes} :
    (signSlots k slot keys : Session σ Unit).IsForward := by
  intro d
  induction keys generalizing slot d with
  | nil => exact .refl d.copy
  | cons key keys ih =>
    rw [runOn_signSlots_cons]
    split
    · rename_i h
      exact advances_bind (signSlot_advances key (Bool.and_eq_true_iff.1 h).1) fun _ d' _ => ih d'
    · exact ih d

lemma attempts_advances {s : Submitter} {policy : RetryPolicy} {data : Bytes} {wait : Bool} {more i : Nat}
    (hc : d.copy.committed = none) (hs : d.copy.Settled id) :
    d.copy.Advances ((attempts s policy data id wait more i).runOn d).2.copy := by
  -- The copy itself stays as it is until the attempts end.
  refine attempts_invariant (I := fun d' => d'.copy = d.copy) (P := fun p => d.copy.Advances p.2.copy) ?_ ?_ ?_ ?_ rfl
  · exact fun d' h => h
  · exact fun d' attempt h _ _ => h
  · intro d' attempt h _ _
    dsimp only
    rw [h]
    exact .accept hc hs
  · intro d' last h
    dsimp only
    rw [h]
    exact .refl d.copy

lemma commit_isForward {s : Submitter} {wait : Bool} : (commit r s wait).IsForward := by
  intro d
  rw [commit]
  refine advances_bind (.refl _) fun m d' hm => ?_
  cases hm
  cases hc : d.copy.committed with
  | some id => exact .refl _
  | none =>
    dsimp only
    refine advances_bind (isReady_isQuiet.isForward d) fun ready d' hr => ?_
    cases ready with
    | false => exact .refl _
    | true =>
      refine advances_bind (.refl _) fun m d'' hm => ?_
      cases hm
      refine advances_bind (.refl _) fun data d'' hw => ?_
      obtain ⟨hb, rfl⟩ := runOn_lift_ok.1 hw
      refine advances_bind (.refl _) fun t d'' ht => ?_
      cases ht
      refine advances_bind (.refl _) fun id d'' hi => ?_
      obtain ⟨hid, rfl⟩ := runOn_lift_ok.1 hi
      refine advances_bind (.refl _) fun m d'' hm => ?_
      cases hm
      have hq := isReady_isQuiet.quiet hr
      have hs := isReady_ok hr (hq.tx ▸ mapError_eq_ok.1 hb)
      exact attempts_advances (hq.committed.trans hc) ⟨hs.isFilled, mapError_eq_ok.1 hid⟩

lemma finish_isForward {o : SignOptions} {s : Option Submitter} : (finish r o s).IsForward := by
  have hlast : (tx >>= fun t => liftM (t.idText.mapError Fault.wire) >>= fun id => pure ⟨true, false, id⟩ :
      Session σ SignResult).IsForward :=
    IsQuiet.isForward (.bind .tx fun _ => .bind (.lift _) fun _ => .pure _)
  obtain ⟨checkFirst, commitIfReady, wait⟩ := o
  cases commitIfReady with
  | false => exact hlast
  | true =>
    cases s with
    | none => exact hlast
    | some s => exact .bind commit_isForward fun _ => IsQuiet.isForward (.pure _)

lemma sign_isForward {k : Signatory} {o : SignOptions} {s : Option Submitter} : (sign r k o s).IsForward := by
  have hunready : (pure ⟨false, false, ""⟩ : Session σ SignResult).IsForward := IsQuiet.isForward (.pure _)
  rw [sign]
  refine .bind (IsQuiet.isForward .copy) fun m => ?_
  split
  · exact IsQuiet.isForward (.pure _)
  · split
    · exact IsQuiet.isForward (.throw _)
    · refine .bind (IsQuiet.isForward .tx) fun t => ?_
      split
      · refine .bind signers_isQuiet.isForward fun before => ?_
        split
        · exact IsQuiet.isForward (.throw _)
        · refine .bind signSlots_isForward fun _ => .bind signers_isQuiet.isForward fun after => ?_
          split
          · exact finish_isForward
          · exact hunready
      · refine .bind isReady_isQuiet.isForward fun ready => ?_
        split
        · exact finish_isForward
        · exact hunready

end Session

lemma Request.perform_isForward (q : Request) : (q.perform r).IsForward := by
  cases q with
  | sign k o s => exact .bind Session.sign_isForward fun _ => Session.IsQuiet.isForward (.pure _)
  | commit s wait => exact .bind Session.commit_isForward fun _ => Session.IsQuiet.isForward (.pure _)
  | merge other =>
    intro d
    refine Session.advances_bind (.refl _) fun m d' hm => ?_
    cases hm
    refine Session.advances_bind (.refl _) fun x d' hx => ?_
    obtain ⟨hm, rfl⟩ := Session.runOn_lift_ok.1 hx
    obtain ⟨tx, hj, he⟩ := merge_eq_ok.1 hm
    rw [Session.runOn_bind, Session.runOn_update, ← he]
    exact .ofGrows (SignedTx.merge_grows hj).1

inductive Query
  | owners | authSigners | signers | ready | phase
  | reading (answer : Draft → Except Fault Unit)

def Query.perform (r : Resolver σ) : Query → Session σ Unit
  | owners => do let _ ← Session.owners r
  | authSigners => do let _ ← Session.authSigners r
  | signers => do let _ ← Session.signers r
  | ready => do let _ ← Session.isReady r
  | phase => do let _ ← Session.phase r
  | reading answer => do answer (← Session.copy)

lemma Query.perform_isQuiet (q : Query) : (q.perform r).IsQuiet := by
  cases q with
  | owners => exact .bind Session.owners_isQuiet fun _ => .pure _
  | authSigners => exact .bind Session.authSigners_isQuiet fun _ => .pure _
  | signers => exact .bind Session.signers_isQuiet fun _ => .pure _
  | ready => exact .bind Session.isReady_isQuiet fun _ => .pure _
  | phase => exact .bind Session.phase_isQuiet fun _ => .pure _
  | reading answer => exact .bind .copy fun _ => .lift _

inductive Call (σ : Type)
  | request (q : Request)
  | query (q : Query)
  | elsewhere (change : σ → σ)

namespace Call

def perform (r : Resolver σ) : Call σ → Session σ Unit
  | .request q => do let _ ← q.perform r
  | .query q => q.perform r
  | .elsewhere change => modify fun d => { d with book := change d.book }

def run (r : Resolver σ) (calls : List (Call σ)) (d : Desk σ) : Desk σ :=
  calls.foldl (fun d call => ((call.perform r).runOn d).2) d

lemma perform_isForward (call : Call σ) : (call.perform r).IsForward := by
  cases call with
  | request q => exact .bind q.perform_isForward fun _ => Session.IsQuiet.isForward (.pure _)
  | query q => exact q.perform_isQuiet.isForward
  | elsewhere change => exact fun d => .refl d.copy

theorem run_advances (calls : List (Call σ)) (d : Desk σ) : d.copy.Advances (run r calls d).copy := by
  induction calls generalizing d with
  | nil => exact .refl d.copy
  | cons call calls ih => exact (call.perform_isForward d).trans (ih _)

end Call

inductive Shows (m : Draft) (p : Phase) : Prop
  | accepted {id : String} (hc : m.committed = some id) (hp : p = .committed)
  | told {o : Ownership} {s : Signers} (hc : m.committed = none) (hn : m.tx.needsAuthorization = true)
      (ho : m.snapshot = some o) (hs : m.tx.signersFor (.ok o) = .ok s) (hp : p = s.phase)
  | paid (hc : m.committed = none) (hn : m.tx.needsAuthorization = false) (hp : p = m.tx.paidPhase)

namespace Shows

lemma answer (h : d.copy.Shows p) (r : Resolver σ) : ((Session.phase r).runOn d).1 = .ok p := by
  rw [Session.phase_answer, SignedTx.phaseFor]
  cases h with
  | accepted hc hp => rw [hc, hp]; rfl
  | told hc hn ho hs hp => rw [hc, if_pos hn, Session.told_of_snapshot ho, hs, hp]; rfl
  | paid hc hn hp => rw [hc, hn, hp]; rfl

lemma advances (h : m.Shows p) (ha : m.Advances m') : ∃ q, m'.Shows q ∧ p.rank ≤ q.rank := by
  cases hc' : m'.committed with
  | some id => exact ⟨.committed, .accepted hc' rfl, by cases p <;> decide⟩
  | none =>
    cases h with
    | accepted hc hp =>
      rw [ha.committed _ hc] at hc'
      cases hc'
    | told hc hn ho hs hp =>
      obtain ⟨s', hs', hr, hm⟩ := ha.tx.signersFor hs
      refine ⟨s'.phase, .told hc' (ha.tx.needsAuthorization.trans hn) (ha.snapshot _ ho) hs' rfl, ?_⟩
      rw [hp]
      exact Signers.phase_le hr hm
    | paid hc hn hp =>
      refine ⟨_, .paid hc' (ha.tx.needsAuthorization.trans hn) rfl, ?_⟩
      rw [hp]
      exact ha.tx.paidPhase

end Shows

lemma Session.phase_shows (h : (phase r).runOn d = (.ok p, d')) : d'.copy.Shows p := by
  rw [runOn_phase] at h
  cases hc : d.copy.committed with
  | some id =>
    rw [hc] at h
    cases h
    exact .accepted hc rfl
  | none =>
    rw [hc] at h
    cases hn : d.copy.tx.needsAuthorization with
    | false =>
      rw [hn] at h
      cases h
      exact .paid hc hn rfl
    | true =>
      rw [hn] at h
      cases hs : (signers r).runOn d with
      | mk x d'' =>
        rw [hs] at h
        cases x with
        | error e => cases h
        | ok s =>
          cases h
          have hq := signers_isQuiet.quiet hs
          obtain ⟨o, ho, hk⟩ := signers_known hs
          exact .told (hq.committed.trans hc) (hq.tx ▸ hn) ho hk rfl

lemma Session.committed_of_phase (h : ((phase r).runOn d).1 = .ok .committed) : ∃ id, d.copy.committed = some id := by
  cases hp : (phase r).runOn d with
  | mk x d' =>
    rw [hp] at h
    obtain rfl : x = .ok .committed := h
    have hq := phase_isQuiet.quiet hp
    cases phase_shows hp with
    | accepted hc => exact ⟨_, hq.committed.symm.trans hc⟩
    | told hc hn ho hs hp => exact absurd hp.symm (Signers.phase_ne_committed _)
    | paid hc hn hp => exact absurd hp.symm (SignedTx.paidPhase_ne_committed _)

structure Desk.Closed (r : Resolver σ) (d : Desk σ) (id : String) (data : Bytes) : Prop where
  committed : d.copy.committed = some id
  bytes : d.copy.toBytes = .ok data
  idText : d.copy.tx.idText = .ok id
  commit : ∀ s wait, (Session.commit r s wait).runOn d = (.ok id, d)
  sign : ∀ k o s, (Session.sign r k o s).runOn d = (.ok ⟨true, true, id⟩, d)
  merge : ∀ other m n, d.copy.merge other = .ok (m, n) → n = 0 ∧ m = d.copy

lemma Settled.closed (h : d.copy.Settled id) (hc : d.copy.committed = some id) (r : Resolver σ) {data : Bytes}
    (hw : d.copy.toBytes = .ok data) : d.Closed r id data where
  committed := hc
  bytes := hw
  idText := h.idText
  commit s wait := Session.runOn_commit_of_committed r s wait hc
  sign k o s := Session.runOn_sign_of_committed r k o s hc
  merge other m n hm := by
    obtain ⟨tx, hj, rfl⟩ := merge_eq_ok.1 hm
    obtain ⟨hg, rfl⟩ := SignedTx.merge_grows hj
    obtain rfl := hg.eq_of_filled h.filled
    exact ⟨changedSlots_self _, rfl⟩

/-- Whatever is asked of a copy, and whoever is asked about its owner later: no slot that is filled changes, the phase
that was told once is not told as an earlier one again, and once it is that of an accepted copy nothing changes. -/
theorem moves_forward (r : Resolver σ) (d : Desk σ) :
    (∀ calls, d.copy.tx.Grows (Call.run r calls d).copy.tx) ∧
    (∀ p d', (Session.phase r).runOn d = (.ok p, d') → ∀ calls {τ : Type} (r' : Resolver τ) book log, ∃ q,
      ((Session.phase r').runOn ⟨(Call.run r calls d').copy, book, log⟩).1 = .ok q ∧ p.rank ≤ q.rank) ∧
    (d.copy.committed = none → ∀ before, ((Session.phase r).runOn (Call.run r before d)).1 = .ok .committed →
      ∃ id data, ∀ after, (Call.run r after (Call.run r before d)).Closed r id data) := by
  refine ⟨fun calls => (Call.run_advances calls d).tx, ?_, ?_⟩
  · intro p d' hp calls τ r' book log
    obtain ⟨q, hq, hle⟩ := (Session.phase_shows hp).advances (Call.run_advances (r := r) calls d')
    exact ⟨q, hq.answer (d := ⟨_, book, log⟩) r', hle⟩
  · intro hn before hp
    obtain ⟨id, hc⟩ := Session.committed_of_phase hp
    have hs : (Call.run r before d).copy.Settled id := by
      refine ((Call.run_advances before d).accepted id hc).resolve_left fun h => ?_
      rw [hn] at h
      cases h
    obtain ⟨_, hi, _⟩ := map_eq_ok.1 hs.idText
    obtain ⟨data, hw, _⟩ := map_eq_ok.1 hi
    refine ⟨id, data, fun after => ?_⟩
    have ha := Call.run_advances (r := r) after (Call.run r before d)
    obtain ⟨he, hs'⟩ := hs.grows ha.tx
    refine hs'.closed (ha.committed id hc) r (mapError_eq_ok.2 ?_)
    rw [he, hw]

theorem creation_moves_forward :
    let r : Resolver Unit := fun _ b => (.error .noSubmitter, b)
    let d : Desk Unit := ⟨.ofTx creation .standard, (), []⟩
    let accepted := Call.run r [.query .phase, .request (.commit (fun _ => ⟨some 1, .accepted⟩) true)] d
    ((Session.phase r).runOn accepted).1 = .ok .committed ∧
      ∃ id data, ∀ after, (Call.run r after accepted).Closed r id data := by
  intro r d accepted
  have hp : ((Session.phase r).runOn accepted).1 = .ok .committed := by decide +kernel
  exact ⟨hp, (moves_forward r d).2.2 rfl _ hp⟩

end Countersign.Draft
