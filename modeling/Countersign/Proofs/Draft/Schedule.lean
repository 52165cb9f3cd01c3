import Countersign.Proofs.Draft.Requests
import Countersign.Proofs.Draft.Submission

namespace Countersign

lemma intersperse_cons_eq_flatMap {α : Type} (sep a : α) (as : List α) :
    (a :: as).intersperse sep = a :: as.flatMap fun b => [sep, b] := by
  induction as generalizing a with
  | nil => rfl
  | cons b as ih =>
    rw [List.intersperse_cons_cons, ih]
    rfl

namespace Draft

open Digest

variable {σ : Type} {d d' : Desk σ} {r : Resolver σ} {s : Submitter} {policy : RetryPolicy} {data : Bytes} {wait : Bool}
  {timeout : Decimal} {reply : Reply}

def Reply.Arrives (timeout : Decimal) (reply : Reply) : Prop := ∃ t, reply.after = some t ∧ t < timeout

def Reply.IsAccepted (timeout : Decimal) (reply : Reply) : Prop := reply.Arrives timeout ∧ reply.verdict = .accepted

def Verdict.cause? : Verdict → Option Cause
  | raised cause => some cause
  | tooSlow text => some (.tooSlow text)
  | _ => none

structure Outcome.Tells (timeout : Decimal) (reply : Reply) (o : Outcome) : Prop where
  isTimeout : o.isTimeout = true ↔ ¬ reply.Arrives timeout ∨ ∃ text, reply.verdict = .tooSlow text
  cause : reply.Arrives timeout → o.cause? = reply.verdict.cause?
  overrun : ¬ reply.Arrives timeout → o.cause? = none

namespace Reply

lemma within_of_arrives (h : reply.Arrives timeout) : (reply.within timeout).1 = reply.verdict.outcome := by
  obtain ⟨t, ha, ht⟩ := h
  rw [within, ha]
  exact congrArg Prod.fst (if_pos ht)

lemma within_of_not_arrives (h : ¬ reply.Arrives timeout) : (reply.within timeout).1 = .timedOut none := by
  rw [within]
  cases ha : reply.after with
  | none => rfl
  | some t => exact congrArg Prod.fst (if_neg fun ht => h ⟨t, ha, ht⟩)

lemma within_eq_accepted : (reply.within timeout).1 = .accepted ↔ reply.IsAccepted timeout := by
  by_cases h : reply.Arrives timeout
  · rw [within_of_arrives h, IsAccepted, and_iff_right h]
    cases reply.verdict <;> simp [Verdict.outcome]
  · rw [within_of_not_arrives h]
    exact ⟨nofun, fun ha => absurd ha.1 h⟩

lemma within_tells (timeout : Decimal) (reply : Reply) : (reply.within timeout).1.Tells timeout reply where
  isTimeout := by
    by_cases h : reply.Arrives timeout
    · rw [within_of_arrives h]
      cases reply.verdict <;> simp [Verdict.outcome, Outcome.isTimeout, h]
    · rw [within_of_not_arrives h]
      exact iff_of_true rfl (.inl h)
  cause h := by
    rw [within_of_arrives h]
    cases reply.verdict <;> rfl
  overrun h := by rw [within_of_not_arrives h]; rfl

end Reply

def submission (s : Submitter) (policy : RetryPolicy) (data : Bytes) (wait : Bool) (i : Nat) : Event :=
  .submission ⟨data, policy.timeout, wait, ((s i).within policy.timeout).1, ((s i).within policy.timeout).2⟩

def schedule (s : Submitter) (policy : RetryPolicy) (data : Bytes) (wait : Bool) (attempts : Nat) : List Event :=
  ((List.range attempts).map (submission s policy data wait)).intersperse (.pause policy.backoff)

def turn (s : Submitter) (policy : RetryPolicy) (data : Bytes) (wait : Bool) (i : Nat) : List Event :=
  (if 0 < i then [.pause policy.backoff] else []) ++ [submission s policy data wait i]

lemma flatMap_turn (n : Nat) :
    (List.range n).flatMap (turn s policy data wait) = schedule s policy data wait n := by
  cases n with
  | zero => rfl
  | succ n =>
    rw [schedule, List.range_succ_eq_map, List.map_cons, intersperse_cons_eq_flatMap, List.flatMap_cons, List.map_map,
      List.flatMap_map, List.flatMap_map]
    rfl

def Desk.noted (d : Desk σ) (events : List Event) : Desk σ := { d with log := d.log ++ events.map (⟨·, d.copy⟩) }

lemma Desk.noted_noted (d : Desk σ) (es es' : List Event) : (d.noted es).noted es' = d.noted (es ++ es') := by
  simp [noted]

def Desk.accepted (d : Desk σ) (id : String) : Desk σ := { d with copy := { d.copy with committed := some id } }

namespace Session

variable {id : String} {more i : Nat}

lemma runOn_attempts_of_accepted (h : (s i).IsAccepted policy.timeout) :
    (attempts s policy data id wait more i).runOn d = (.ok id, (d.noted (turn s policy data wait i)).accepted id) := by
  have ha := Reply.within_eq_accepted.2 h
  rw [runOn_attempts, turn, submission]
  generalize (s i).within policy.timeout = p at ha ⊢
  obtain ⟨outcome, took⟩ := p
  obtain rfl : outcome = .accepted := ha
  split <;> simp [Desk.noted, Desk.accepted]

lemma runOn_attempts_of_not_accepted (h : ¬ (s i).IsAccepted policy.timeout) :
    (attempts s policy data id wait more i).runOn d =
      match more with
      | 0 => (.error (.notSubmitted id ((s i).within policy.timeout).1), d.noted (turn s policy data wait i))
      | more + 1 => (attempts s policy data id wait more (i + 1)).runOn (d.noted (turn s policy data wait i)) := by
  have hn : ((s i).within policy.timeout).1 ≠ .accepted := fun ha => h (Reply.within_eq_accepted.1 ha)
  have hd : d.noted (turn s policy data wait i) = { d with log := (if 0 < i then
      { d with log := d.log ++ [⟨.pause policy.backoff, d.copy⟩] } else d).log ++
        [⟨submission s policy data wait i, d.copy⟩] } := by
    rw [turn]
    split <;> simp [Desk.noted]
  rw [runOn_attempts, hd, submission]
  generalize (s i).within policy.timeout = p at hn ⊢
  obtain ⟨outcome, took⟩ := p
  cases outcome with
  | accepted => exact absurd rfl hn
  | refused => cases more <;> split <;> rfl
  | raised cause => cases more <;> split <;> rfl
  | timedOut cause => cases more <;> split <;> rfl

lemma attempts_end (s : Submitter) (policy : RetryPolicy) (data : Bytes) (id : String) (wait : Bool) (more i : Nat)
    (d : Desk σ) :
    (∃ j < more + 1, (s (i + j)).IsAccepted policy.timeout ∧ (∀ k < j, ¬ (s (i + k)).IsAccepted policy.timeout) ∧
      (attempts s policy data id wait more i).runOn d =
        (.ok id, (d.noted ((List.range' i (j + 1)).flatMap (turn s policy data wait))).accepted id)) ∨
    (∀ k < more + 1, ¬ (s (i + k)).IsAccepted policy.timeout) ∧ (attempts s policy data id wait more i).runOn d =
      (.error (.notSubmitted id ((s (i + more)).within policy.timeout).1),
        d.noted ((List.range' i (more + 1)).flatMap (turn s policy data wait))) := by
  -- What was noted so far moves into the desk, so that what is left is a schedule from the next number on.
  induction more generalizing i d with
  | zero =>
    by_cases h : (s i).IsAccepted policy.timeout
    · refine .inl ⟨0, Nat.one_pos, h, nofun, ?_⟩
      simp [runOn_attempts_of_accepted h]
    · refine .inr ⟨Nat.forall_lt_succ_left.2 ⟨h, nofun⟩, ?_⟩
      simp [runOn_attempts_of_not_accepted h]
  | succ more ih =>
    by_cases h : (s i).IsAccepted policy.timeout
    · refine .inl ⟨0, Nat.succ_pos _, h, nofun, ?_⟩
      simp [runOn_attempts_of_accepted h]
    · have ih := ih (i + 1) (d.noted (turn s policy data wait i))
      simp only [Nat.add_right_comm i 1, Desk.noted_noted, ← List.flatMap_cons, ← List.range'_succ] at ih
      rw [runOn_attempts_of_not_accepted h]
      dsimp only
      rcases ih with ⟨j, hj, ha, hn, hr⟩ | ⟨hn, hr⟩
      · exact .inl ⟨j + 1, Nat.succ_lt_succ hj, ha, Nat.forall_lt_succ_left.2 ⟨h, hn⟩, hr⟩
      · exact .inr ⟨Nat.forall_lt_succ_left.2 ⟨h, hn⟩, hr⟩

inductive Follows (s : Submitter) (data : Bytes) (wait : Bool) (d : Desk σ) : Except Fault String → Desk σ → Prop
  | accepted {k : Nat} (hk : k < d.copy.policy.attempts) (ha : (s k).IsAccepted d.copy.policy.timeout)
      (hn : ∀ i < k, ¬ (s i).IsAccepted d.copy.policy.timeout) :
      Follows s data wait d (.ok (Ident.encode (sha256 data)))
        ((d.noted (schedule s d.copy.policy data wait (k + 1))).accepted (Ident.encode (sha256 data)))
  | failed {last : Outcome} (hn : ∀ i < d.copy.policy.attempts, ¬ (s i).IsAccepted d.copy.policy.timeout)
      (hl : last.Tells d.copy.policy.timeout (s (d.copy.policy.attempts - 1))) :
      Follows s data wait d (.error (.notSubmitted (Ident.encode (sha256 data)) last))
        (d.noted (schedule s d.copy.policy data wait d.copy.policy.attempts))

lemma commit_follows (s : Submitter) (wait : Bool) (hc : d.copy.committed = none)
    (hr : (isReady r).runOn d = (.ok true, d')) (hw : d'.copy.tx.toBytes = .ok data) :
    Follows s data wait d' ((commit r s wait).runOn d).1 ((commit r s wait).runOn d).2 := by
  have hsucc : d'.copy.policy.attempts - 1 + 1 = d'.copy.policy.attempts :=
    Nat.sub_add_cancel d'.copy.policy.one_le_attempts
  have he := attempts_end s d'.copy.policy data (Ident.encode (sha256 data)) wait (d'.copy.policy.attempts - 1) 0 d'
  simp only [hsucc, Nat.zero_add, ← List.range_eq_range', flatMap_turn] at he
  rw [runOn_commit r s wait hc, hr]
  dsimp only
  rw [hw]
  dsimp only
  rcases he with ⟨k, hk, ha, hn, he⟩ | ⟨hn, he⟩
  · rw [he]
    exact .accepted hk ha hn
  · rw [he]
    exact .failed hn (Reply.within_tells _ _)

/-- A copy that is ready is submitted by the schedule, and ends accepted, or as it was and ready to be submitted again,
whoever could be asked about it then. -/
theorem commit_follows_schedule (s : Submitter) (wait : Bool) (hc : d.copy.committed = none)
    (hr : (isReady r).runOn d = (.ok true, d')) (hw : d.copy.toBytes = .ok data) :
    let p := (commit r s wait).runOn d
    d.Quiet d' ∧ Follows s data wait d' p.1 p.2 ∧
      ∀ {τ : Type} (r' : Resolver τ) (later : Desk τ), later.copy = p.2.copy →
        (∀ id, p.1 = .ok id → (phase r').runOn later = (.ok .committed, later)) ∧
        ∀ f, p.1 = .error f → (phase r').runOn later = (.ok .readyToCommit, later) ∧
          ∀ s' wait', Follows s' data wait' later ((commit r' s' wait').runOn later).1
            ((commit r' s' wait').runOn later).2 := by
  intro p
  have hq := isReady_isQuiet.quiet hr
  have hw' : d'.copy.tx.toBytes = .ok data := by
    rw [hq.tx]
    exact mapError_eq_ok.1 hw
  have hp : Follows s data wait d' p.1 p.2 := commit_follows s wait hc hr hw'
  refine ⟨hq, hp, fun r' later hl => ?_⟩
  generalize p = p at hp hl
  obtain ⟨x, d''⟩ := p
  cases hp with
  | accepted hk ha hn =>
    refine ⟨fun id _ => ?_, nofun⟩
    rw [runOn_phase, hl]
    rfl
  | failed hn ht =>
    refine ⟨nofun, fun f _ => ?_⟩
    have hc' : later.copy.committed = none := by
      rw [hl]
      exact hq.committed.trans hc
    have hr' := isReady_again hr r' hl
    refine ⟨phase_of_isReady hc' hr', fun s' wait' => commit_follows s' wait' hc' hr' ?_⟩
    rw [hl]
    exact hw'

theorem creation_refused_last :
    let s : Submitter := fun i => if i < 2 then ⟨none, .tooSlow "late"⟩ else ⟨some 1, .refused⟩
    let d : Desk Unit := ⟨.ofTx creation .standard, (), []⟩
    ∃ data last, creation.toBytes = .ok data ∧ last.isTimeout = false ∧ last.cause? = none ∧
      (commit (fun _ b => (.error .noSubmitter, b)) s true).runOn d =
        (.error (.notSubmitted (Ident.encode (sha256 data)) last), d.noted (schedule s .standard data true 3)) := by
  intro s d
  obtain ⟨data, hw⟩ := exists_eq_ok (by decide +kernel : creation.toBytes.toOption.isSome = true)
  have hr : (isReady fun _ b => (.error .noSubmitter, b)).runOn d = (.ok true, d) := by
    have hn : ¬ d.copy.tx.needsAuthorization = true := by decide +kernel
    have hp : d.copy.tx.isPaid = true := by decide +kernel
    rw [runOn_isReady, if_neg hn, hp]
  have hs (i : Nat) : ¬ (s i).IsAccepted 120 := by
    rintro ⟨_, hv⟩
    dsimp only [s] at hv
    split at hv <;> cases hv
  obtain ⟨_, hp, _⟩ := commit_follows_schedule s true rfl hr (mapError_eq_ok.2 hw)
  generalize hc : (commit (fun _ b => (.error .noSubmitter, b)) s true).runOn d = p at hp ⊢
  obtain ⟨x, d'⟩ := p
  cases hp with
  | accepted hk ha hn => exact absurd ha (hs _)
  | @failed last hn hl =>
    refine ⟨data, last, hw, ?_, ?_, rfl⟩
    · rw [Bool.eq_false_iff, Ne, hl.isTimeout]
      rintro (h | ⟨_, h⟩)
      · exact h ⟨1, rfl, by decide⟩
      · cases h
    · exact hl.cause ⟨1, rfl, by decide⟩

end Session

end Draft

end Countersign
