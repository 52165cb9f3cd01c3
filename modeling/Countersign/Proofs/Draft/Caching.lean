import Countersign.Proofs.Draft.Precedence
import Countersign.Proofs.Draft.Progress
import Mathlib.Logic.Function.Basic

/-! Copies that share a cache of ownerships. What the cache answers is told by what its resolver answered and what was
dropped since; a copy asks until it is told an owner, and keeps that one. -/

namespace Countersign.Draft

variable {ι σ α β : Type} {subnet : Bytes} {o : Ownership} {r : Resolver σ}

/-! ### The history of a cache -/

inductive Notice
  | asked (subnet : Bytes) (answer : Except Fault Ownership)
  | forgot (subnet : Bytes)
  | forgotAll

def Notice.Supersedes (subnet : Bytes) : Notice → Prop
  | asked s answer => s = subnet ∧ ∃ o, answer = .ok o
  | forgot s => s = subnet
  | forgotAll => True

def Standing (notices : List Notice) (subnet : Bytes) (o : Ownership) : Prop :=
  ∃ before after, notices = before ++ .asked subnet (.ok o) :: after ∧ ∀ n ∈ after, ¬ n.Supersedes subnet

lemma not_standing_nil : ¬ Standing [] subnet o := by
  rintro ⟨before, after, h, _⟩
  exact List.append_ne_nil_of_right_ne_nil before (List.cons_ne_nil _ after) h.symm

lemma standing_concat {notices : List Notice} {n : Notice} : Standing (notices ++ [n]) subnet o ↔
    n = .asked subnet (.ok o) ∨ Standing notices subnet o ∧ ¬ n.Supersedes subnet := by
  constructor
  · rintro ⟨before, after, h, hn⟩
    rcases List.eq_nil_or_concat after with rfl | ⟨after, m, rfl⟩
    · exact .inl (List.append_inj_right' h rfl |> List.cons.inj).1
    · rw [List.concat_eq_append] at h hn
      rw [← List.cons_append, ← List.append_assoc] at h
      obtain ⟨rfl, hm⟩ := List.append_inj' h rfl
      obtain rfl := (List.cons.inj hm).1
      exact .inr ⟨⟨before, after, rfl, fun k hk => hn k (List.mem_append_left _ hk)⟩, hn _ (by simp)⟩
  · rintro (rfl | ⟨⟨before, after, rfl, hn⟩, hs⟩)
    · exact ⟨notices, [], rfl, nofun⟩
    · refine ⟨before, after ++ [n], by rw [List.append_assoc, List.cons_append], fun k hk => ?_⟩
      rcases List.mem_append.1 hk with hk | hk
      · exact hn k hk
      · rw [List.mem_singleton.1 hk]
        exact hs

structure Recorded (σ : Type) where
  state : σ
  notices : List Notice

def Recorded.note (b : Recorded σ) (n : Notice) : Recorded σ := { b with notices := b.notices ++ [n] }

def Resolver.recorded (r : Resolver σ) : Resolver (Recorded σ) := fun subnet b =>
  let (answer, state) := r subnet b.state
  (answer, ⟨state, b.notices ++ [.asked subnet answer]⟩)

namespace Cache

variable {c : Cache (Recorded σ)}

abbrev recorded (r : Resolver σ) : Resolver (Cache (Recorded σ)) := Cache.resolver r.recorded

inductive Answers (r : Resolver σ) (subnet : Bytes) (c : Cache (Recorded σ)) :
    Except Fault Ownership → Cache (Recorded σ) → Prop
  | kept {o : Ownership} (h : Standing c.behind.notices subnet o) : Answers r subnet c (.ok o) c
  | failed {f : Fault} {state : σ} (h : ∀ o, ¬ Standing c.behind.notices subnet o)
      (ha : r subnet c.behind.state = (.error f, state)) :
      Answers r subnet c (.error f) ⟨c.entries, ⟨state, c.behind.notices ++ [.asked subnet (.error f)]⟩⟩
  | told {o : Ownership} {state : σ} (h : ∀ o, ¬ Standing c.behind.notices subnet o)
      (ha : r subnet c.behind.state = (.ok o, state)) (hl : subnet.length = Ident.size) :
      Answers r subnet c (.ok o)
        ⟨(subnet, o) :: c.entries, ⟨state, c.behind.notices ++ [.asked subnet (.ok o)]⟩⟩
  | misnamed {o : Ownership} {state : σ} (h : ∀ o, ¬ Standing c.behind.notices subnet o)
      (ha : r subnet c.behind.state = (.ok o, state)) (hl : subnet.length ≠ Ident.size) :
      Answers r subnet c (.error (.ident (.badLength subnet.length)))
        ⟨(subnet, o) :: c.entries, ⟨state, c.behind.notices ++ [.asked subnet (.ok o)]⟩⟩

def plain (c : Cache (Recorded σ)) : Cache σ := ⟨c.entries, c.behind.state⟩

lemma resolver_plain (r : Resolver σ) (subnet : Bytes) (c : Cache (Recorded σ)) :
    Cache.resolver r subnet c.plain = ((recorded r subnet c).1, (recorded r subnet c).2.plain) := by
  rw [recorded, Cache.resolver, Cache.resolver, plain, Resolver.recorded]
  dsimp only
  cases c.entries.lookup subnet with
  | some o => rfl
  | none => rcases r subnet c.behind.state with ⟨f | o, state⟩ <;> rfl

def Faithful (c : Cache (Recorded σ)) : Prop :=
  ∀ subnet o, c.entries.lookup subnet = some o ↔ Standing c.behind.notices subnet o

lemma Faithful.answers (h : c.Faithful) (r : Resolver σ) (subnet : Bytes) :
    Answers r subnet c (recorded r subnet c).1 (recorded r subnet c).2 := by
  rw [recorded, Cache.resolver]
  cases hl : c.entries.lookup subnet with
  | some o => exact .kept ((h subnet o).1 hl)
  | none =>
    have hn (o : Ownership) : ¬ Standing c.behind.notices subnet o := by
      rw [← h subnet o, hl]
      nofun
    rw [Resolver.recorded]
    rcases ha : r subnet c.behind.state with ⟨f | o, state⟩
    · exact .failed hn ha
    · dsimp only
      by_cases hs : subnet.length = Ident.size
      · rw [Ident.sized, if_pos hs]
        exact .told hn ha hs
      · rw [Ident.sized, if_neg hs]
        exact .misnamed hn ha hs

lemma lookup_forget (c : Cache σ) (subnet other : Bytes) :
    (c.forget subnet).entries.lookup other = if other = subnet then none else c.entries.lookup other := by
  rw [forget]
  dsimp only
  induction c.entries with
  | nil => split <;> rfl
  | cons e entries ih =>
    obtain ⟨key, o⟩ := e
    rw [List.filter_cons, List.lookup_cons]
    by_cases hk : key = subnet
    · rw [if_neg (by simpa using hk), ih]
      split
      · rfl
      · rename_i hne
        rw [beq_false_of_ne (hk ▸ hne)]
    · rw [if_pos (by simpa using hk), List.lookup_cons, ih]
      split
      · rename_i he
        rw [eq_of_beq he, if_neg hk]
      · rfl

lemma Faithful.note {entries : List (Bytes × Ownership)} {state : σ} {n : Notice} (h : c.Faithful)
    (hn : ∀ s o, entries.lookup s = some o ↔ n = .asked s (.ok o) ∨ c.entries.lookup s = some o ∧ ¬ n.Supersedes s) :
    Faithful ⟨entries, ⟨state, c.behind.notices ++ [n]⟩⟩ := by
  intro s o
  rw [hn, standing_concat, h s o]

lemma Faithful.keep {state : σ} (h : c.Faithful) (subnet : Bytes) (o : Ownership) :
    Faithful ⟨(subnet, o) :: c.entries, ⟨state, c.behind.notices ++ [.asked subnet (.ok o)]⟩⟩ := by
  refine h.note fun s o' => ?_
  rw [List.lookup_cons, Notice.Supersedes]
  by_cases hs : s = subnet
  · subst hs
    simp
  · rw [beq_false_of_ne hs]
    simp [Ne.symm hs]

lemma Faithful.recorded (h : c.Faithful) (r : Resolver σ) (subnet : Bytes) :
    (Cache.recorded r subnet c).2.Faithful := by
  have ha := h.answers r subnet
  generalize Cache.recorded r subnet c = p at ha ⊢
  obtain ⟨x, c'⟩ := p
  cases ha with
  | kept => exact h
  | failed => exact h.note fun s o => by simp [Notice.Supersedes]
  | told => exact h.keep subnet _
  | misnamed => exact h.keep subnet _

lemma Faithful.forget (h : c.Faithful) (subnet : Bytes) :
    Faithful { c.forget subnet with behind := c.behind.note (.forgot subnet) } := by
  refine h.note fun s o => ?_
  rw [lookup_forget, Notice.Supersedes]
  by_cases hs : s = subnet
  · simp [hs]
  · simp [hs, Ne.symm hs]

lemma Faithful.forgetAll (h : c.Faithful) : Faithful { c.forgetAll with behind := c.behind.note .forgotAll } :=
  h.note fun s o => by simp [Cache.forgetAll, Notice.Supersedes]

end Cache

/-! ### What a session does to its resolver -/

namespace Session

variable {I : σ → Prop} {s : Session σ α} {f : α → Session σ β}

def Keeps (I : σ → Prop) (s : Session σ α) : Prop := ∀ d : Desk σ, I d.book → I (s.runOn d).2.book

namespace Keeps

lemma bind (hs : s.Keeps I) (hf : ∀ x, (f x).Keeps I) : (s >>= f).Keeps I := by
  intro d hd
  have h := hs d hd
  rw [runOn_bind]
  generalize s.runOn d = p at h ⊢
  obtain ⟨x, d'⟩ := p
  cases x with
  | error e => exact h
  | ok x => exact hf x d' h

lemma pure (x : α) : (pure x : Session σ α).Keeps I := fun _ => id

lemma throw (e : Fault) : (throw e : Session σ α).Keeps I := fun _ => id

lemma copy : (copy (σ := σ)).Keeps I := fun _ => id

lemma tx : (tx (σ := σ)).Keeps I := fun _ => id

lemma lift (x : Except Fault α) : (liftM x : Session σ α).Keeps I := fun _ => id

lemma note (e : Event) : (note e : Session σ Unit).Keeps I := fun _ => id

lemma update (f : Draft → Draft) : (update f : Session σ Unit).Keeps I := fun _ => id

end Keeps

lemma attempts_keeps {t : Submitter} {policy : RetryPolicy} {data : Bytes} {id : String} {wait : Bool} {more i : Nat} :
    (attempts t policy data id wait more i : Session σ String).Keeps I := by
  intro d hd
  refine attempts_invariant (I := fun d => I d.book) (P := fun p => I p.2.book) ?_ ?_ ?_ ?_ hd
  · exact fun _ h => h
  · exact fun _ _ h _ _ => h
  · exact fun _ _ h _ _ => h
  · exact fun _ _ h => h

lemma signSlots_keeps {k : Signatory} {slot : Nat} {keys : List Bytes} :
    (signSlots k slot keys : Session σ Unit).Keeps I := by
  intro d hd
  induction keys generalizing slot d with
  | nil => exact hd
  | cons key keys ih =>
    rw [runOn_signSlots_cons]
    split
    · have hslot : I ((signSlot k slot key).runOn d).2.book := by
        rw [runOn_signSlot]
        exact hd
      rw [runOn_bind]
      generalize (signSlot k slot key).runOn d = p at hslot ⊢
      obtain ⟨x, d'⟩ := p
      cases x with
      | error e => exact hslot
      | ok x => exact ih d' hslot
    · exact ih d hd

variable (hr : ∀ subnet b, I b → I (r subnet b).2)

include hr

lemma owners_keeps : (owners r).Keeps I := by
  intro d hd
  rw [runOn_owners]
  cases d.copy.snapshot with
  | some o => exact hd
  | none =>
    cases d.copy.tx.subnetId? with
    | none => exact hd
    | some subnet =>
      have hb := hr subnet d.book hd
      dsimp only
      generalize r subnet d.book = p at hb ⊢
      rcases p with ⟨f | o, book⟩ <;> exact hb

lemma authSigners_keeps : (authSigners r).Keeps I :=
  .bind .tx fun _ => .bind (.lift _) fun _ => .bind (owners_keeps hr) fun _ => .lift _

lemma signers_keeps : (signers r).Keeps I :=
  .bind .tx fun _ => .bind (.lift _) fun _ => .bind (authSigners_keeps hr) fun _ => .bind .tx fun _ => .lift _

lemma isReady_keeps : (isReady r).Keeps I := by
  refine .bind .tx fun t => ?_
  split
  · exact .bind (signers_keeps hr) fun _ => .pure _
  · exact .pure _

lemma phase_keeps : (phase r).Keeps I := by
  intro d hd
  have hs := signers_keeps hr d hd
  rw [runOn_phase]
  split
  · exact hd
  · split
    · generalize (signers r).runOn d = p at hs ⊢
      rcases p with ⟨e | x, d'⟩ <;> exact hs
    · exact hd

lemma commit_keeps {t : Submitter} {wait : Bool} : (commit r t wait).Keeps I := by
  intro d hd
  cases hc : d.copy.committed with
  | some id =>
    rw [runOn_commit_of_committed r t wait hc]
    exact hd
  | none =>
    have hready := isReady_keeps hr d hd
    rw [runOn_commit r t wait hc]
    generalize (isReady r).runOn d = p at hready ⊢
    rcases p with ⟨f | _ | _, d'⟩
    · exact hready
    · exact hready
    · dsimp only
      cases d'.copy.tx.toBytes with
      | error f => exact hready
      | ok data => exact attempts_keeps d' hready

lemma finish_keeps {o : SignOptions} {t : Option Submitter} : (finish r o t).Keeps I := by
  intro d hd
  rw [runOn_finish]
  split
  · rename_i t _
    have hc : I ((commit r t o.wait).runOn d).2.book := commit_keeps hr d hd
    generalize (commit r t o.wait).runOn d = p at hc ⊢
    rcases p with ⟨e | x, d'⟩ <;> exact hc
  · exact hd

lemma sign_keeps {k : Signatory} {o : SignOptions} {t : Option Submitter} : (sign r k o t).Keeps I := by
  refine .bind .copy fun m => ?_
  split
  · exact .pure _
  · split
    · exact .throw _
    · refine .bind .tx fun tx => ?_
      split
      · refine .bind (signers_keeps hr) fun before => ?_
        split
        · exact .throw _
        · refine .bind signSlots_keeps fun _ => .bind (signers_keeps hr) fun after => ?_
          split
          · exact finish_keeps hr
          · exact .pure _
      · refine .bind (isReady_keeps hr) fun ready => ?_
        split
        · exact finish_keeps hr
        · exact .pure _

end Session

lemma Request.perform_keeps {I : σ → Prop} (hr : ∀ subnet b, I b → I (r subnet b).2) (q : Request) :
    (q.perform r).Keeps I := by
  cases q with
  | sign k o s => exact .bind (Session.sign_keeps hr) fun _ => .pure _
  | commit s wait => exact .bind (Session.commit_keeps hr) fun _ => .pure _
  | merge other => exact .bind .copy fun _ => .bind (.lift _) fun _ => .bind (.update _) fun _ => .pure _

lemma Query.perform_keeps {I : σ → Prop} (hr : ∀ subnet b, I b → I (r subnet b).2) (q : Query) :
    (q.perform r).Keeps I := by
  cases q with
  | owners => exact .bind (Session.owners_keeps hr) fun _ => .pure _
  | authSigners => exact .bind (Session.authSigners_keeps hr) fun _ => .pure _
  | signers => exact .bind (Session.signers_keeps hr) fun _ => .pure _
  | ready => exact .bind (Session.isReady_keeps hr) fun _ => .pure _
  | phase => exact .bind (Session.phase_keeps hr) fun _ => .pure _
  | reading answer => exact .bind .copy fun _ => .lift _

/-! ### Copies that share a cache -/

structure Office (ι σ : Type) where
  cache : Cache (Recorded σ)
  copies : ι → Draft

inductive Step (ι σ : Type)
  | resolve (subnet : Bytes)
  | forget (subnet : Bytes)
  | forgetAll
  | elsewhere (change : σ → σ)
  | query (i : ι) (q : Query)
  | request (i : ι) (q : Request)

namespace Office

def opening (state : σ) (copies : ι → Draft) : Office ι σ := ⟨⟨[], ⟨state, []⟩⟩, copies⟩

def desk (w : Office ι σ) (i : ι) : Desk (Cache (Recorded σ)) := ⟨w.copies i, w.cache, []⟩

variable [DecidableEq ι] {w : Office ι σ}

def leave (w : Office ι σ) (i : ι) (d : Desk (Cache (Recorded σ))) : Office ι σ :=
  ⟨d.book, Function.update w.copies i d.copy⟩

def perform (r : Resolver σ) (w : Office ι σ) : Step ι σ → Office ι σ
  | .resolve subnet => { w with cache := (Cache.recorded r subnet w.cache).2 }
  | .forget subnet =>
    { w with cache := { w.cache.forget subnet with behind := w.cache.behind.note (.forgot subnet) } }
  | .forgetAll => { w with cache := { w.cache.forgetAll with behind := w.cache.behind.note .forgotAll } }
  | .elsewhere change =>
    { w with cache := { w.cache with behind := { w.cache.behind with state := change w.cache.behind.state } } }
  | .query i q => w.leave i ((q.perform (Cache.recorded r)).runOn (w.desk i)).2
  | .request i q => w.leave i ((q.perform (Cache.recorded r)).runOn (w.desk i)).2

def run (r : Resolver σ) (steps : List (Step ι σ)) (w : Office ι σ) : Office ι σ := steps.foldl (perform r) w

lemma perform_faithful (h : w.cache.Faithful) (step : Step ι σ) : (w.perform r step).cache.Faithful := by
  have hr (subnet : Bytes) (c : Cache (Recorded σ)) (hc : c.Faithful) := hc.recorded r subnet
  cases step with
  | resolve subnet => exact h.recorded r subnet
  | forget subnet => exact h.forget subnet
  | forgetAll => exact h.forgetAll
  | elsewhere change => exact h
  | query i q => exact q.perform_keeps hr (w.desk i) h
  | request i q => exact q.perform_keeps hr (w.desk i) h

lemma run_faithful (h : w.cache.Faithful) (steps : List (Step ι σ)) : (run r steps w).cache.Faithful := by
  induction steps generalizing w with
  | nil => exact h
  | cons step steps ih => exact ih (perform_faithful h step)

lemma copies_leave (i : ι) (d : Desk (Cache (Recorded σ))) : (w.leave i d).copies i = d.copy := by
  simp only [leave, Function.update_self]

lemma leave_advances {d : Desk (Cache (Recorded σ))} {j : ι} (h : (w.copies j).Advances d.copy) (i : ι) :
    (w.copies i).Advances ((w.leave j d).copies i) := by
  by_cases hi : i = j
  · subst hi
    rw [copies_leave]
    exact h
  · simp only [leave, Function.update_of_ne hi]
    exact .refl _

lemma perform_advances (step : Step ι σ) (i : ι) : (w.copies i).Advances ((w.perform r step).copies i) := by
  cases step with
  | query j q => exact leave_advances (q.perform_isQuiet.isForward (w.desk j)) i
  | request j q => exact leave_advances (q.perform_isForward (w.desk j)) i
  | _ => exact .refl _

lemma run_advances (steps : List (Step ι σ)) (i : ι) : (w.copies i).Advances ((run r steps w).copies i) := by
  induction steps generalizing w with
  | nil => exact .refl _
  | cons step steps ih => exact (perform_advances step i).trans ih

inductive Tells (r : Resolver σ) (subnet : Bytes) (w : Office ι σ) (i : ι) :
    Except Fault Ownership → Office ι σ → Prop
  | kept {o : Ownership} (h : (w.copies i).snapshot = some o) : Tells r subnet w i (.ok o) w
  | failed {f : Fault} {c : Cache (Recorded σ)} (h : (w.copies i).snapshot = none)
      (ha : w.cache.Answers r subnet (.error f) c) : Tells r subnet w i (.error f) { w with cache := c }
  | told {o : Ownership} {c : Cache (Recorded σ)} (h : (w.copies i).snapshot = none)
      (ha : w.cache.Answers r subnet (.ok o) c) (hl : subnet.length = Ident.size) :
      Tells r subnet w i (.ok o) ⟨c, Function.update w.copies i { w.copies i with snapshot := some o }⟩
  | misnamed {o : Ownership} {c : Cache (Recorded σ)} (h : (w.copies i).snapshot = none)
      (ha : w.cache.Answers r subnet (.ok o) c) (hl : subnet.length ≠ Ident.size) :
      Tells r subnet w i (.error (.ident (.badLength subnet.length)))
        ⟨c, Function.update w.copies i { w.copies i with snapshot := some o }⟩

lemma perform_owners (w : Office ι σ) (i : ι) :
    w.perform r (.query i .owners) = w.leave i ((Session.owners (Cache.recorded r)).runOn (w.desk i)).2 := by
  rw [perform, Query.perform, Session.runOn_bind]
  rcases (Session.owners (Cache.recorded r)).runOn (w.desk i) with ⟨f | o, d⟩ <;> rfl

lemma perform_authSigners (w : Office ι σ) (i : ι) :
    w.perform r (.query i .authSigners) = w.leave i ((Session.authSigners (Cache.recorded r)).runOn (w.desk i)).2 := by
  rw [perform, Query.perform, Session.runOn_bind]
  rcases (Session.authSigners (Cache.recorded r)).runOn (w.desk i) with ⟨f | o, d⟩ <;> rfl

lemma leave_same {c : Cache (Recorded σ)} {i : ι} : w.leave i ⟨w.copies i, c, []⟩ = { w with cache := c } := by
  rw [leave, Function.update_eq_self]

lemma owners_tells (h : w.cache.Faithful) {i : ι} (hi : (w.copies i).tx.subnetId? = some subnet) :
    Tells r subnet w i ((Session.owners (Cache.recorded r)).runOn (w.desk i)).1 (w.perform r (.query i .owners)) := by
  have ha := h.answers r subnet
  rw [perform_owners, Session.runOn_owners, desk]
  dsimp only
  cases ho : (w.copies i).snapshot with
  | some o =>
    dsimp only
    rw [leave_same]
    exact .kept ho
  | none =>
    rw [hi]
    dsimp only
    generalize Cache.recorded r subnet w.cache = p at ha ⊢
    rcases p with ⟨f | o, c⟩
    · dsimp only
      rw [leave_same]
      exact .failed ho ha
    · by_cases hl : subnet.length = Ident.size
      · rw [Ident.sized, if_pos hl]
        exact .told ho ha hl
      · rw [Ident.sized, if_neg hl]
        exact .misnamed ho ha hl

structure Knows (r : Resolver σ) (w : Office ι σ) (i : ι) (o : Ownership) (keys : Except Fault (List Bytes)) :
    Prop where
  owners : (Session.owners (Cache.recorded r)).runOn (w.desk i) = (.ok o, w.desk i)
  authSigners : (Session.authSigners (Cache.recorded r)).runOn (w.desk i) = (keys, w.desk i)

omit [DecidableEq ι] in
lemma knows_of_snapshot {i : ι} (h : (w.copies i).snapshot = some o) :
    w.Knows r i o ((w.copies i).tx.authorization >>= keysAt o) := by
  have ho : (Session.owners (Cache.recorded r)).runOn (w.desk i) = (.ok o, w.desk i) := by
    rw [Session.runOn_owners, desk, h]
  refine ⟨ho, ?_⟩
  rw [Session.runOn_authSigners, ho, desk]
  cases (w.copies i).tx.authorization <;> rfl

lemma run_knows {i : ι} (h : (w.copies i).snapshot = some o) (later : List (Step ι σ)) :
    (run r later w).Knows r i o ((w.copies i).tx.authorization >>= keysAt o) := by
  have ha := run_advances (r := r) (w := w) later i
  rw [← ha.tx.authorization_eq]
  exact knows_of_snapshot (ha.snapshot o h)

end Office

open Session Office

/-- Whatever happens at a cache that was empty at first and to the copies that ask it: what it answers is told by its
resolver's answers and by what was dropped since; every copy asks it until it is told an owner, and answers with that
one ever after. -/
theorem caching_exact [DecidableEq ι] (r : Resolver σ) (state : σ) (copies : ι → Draft) (steps : List (Step ι σ)) :
    let w := run r steps (opening state copies)
    w.cache.Faithful ∧
    (∀ subnet, w.cache.Answers r subnet (Cache.recorded r subnet w.cache).1 (Cache.recorded r subnet w.cache).2 ∧
      Cache.resolver r subnet w.cache.plain =
        ((Cache.recorded r subnet w.cache).1, (Cache.recorded r subnet w.cache).2.plain)) ∧
    (∀ subnet other, (w.cache.forget subnet).entries.lookup other =
      if other = subnet then none else w.cache.entries.lookup other) ∧
    (∀ i subnet, (w.copies i).tx.subnetId? = some subnet →
      Tells r subnet w i ((owners (Cache.recorded r)).runOn (w.desk i)).1 (w.perform r (.query i .owners))) ∧
    ∀ i later,
      (∀ o, (w.copies i).snapshot = some o →
        (run r later w).Knows r i o ((w.copies i).tx.authorization >>= keysAt o)) ∧
      (∀ o, ((owners (Cache.recorded r)).runOn (w.desk i)).1 = .ok o →
        (run r later (w.perform r (.query i .owners))).Knows r i o ((w.copies i).tx.authorization >>= keysAt o)) ∧
      ∀ keys, ((authSigners (Cache.recorded r)).runOn (w.desk i)).1 = .ok keys →
        ∃ o, (run r later (w.perform r (.query i .authSigners))).Knows r i o (.ok keys) := by
  intro w
  have hw : w.cache.Faithful := by
    refine run_faithful (fun subnet o => ?_) steps
    exact ⟨nofun, fun h => absurd h not_standing_nil⟩
  refine ⟨hw, fun subnet => ⟨hw.answers r subnet, w.cache.resolver_plain r subnet⟩, w.cache.lookup_forget,
    fun i subnet => owners_tells hw, fun i later => ⟨?_, ?_, ?_⟩⟩
  · exact fun o ho => run_knows ho later
  · intro o ho
    rcases hd : (owners (Cache.recorded r)).runOn (w.desk i) with ⟨x, d⟩
    rw [hd] at ho
    obtain rfl : x = .ok o := ho
    have hs := owners_ok hd
    have ht := (owners_isQuiet.quiet hd).tx
    rw [← copies_leave (w := w) i] at hs ht
    rw [perform_owners, hd]
    have hk := run_knows (r := r) hs later
    rwa [ht] at hk
  · intro keys hkeys
    rcases hd : (authSigners (Cache.recorded r)).runOn (w.desk i) with ⟨x, d⟩
    rw [hd] at hkeys
    obtain rfl : x = .ok keys := hkeys
    obtain ⟨o, positions, hs, hp, hk⟩ := authSigners_ok hd
    have ht := (authSigners_isQuiet.quiet hd).tx
    rw [← copies_leave (w := w) i] at hs ht
    rw [perform_authSigners, hd]
    have hknows := run_knows (r := r) hs later
    rw [ht, hp] at hknows
    exact ⟨o, hk ▸ hknows⟩

theorem old_owner_kept :
    let r : Resolver Ownership := fun _ o => (.ok o, o)
    let heir : Ownership := ⟨[List.replicate 20 161], 1, by decide⟩
    let w : Office Bool Ownership := .opening founder fun _ => .ofTx (chainCreation Ident.empty [0] 1) .standard
    let w' := run r [.elsewhere fun _ => heir, .forgetAll] (w.perform r (.query true .owners))
    w'.Knows r true founder (.ok [List.replicate 20 160]) ∧
      ((owners (Cache.recorded r)).runOn (w'.desk false)).1 = .ok heir := by
  intro r heir w w'
  obtain ⟨_, _, _, _, hknows⟩ := caching_exact r founder w.copies []
  exact ⟨(hknows true _).2.1 founder rfl, by decide +kernel⟩

theorem misnamed_refused_once :
    let r : Resolver Nat := fun _ asked => (.ok founder, asked + 1)
    let subnet : Bytes := List.replicate 31 7
    (r subnet 0).1 = .ok founder ∧
      Cache.resolver r subnet ⟨[], 0⟩ = (.error (.ident (.badLength 31)), ⟨[(subnet, founder)], 1⟩) ∧
      Cache.resolver r subnet ⟨[(subnet, founder)], 1⟩ = (.ok founder, ⟨[(subnet, founder)], 1⟩) :=
  ⟨rfl, rfl, rfl⟩

end Countersign.Draft
