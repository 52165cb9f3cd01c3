import Countersign.Proofs.Tx.Slots
import Mathlib.Logic.Function.Basic

/-! How merging two copies ends. It is refused for the first of four reasons, and then no slot has changed, since all
slots are joined before the first one is written. Else every empty slot has what the other copy has there. -/

namespace Countersign

open Wire

namespace SignedTx

open Credential

variable {ours theirs tx : SignedTx} {front front' : Bytes} {cred slot : Nat} {a b : Bytes} {f : MergeFault}

def slot? (tx : SignedTx) (cred slot : Nat) : Option Bytes := tx.creds[cred]?.bind (·.sigs[slot]?)

def shape (tx : SignedTx) : List (Extension × Nat) := tx.creds.map Credential.shape

def slots (tx : SignedTx) : List Bytes := slotsOf tx.creds

def ClashAt (ours theirs : SignedTx) (cred slot : Nat) : Prop :=
  ∃ a b, ours.slot? cred slot = some a ∧ theirs.slot? cred slot = some b ∧ Clash a b

def FirstClash (ours theirs : SignedTx) (cred slot : Nat) : Prop :=
  ours.ClashAt theirs cred slot ∧
    ∀ cred' slot', cred' < cred ∨ cred' = cred ∧ slot' < slot → ¬ ours.ClashAt theirs cred' slot'

def Refused (ours theirs : SignedTx) (front front' : Bytes) : MergeFault → Prop
  | .wire _ => False
  | .differentTransactions => ours.chain ≠ theirs.chain ∨ front ≠ front'
  | .credentialCount n m => ours.chain = theirs.chain ∧ front = front' ∧
      n = ours.creds.length ∧ m = theirs.creds.length ∧ n ≠ m
  | .credentialShape i => ours.chain = theirs.chain ∧ front = front' ∧ ours.creds.length = theirs.creds.length ∧
      FirstAt (fun c d => c.extension ≠ d.extension ∨ c.sigs.length ≠ d.sigs.length) ours.creds theirs.creds i
  | .conflict cred slot => ours.chain = theirs.chain ∧ front = front' ∧ ours.shape = theirs.shape ∧
      ours.FirstClash theirs cred slot

structure Takes (ours theirs tx : SignedTx) (n : Nat) : Prop where
  chain : tx.chain = ours.chain
  unsigned : tx.unsigned = ours.unsigned
  shape : tx.shape = ours.shape
  kept : ∀ cred slot sig, ours.slot? cred slot = some sig → sig ≠ emptySignature → tx.slot? cred slot = some sig
  taken : ∀ cred slot, ours.slot? cred slot = some emptySignature → tx.slot? cred slot = theirs.slot? cred slot
  count : n = (ours.slots.zip theirs.slots).countP fun (a, b) => a = emptySignature ∧ b ≠ emptySignature

/-! ### Clashes -/

lemma clashAt_iff : ours.ClashAt theirs cred slot ↔ RelatedAt (ClashIn slot) ours.creds theirs.creds cred := by
  simp only [ClashAt, slot?, Option.bind_eq_some_iff, RelatedAt, ClashIn]
  constructor
  · rintro ⟨a, b, ⟨c, hc, ha⟩, ⟨d, hd, hb⟩, hab⟩
    exact ⟨c, d, hc, hd, a, b, ha, hb, hab⟩
  · rintro ⟨c, d, hc, hd, a, b, ha, hb, hab⟩
    exact ⟨a, b, ⟨c, hc, ha⟩, ⟨d, hd, hb⟩, hab⟩

lemma ClashAt.exists_firstClash (h : ours.ClashAt theirs cred slot) :
    ∃ cred slot, ours.FirstClash theirs cred slot := by
  obtain ⟨c, d, hc, hd, hcd⟩ := clashAt_iff.1 h
  -- the first credential that has a clash in some slot, then the first such slot of it
  have hr : RelatedAt (fun c d => ∃ slot, ClashIn slot c d) ours.creds theirs.creds cred := ⟨c, d, hc, hd, slot, hcd⟩
  obtain ⟨i, ⟨c, d, hc, hd, slot, hcd⟩, hbefore⟩ := hr.exists_firstAt
  obtain ⟨s, hs, hfirst⟩ := hcd.exists_firstAt
  refine ⟨i, s, clashAt_iff.2 ⟨c, d, hc, hd, hs⟩, ?_⟩
  rintro j s' (hj | ⟨rfl, hs'⟩) hclash
  · obtain ⟨c', d', hc', hd', hcd'⟩ := clashAt_iff.1 hclash
    exact hbefore j hj ⟨c', d', hc', hd', s', hcd'⟩
  · obtain ⟨c', d', hc', hd', hcd'⟩ := clashAt_iff.1 hclash
    obtain rfl := Option.some.inj (hc.symm.trans hc')
    obtain rfl := Option.some.inj (hd.symm.trans hd')
    exact hfirst s' hs' hcd'

lemma FirstClash.join {k : Nat} (h : ours.FirstClash theirs cred slot) :
    joinCredentials k ours.creds theirs.creds = .error (.conflict (k + cred) slot) := by
  obtain ⟨c, d, hc, hd, hcd⟩ := clashAt_iff.1 h.1
  refine joinCredentials_of_clash ⟨c, d, hc, hd, hcd, fun s hs hclash => ?_⟩ fun j hj s hclash => ?_
  · exact h.2 cred s (.inr ⟨rfl, hs⟩) (clashAt_iff.2 ⟨c, d, hc, hd, hclash⟩)
  · exact h.2 j s (.inl hj) (clashAt_iff.2 hclash)

/-! ### Filling -/

def fillFrom (ours theirs : SignedTx) : SignedTx :=
  { ours with creds := List.zipWith Credential.fill ours.creds theirs.creds }

lemma shape_fillFrom (hs : ours.shape = theirs.shape) : (ours.fillFrom theirs).shape = ours.shape := by
  obtain ⟨chain, unsigned, cs⟩ := ours
  obtain ⟨chain', unsigned', ds⟩ := theirs
  simp only [shape, fillFrom] at hs ⊢
  induction cs generalizing ds with
  | nil => rfl
  | cons c cs ih =>
    cases ds with
    | nil => cases hs
    | cons d ds =>
      obtain ⟨hcd, hrest⟩ := List.cons.inj hs
      have hl : c.sigs.length = d.sigs.length := congrArg Prod.snd hcd
      have hc : (c.fill d).shape = c.shape := by simp [Credential.fill, Credential.shape, hl]
      rw [List.zipWith_cons_cons, List.map_cons, List.map_cons, hc, ih ds hrest]

lemma slot?_fillFrom (ha : ours.slot? cred slot = some a) (hb : theirs.slot? cred slot = some b) :
    (ours.fillFrom theirs).slot? cred slot = some (fillSlot a b) := by
  obtain ⟨c, hc, ha⟩ := Option.bind_eq_some_iff.1 ha
  obtain ⟨d, hd, hb⟩ := Option.bind_eq_some_iff.1 hb
  simp [slot?, fillFrom, List.getElem?_zipWith, hc, hd, Credential.fill, ha, hb]

lemma exists_slot? (hs : ours.shape = theirs.shape) (ha : ours.slot? cred slot = some a) :
    ∃ b, theirs.slot? cred slot = some b := by
  obtain ⟨c, hc, ha⟩ := Option.bind_eq_some_iff.1 ha
  have hd := congrArg (·[cred]?) hs
  simp only [shape, List.getElem?_map, hc, Option.map_some] at hd
  obtain ⟨d, hd, hcd⟩ := Option.map_eq_some_iff.1 hd.symm
  have hl : slot < d.sigs.length := by
    rw [show d.sigs.length = c.sigs.length from congrArg Prod.snd hcd]
    exact (List.getElem?_eq_some_iff.1 ha).1
  exact ⟨d.sigs[slot], by simp [slot?, hd, hl]⟩

lemma fillFrom_takes (hs : ours.shape = theirs.shape) :
    ours.Takes theirs (ours.fillFrom theirs) (gains ours.slots theirs.slots) where
  chain := rfl
  unsigned := rfl
  shape := shape_fillFrom hs
  kept cred slot sig ha hne := by
    obtain ⟨b, hb⟩ := exists_slot? hs ha
    rw [slot?_fillFrom ha hb, fillSlot, if_neg hne]
  taken cred slot ha := by
    obtain ⟨b, hb⟩ := exists_slot? hs ha
    rw [slot?_fillFrom ha hb, hb, fillSlot, if_pos rfl]
  count := rfl

lemma fillFrom_self (tx : SignedTx) : tx.fillFrom tx = tx := by
  have hc : ∀ c : Credential, c.fill c = c := by
    intro c
    have hs : ∀ a ∈ c.sigs, fillSlot a a = a := fun a _ => ite_self a
    simp only [Credential.fill, List.zipWith_self, List.map_congr_left hs, List.map_id']
  simp only [fillFrom, List.zipWith_self, hc, List.map_id']

/-! ### Merging -/

lemma checkSameUnsigned_eq (hf : ours.unsignedBytes = .ok front) (hf' : theirs.unsignedBytes = .ok front') :
    ours.checkSameUnsigned theirs =
      if ours.chain = theirs.chain ∧ front = front' then .ok () else .error .differentTransactions := by
  rw [checkSameUnsigned, hf, hf']
  by_cases hc : ours.chain = theirs.chain
  · by_cases hb : front = front'
    · simp [hc, hb, Except.mapError, bind, Except.bind, pure, Except.pure]
    · simp [hc, hb, Except.mapError, bind, Except.bind, throw, throwThe, MonadExceptOf.throw]
  · simp [hc]

lemma merge_of_same (hf : ours.unsignedBytes = .ok front) (hf' : theirs.unsignedBytes = .ok front)
    (hc : ours.chain = theirs.chain) : ours.merge theirs =
      if ours.creds.length = theirs.creds.length then
        match shapeMismatch? 0 ours.creds theirs.creds with
        | some i => .error (.credentialShape i)
        | none => (joinCredentials 0 ours.creds theirs.creds).map fun creds =>
          ({ ours with creds }, changedSlots ours.creds creds)
      else .error (.credentialCount ours.creds.length theirs.creds.length) := by
  rw [merge, checkSameUnsigned_eq hf hf', if_pos ⟨hc, rfl⟩]
  by_cases hl : ours.creds.length = theirs.creds.length
  · rw [if_pos hl]
    simp only [ne_eq, hl, not_true_eq_false, if_false]
    cases shapeMismatch? 0 ours.creds theirs.creds with
    | some i => rfl
    | none => cases joinCredentials 0 ours.creds theirs.creds <;> rfl
  · simp only [ne_eq, hl, not_false_eq_true, if_true, if_false]
    rfl

lemma merge_of_refused (hf : ours.unsignedBytes = .ok front) (hf' : theirs.unsignedBytes = .ok front')
    (h : ours.Refused theirs front front' f) : ours.merge theirs = .error f := by
  cases f with
  | wire f => exact h.elim
  | differentTransactions =>
    have hne : ¬ (ours.chain = theirs.chain ∧ front = front') := by
      rintro ⟨hc, hb⟩
      exact h.elim (fun h => h hc) fun h => h hb
    rw [merge, checkSameUnsigned_eq hf hf', if_neg hne]
    rfl
  | credentialCount n m =>
    obtain ⟨hc, rfl, rfl, rfl, hne⟩ := h
    rw [merge_of_same hf hf' hc, if_neg hne]
  | credentialShape i =>
    obtain ⟨hc, rfl, hl, hi⟩ := h
    have hm : shapeMismatch? 0 ours.creds theirs.creds = some i := by
      refine shapeMismatch?_eq_some.2 ⟨i, (Nat.zero_add i).symm, ?_⟩
      simpa [Credential.shape, imp_iff_not_or] using hi
    rw [merge_of_same hf hf' hc, if_pos hl, hm]
  | conflict cred slot =>
    obtain ⟨hc, rfl, hs, hclash⟩ := h
    obtain ⟨hl, hm⟩ := (map_shape_eq_iff (k := 0)).1 hs
    rw [merge_of_same hf hf' hc, if_pos hl, hm]
    simp only [hclash.join, Nat.zero_add]
    rfl

lemma merge_of_not_clash (hf : ours.unsignedBytes = .ok front) (hf' : theirs.unsignedBytes = .ok front)
    (hc : ours.chain = theirs.chain) (hs : ours.shape = theirs.shape)
    (h : ∀ cred slot, ¬ ours.ClashAt theirs cred slot) :
    ours.merge theirs = .ok (ours.fillFrom theirs, gains ours.slots theirs.slots) := by
  obtain ⟨hl, hm⟩ := (map_shape_eq_iff (k := 0)).1 hs
  have hjoin : joinCredentials 0 ours.creds theirs.creds = .ok (List.zipWith Credential.fill ours.creds theirs.creds) :=
    joinCredentials_of_not_clash fun cred slot hr => h cred slot (clashAt_iff.2 hr)
  rw [merge_of_same hf hf' hc, if_pos hl, hm, hjoin]
  show Except.ok (_, changedSlots _ _) = _
  rw [changedSlots_fill hs]
  rfl

lemma merge_of_not_refused (hf : ours.unsignedBytes = .ok front) (hf' : theirs.unsignedBytes = .ok front')
    (h : ∀ f, ¬ ours.Refused theirs front front' f) :
    ours.shape = theirs.shape ∧
      ours.merge theirs = .ok (ours.fillFrom theirs, gains ours.slots theirs.slots) := by
  have hsame : ours.chain = theirs.chain ∧ front = front' := by
    have := h .differentTransactions
    simpa [Refused] using this
  obtain ⟨hc, rfl⟩ := hsame
  have hl : ours.creds.length = theirs.creds.length := by
    by_contra hl
    exact h (.credentialCount _ _) ⟨hc, rfl, rfl, rfl, hl⟩
  have hm : shapeMismatch? 0 ours.creds theirs.creds = none := by
    cases hm : shapeMismatch? 0 ours.creds theirs.creds with
    | none => rfl
    | some n =>
      obtain ⟨i, _, hi⟩ := shapeMismatch?_eq_some.1 hm
      refine (h (.credentialShape i) ⟨hc, rfl, hl, ?_⟩).elim
      simpa [Credential.shape, imp_iff_not_or] using hi
  have hs : ours.shape = theirs.shape := map_shape_eq_iff.2 ⟨hl, hm⟩
  refine ⟨hs, merge_of_not_clash hf hf' hc hs fun cred slot hclash => ?_⟩
  obtain ⟨cred, slot, hfirst⟩ := hclash.exists_firstClash
  exact h (.conflict cred slot) ⟨hc, rfl, hs, hfirst⟩

lemma merge_eq_error (hf : ours.unsignedBytes = .ok front) (hf' : theirs.unsignedBytes = .ok front') :
    ours.merge theirs = .error f ↔ ours.Refused theirs front front' f := by
  refine ⟨fun h => ?_, merge_of_refused hf hf'⟩
  by_cases hr : ∃ g, ours.Refused theirs front front' g
  · obtain ⟨g, hg⟩ := hr
    obtain rfl := Except.error.inj (h.symm.trans (merge_of_refused hf hf' hg))
    exact hg
  · rw [(merge_of_not_refused hf hf' (not_exists.1 hr)).2] at h
    cases h

lemma exists_unsignedBytes (h : ours.checkSameUnsigned theirs = .ok ()) :
    ∃ front, ours.unsignedBytes = .ok front ∧ theirs.unsignedBytes = .ok front := by
  rw [checkSameUnsigned] at h
  split at h
  · cases h
  · obtain ⟨a, ha, h⟩ := bind_eq_ok.1 h
    obtain ⟨b, hb, h⟩ := bind_eq_ok.1 h
    have hab : a = b := by
      by_contra hne
      rw [if_pos hne] at h
      cases h
    exact ⟨a, mapError_eq_ok.1 ha, hab ▸ mapError_eq_ok.1 hb⟩

lemma merge_eq_ok {n : Nat} (h : ours.merge theirs = .ok (tx, n)) :
    ours.shape = theirs.shape ∧ tx = ours.fillFrom theirs ∧ n = gains ours.slots theirs.slots := by
  obtain ⟨_, hcheck, _⟩ := bind_eq_ok.1 h
  obtain ⟨front, hf, hf'⟩ := exists_unsignedBytes hcheck
  by_cases hr : ∃ f, ours.Refused theirs front front f
  · obtain ⟨f, hr⟩ := hr
    rw [merge_of_refused hf hf' hr] at h
    cases h
  · obtain ⟨hs, hm⟩ := merge_of_not_refused hf hf' (not_exists.1 hr)
    obtain ⟨rfl, rfl⟩ := Prod.mk.inj (Except.ok.inj (h.symm.trans hm))
    exact ⟨hs, rfl, rfl⟩

end SignedTx

/-! ### In place -/

namespace Bench

open SignedTx

variable {ι α β : Type}

def runOn (p : Bench ι α) (copies : ι → SignedTx) : Except MergeFault α × (ι → SignedTx) := (ExceptT.run p).run copies

lemma runOn_bind (p : Bench ι α) (f : α → Bench ι β) (copies : ι → SignedTx) :
    (p >>= f).runOn copies =
      match p.runOn copies with
      | (.ok x, copies') => (f x).runOn copies'
      | (.error e, copies') => (.error e, copies') := by
  simp only [runOn, ExceptT.run_bind, StateT.run_bind]
  rcases (ExceptT.run p).run copies with ⟨_ | _, _⟩ <;> rfl

lemma runOn_get (copies : ι → SignedTx) : (get : Bench ι (ι → SignedTx)).runOn copies = (.ok copies, copies) := rfl

lemma runOn_modify (f : (ι → SignedTx) → ι → SignedTx) (copies : ι → SignedTx) :
    (modify f : Bench ι Unit).runOn copies = (.ok (), f copies) := rfl

variable [DecidableEq ι] {copies : ι → SignedTx} {i j : ι} {done todo news : List Credential} {f : MergeFault}

lemma put_eq_update (tx : SignedTx) : put i tx copies = Function.update copies i tx := by
  funext j
  rw [put, Function.update_apply]

lemma runOn_writeBack_cons (cred : Nat) (c : Credential) (rest : List Credential) (copies : ι → SignedTx) :
    (writeBack i cred (c :: rest)).runOn copies =
      match (writeBack i (cred + 1) rest).runOn (Function.update copies i { copies i with
        creds := (copies i).creds.modify cred fun old => { old with sigs := c.sigs } }) with
      | (.ok n, after) => (.ok (((copies i).creds[cred]?.map (·.changes c)).getD 0 + n), after)
      | (.error e, after) => (.error e, after) := by
  rw [writeBack, runOn_bind, runOn_get]
  dsimp only
  rw [runOn_bind, runOn_modify, put_eq_update]
  dsimp only
  rw [runOn_bind]
  generalize (writeBack i (cred + 1) rest).runOn _ = r
  rcases r with ⟨_ | _, _⟩ <;> rfl

lemma runOn_writeBack (hc : (copies i).creds = done ++ todo)
    (hs : todo.map Credential.shape = news.map Credential.shape) :
    (writeBack i done.length news).runOn copies =
      (.ok (changedSlots todo news), Function.update copies i { copies i with creds := done ++ news }) := by
  -- the copy holds `done` with what is written already, and `todo` with what is not
  induction news generalizing copies done todo with
  | nil =>
    obtain rfl : todo = [] := List.map_eq_nil_iff.1 hs
    have he : { copies i with creds := done ++ [] } = copies i := by rw [← hc]
    rw [he, Function.update_eq_self]
    rfl
  | cons d news ih =>
    cases todo with
    | nil => cases hs
    | cons c todo =>
      obtain ⟨hcd, hrest⟩ := List.cons.inj hs
      have hget : (copies i).creds[done.length]? = some c := by simp [hc]
      have hd : { c with sigs := d.sigs } = d := by rw [show c.extension = d.extension from congrArg Prod.fst hcd]
      have hmod : (copies i).creds.modify done.length (fun old => { old with sigs := d.sigs }) =
          (done ++ [d]) ++ todo := by
        simp [hc, List.modify_eq_take_drop, hd]
      have hi : (Function.update copies i { copies i with creds := (done ++ [d]) ++ todo } i).creds =
          (done ++ [d]) ++ todo := by
        rw [Function.update_self]
      have hrec := ih hi hrest
      rw [List.length_append, List.length_singleton, Function.update_idem, Function.update_self] at hrec
      rw [runOn_writeBack_cons, hmod, hrec, hget, changedSlots]
      simp

lemma runOn_merge_of_error (h : (copies i).merge (copies j) = .error f) :
    (merge i j).runOn copies = (.error f, copies) := by
  rw [merge, runOn_bind, runOn_get]
  dsimp only
  rw [h]
  rfl

lemma runOn_merge_of_ok {tx : SignedTx} {n : Nat} (h : (copies i).merge (copies j) = .ok (tx, n)) :
    (merge i j).runOn copies = (.ok n, Function.update copies i tx) := by
  obtain ⟨hs, rfl, rfl⟩ := merge_eq_ok h
  have hnew : (copies i).creds.map Credential.shape = ((copies i).fillFrom (copies j)).creds.map Credential.shape :=
    (shape_fillFrom hs).symm
  rw [merge, runOn_bind, runOn_get]
  dsimp only
  rw [h]
  refine (runOn_writeBack (List.nil_append _).symm hnew).trans ?_
  rw [fillFrom, changedSlots_fill hs]
  rfl

/-- A merge in place is refused for the first reason that there is, and then every copy is as it was before. Else the
copy that is merged into takes all signatures that only the other one has, and no other copy changes. -/
theorem merge_exact {front front' : Bytes} (hi : (copies i).unsignedBytes = .ok front)
    (hj : (copies j).unsignedBytes = .ok front') :
    (∀ f, ((merge i j).runOn copies).1 = .error f ↔ (copies i).Refused (copies j) front front' f) ∧
    (∀ f after, (merge i j).runOn copies = (.error f, after) → after = copies) ∧
    ∀ n after, (merge i j).runOn copies = (.ok n, after) →
      ∃ tx, (copies i).Takes (copies j) tx n ∧ after = Function.update copies i tx ∧ after j = copies j := by
  by_cases hr : ∃ f, (copies i).Refused (copies j) front front' f
  · obtain ⟨f, hf⟩ := hr
    have hmerge := merge_of_refused hi hj hf
    have hrun := runOn_merge_of_error hmerge
    refine ⟨fun g => ?_, fun g after h => ?_, fun n after h => ?_⟩
    · rw [hrun, ← merge_eq_error hi hj, hmerge]
      simp
    · rw [hrun] at h
      exact (congrArg Prod.snd h).symm
    · rw [hrun] at h
      cases h
  · obtain ⟨hs, hmerge⟩ := merge_of_not_refused hi hj (not_exists.1 hr)
    have hrun := runOn_merge_of_ok hmerge
    refine ⟨fun g => ?_, fun g after h => ?_, fun n after h => ?_⟩
    · rw [hrun]
      simp [not_exists.1 hr g]
    · rw [hrun] at h
      cases h
    · rw [hrun] at h
      cases h
      refine ⟨_, fillFrom_takes hs, rfl, ?_⟩
      by_cases hij : j = i
      · rw [hij, fillFrom_self, Function.update_eq_self]
      · exact Function.update_of_ne hij _ _

def plain (sigs : List Bytes) : SignedTx where
  chain := .exchange
  unsigned := .record Chain.Exchange.plainTx
    [.record Chain.Component.baseTx [.int 1, .bytes (Bytes.zeros 32), .list [], .list [], .bytes []]]
  creds := sigs.map fun sig => ⟨.secp, [sig]⟩

def rivals (theirs : Bool) : SignedTx :=
  plain [if theirs then List.replicate signatureSize 1 else emptySignature, List.replicate 64 (if theirs then 2 else 3)]

theorem rivals_unchanged : ∃ front, (∀ b, (rivals b).unsignedBytes = .ok front) ∧
    (merge false true).runOn rivals = (.error (.conflict 1 0), rivals) := by
  have hsome : (rivals false).unsignedBytes.toOption.isSome = true := by decide +kernel
  obtain ⟨front, hf⟩ := exists_eq_ok hsome
  have hb : ∀ b, (rivals b).unsignedBytes = .ok front := fun b => hf
  obtain ⟨hfault, hkept, _⟩ := merge_exact (hb false) (hb true)
  have hclash : (rivals false).ClashAt (rivals true) 1 0 := ⟨_, _, rfl, rfl, by decide, by decide, by decide⟩
  have hfirst : (rivals false).FirstClash (rivals true) 1 0 := by
    refine ⟨hclash, ?_⟩
    rintro cred (_ | slot) (hlt | ⟨rfl, hlt⟩) ⟨a, b, ha, hb, hne, _⟩
    · obtain rfl := Nat.lt_one_iff.1 hlt
      exact hne (Option.some.inj ha).symm
    · omega
    · obtain rfl := Nat.lt_one_iff.1 hlt
      cases ha
    · omega
  have hfst := (hfault (.conflict 1 0)).2 ⟨rfl, rfl, rfl, hfirst⟩
  exact ⟨front, hb, Prod.ext hfst (hkept _ _ (Prod.ext hfst rfl))⟩

end Bench

end Countersign
