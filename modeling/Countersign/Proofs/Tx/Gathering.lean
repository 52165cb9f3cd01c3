import Countersign.Proofs.Tx.Outcome
import Mathlib.Data.Set.Lattice

/-! Merging all copies of a transaction into one, in any order and any grouping. What a copy has at last depends only on
which of the first copies have found their way to it, so all ways of merging them end alike. -/

namespace Countersign

open Wire

namespace SignedTx

variable {a b tx tx' : SignedTx} {cred slot : Nat} {sig : Bytes}

structure Alike (a b : SignedTx) : Prop where
  chain : a.chain = b.chain
  unsigned : ∃ front, a.unsignedBytes = .ok front ∧ b.unsignedBytes = .ok front
  shape : a.shape = b.shape

lemma Alike.symm (h : a.Alike b) : b.Alike a := by
  obtain ⟨front, ha, hb⟩ := h.unsigned
  exact ⟨h.chain.symm, ⟨front, hb, ha⟩, h.shape.symm⟩

lemma Alike.trans {c : SignedTx} (h : a.Alike b) (h' : b.Alike c) : a.Alike c := by
  obtain ⟨front, ha, hb⟩ := h.unsigned
  obtain ⟨front', hb', hc⟩ := h'.unsigned
  obtain rfl := Except.ok.inj (hb.symm.trans hb')
  exact ⟨h.chain.trans h'.chain, ⟨front, ha, hc⟩, h.shape.trans h'.shape⟩

lemma Alike.fillFrom (h : a.Alike b) : (a.fillFrom b).Alike a := by
  obtain ⟨front, ha, _⟩ := h.unsigned
  exact ⟨rfl, ⟨front, ha, ha⟩, shape_fillFrom h.shape⟩

lemma creds_eq_of_slots (hs : a.shape = b.shape) (h : ∀ cred slot, a.slot? cred slot = b.slot? cred slot) :
    a.creds = b.creds := by
  apply List.ext_getElem?
  intro i
  have hi := congrArg (·[i]?) hs
  simp only [shape, List.getElem?_map] at hi
  cases hc : a.creds[i]? with
  | none =>
    rw [hc] at hi
    exact (Option.map_eq_none_iff.1 hi.symm).symm
  | some c =>
    rw [hc] at hi
    obtain ⟨d, hd, hcd⟩ := Option.map_eq_some_iff.1 hi.symm
    have hsigs : c.sigs = d.sigs := by
      apply List.ext_getElem?
      intro slot
      simpa [slot?, hc, hd] using h i slot
    obtain ⟨e, sigs⟩ := c
    obtain ⟨e', sigs'⟩ := d
    obtain rfl : e' = e := congrArg Prod.fst hcd
    obtain rfl : sigs = sigs' := hsigs
    exact hd.symm

def Filled (tx : SignedTx) (cred slot : Nat) (sig : Bytes) : Prop :=
  tx.slot? cred slot = some sig ∧ sig ≠ emptySignature

lemma clashAt_iff_filled : a.ClashAt b cred slot ↔
    ∃ sig sig', a.Filled cred slot sig ∧ b.Filled cred slot sig' ∧ sig ≠ sig' := by
  constructor
  · rintro ⟨sig, sig', ha, hb, hne, hne', hd⟩
    exact ⟨sig, sig', ⟨ha, hne⟩, ⟨hb, hne'⟩, hd⟩
  · rintro ⟨sig, sig', ⟨ha, hne⟩, ⟨hb, hne'⟩, hd⟩
    exact ⟨sig, sig', ha, hb, hne, hne', hd⟩

lemma creds_eq_of_filled (hs : a.shape = b.shape)
    (h : ∀ cred slot sig, a.Filled cred slot sig ↔ b.Filled cred slot sig) : a.creds = b.creds := by
  apply creds_eq_of_slots hs
  intro cred slot
  cases ha : a.slot? cred slot with
  | none =>
    cases hb : b.slot? cred slot with
    | none => rfl
    | some sig =>
      obtain ⟨_, ha'⟩ := exists_slot? hs.symm hb
      rw [ha] at ha'
      cases ha'
  | some sig =>
    obtain ⟨sig', hb⟩ := exists_slot? hs ha
    rw [hb]
    by_cases he : sig = emptySignature
    · by_cases he' : sig' = emptySignature
      · rw [he, he']
      · have := ((h cred slot sig').2 ⟨hb, he'⟩).1
        rw [← ha, this]
    · have := ((h cred slot sig).1 ⟨ha, he⟩).1
      rw [← this, hb]

lemma fillSlot_eq_iff {x y : Bytes} (hc : ¬ Clash x y) (hne : sig ≠ emptySignature) :
    fillSlot x y = sig ↔ x = sig ∨ y = sig := by
  rw [fillSlot]
  split
  · rename_i hx
    simp [hx, hne.symm]
  · rename_i hx
    refine ⟨.inl, ?_⟩
    rintro (h | rfl)
    · exact h
    · by_contra hxy
      exact hc ⟨hx, hne, hxy⟩

lemma filled_fillFrom (hs : a.shape = b.shape) (hc : ¬ a.ClashAt b cred slot) :
    (a.fillFrom b).Filled cred slot sig ↔ a.Filled cred slot sig ∨ b.Filled cred slot sig := by
  have hfill {x y : Bytes} (ha : a.slot? cred slot = some x) (hb : b.slot? cred slot = some y) :
      (a.fillFrom b).Filled cred slot sig ↔ a.Filled cred slot sig ∨ b.Filled cred slot sig := by
    have hxy : ¬ Clash x y := fun h => hc ⟨x, y, ha, hb, h⟩
    simp only [Filled, slot?_fillFrom ha hb, ha, hb, Option.some.injEq, ← or_and_right]
    exact and_congr_left (fillSlot_eq_iff hxy)
  cases ha : a.slot? cred slot with
  | some x =>
    obtain ⟨y, hb⟩ := exists_slot? hs ha
    exact hfill ha hb
  | none =>
    have hnone {tx : SignedTx} (ht : tx.shape = a.shape) : ¬ tx.Filled cred slot sig := by
      rintro ⟨h, _⟩
      obtain ⟨x, hx⟩ := exists_slot? ht h
      cases ha.symm.trans hx
    simp [hnone rfl, hnone hs.symm, hnone (shape_fillFrom hs)]

lemma Alike.merge_of_not_clash (h : a.Alike b) (hc : ∀ cred slot, ¬ a.ClashAt b cred slot) :
    a.merge b = .ok (a.fillFrom b, gains a.slots b.slots) := by
  obtain ⟨front, ha, hb⟩ := h.unsigned
  exact SignedTx.merge_of_not_clash ha hb h.chain h.shape hc

lemma Alike.merge_of_clash (h : a.Alike b) (hc : a.ClashAt b cred slot) :
    ∃ cred slot, a.merge b = .error (.conflict cred slot) := by
  obtain ⟨front, ha, hb⟩ := h.unsigned
  obtain ⟨cred, slot, hfirst⟩ := hc.exists_firstClash
  exact ⟨cred, slot, merge_of_refused ha hb ⟨h.chain, rfl, h.shape, hfirst⟩⟩

lemma not_clash_of_le (h : ∀ cred slot sig, b.Filled cred slot sig → a.Filled cred slot sig) :
    ¬ a.ClashAt b cred slot := by
  intro hclash
  obtain ⟨sig, sig', ha, hb, hne⟩ := clashAt_iff_filled.1 hclash
  exact hne (Option.some.inj (ha.1.symm.trans (h _ _ _ hb).1))

lemma Alike.fillFrom_of_le (h : a.Alike b) (hle : ∀ cred slot sig, b.Filled cred slot sig → a.Filled cred slot sig) :
    a.fillFrom b = a ∧ gains a.slots b.slots = 0 := by
  have hcreds : (a.fillFrom b).creds = a.creds := by
    apply creds_eq_of_filled (shape_fillFrom h.shape)
    intro cred slot sig
    rw [filled_fillFrom h.shape (not_clash_of_le hle)]
    exact or_iff_left_of_imp (hle cred slot sig)
  constructor
  · obtain ⟨chain, unsigned, creds⟩ := a
    exact congrArg (SignedTx.mk chain unsigned) hcreds
  · rw [slots, slots, ← changedSlots_fill h.shape]
    exact (congrArg (changedSlots a.creds) hcreds).trans (changedSlots_self a.creds)

def SameOutcome : Except MergeFault (SignedTx × Nat) → Except MergeFault (SignedTx × Nat) → Prop
  | .ok (x, _), .ok (y, _) => x.creds = y.creds
  | .error (.conflict ..), .error (.conflict ..) => True
  | _, _ => False

end SignedTx

section Family

open SignedTx

variable {ι : Type} {copies : ι → SignedTx} {known known' : Set ι} {a b : SignedTx}

def Clashing (copies : ι → SignedTx) (known : Set ι) : Prop :=
  ∃ i ∈ known, ∃ j ∈ known, ∃ cred slot, (copies i).ClashAt (copies j) cred slot

structure Gathered (copies : ι → SignedTx) (known : Set ι) (tx : SignedTx) : Prop where
  alike : ∀ i, tx.Alike (copies i)
  filled : ∀ cred slot sig, tx.Filled cred slot sig ↔ ∃ i ∈ known, (copies i).Filled cred slot sig

lemma gathered_singleton (h : ∀ i j, (copies i).Alike (copies j)) (i : ι) : Gathered copies {i} (copies i) :=
  ⟨h i, fun cred slot sig => by simp⟩

namespace Gathered

lemma pair_alike [Nonempty ι] (ha : Gathered copies known a) (hb : Gathered copies known' b) : a.Alike b := by
  obtain ⟨i⟩ := ‹Nonempty ι›
  exact (ha.alike i).trans (hb.alike i).symm

lemma not_clashing (h : Gathered copies known a) : ¬ Clashing copies known := by
  rintro ⟨i, hi, j, hj, cred, slot, hc⟩
  obtain ⟨sig, sig', hsig, hsig', hne⟩ := clashAt_iff_filled.1 hc
  have ha := (h.filled cred slot sig).2 ⟨i, hi, hsig⟩
  have ha' := (h.filled cred slot sig').2 ⟨j, hj, hsig'⟩
  exact hne (Option.some.inj (ha.1.symm.trans ha'.1))

lemma creds_eq [Nonempty ι] (ha : Gathered copies known a) (hb : Gathered copies known b) : a.creds = b.creds :=
  creds_eq_of_filled (ha.pair_alike hb).shape fun cred slot sig =>
    (ha.filled cred slot sig).trans (hb.filled cred slot sig).symm

lemma merge [Nonempty ι] (ha : Gathered copies known a) (hb : Gathered copies known' b) :
    Gathered copies (known ∪ known') (a.fillFrom b) ∧ a.merge b = .ok (a.fillFrom b, gains a.slots b.slots) ∨
    Clashing copies (known ∪ known') ∧ ∃ cred slot, a.merge b = .error (.conflict cred slot) := by
  have hab := ha.pair_alike hb
  by_cases hc : ∃ cred slot, a.ClashAt b cred slot
  · right
    obtain ⟨cred, slot, hc⟩ := hc
    obtain ⟨sig, sig', hsig, hsig', hne⟩ := clashAt_iff_filled.1 hc
    obtain ⟨i, hi, hfi⟩ := (ha.filled cred slot sig).1 hsig
    obtain ⟨j, hj, hfj⟩ := (hb.filled cred slot sig').1 hsig'
    have hclash : (copies i).ClashAt (copies j) cred slot := clashAt_iff_filled.2 ⟨sig, sig', hfi, hfj, hne⟩
    exact ⟨⟨i, .inl hi, j, .inr hj, cred, slot, hclash⟩, hab.merge_of_clash hc⟩
  · left
    simp only [not_exists] at hc
    refine ⟨⟨fun i => hab.fillFrom.trans (ha.alike i), fun cred slot sig => ?_⟩, hab.merge_of_not_clash hc⟩
    rw [filled_fillFrom hab.shape (hc cred slot), ha.filled, hb.filled]
    simp only [Set.mem_union, or_and_right, exists_or]

end Gathered

lemma Gathered.slot?_eq_some [Nonempty ι] {cred slot : Nat} {sig : Bytes} (h : Gathered copies Set.univ a) :
    a.slot? cred slot = some sig ↔
      if sig = emptySignature then ∀ i, (copies i).slot? cred slot = some emptySignature
      else ∃ i, (copies i).slot? cred slot = some sig := by
  have hfilled : ∀ sig, a.Filled cred slot sig ↔ ∃ i, (copies i).Filled cred slot sig := by
    simpa using h.filled cred slot
  split
  · rename_i he
    rw [he]
    constructor
    · intro ha i
      obtain ⟨sig', hi⟩ := exists_slot? (h.alike i).shape ha
      by_contra hne
      have hi' : (copies i).Filled cred slot sig' := ⟨hi, fun he' => hne (he' ▸ hi)⟩
      obtain ⟨ha', hne'⟩ := (hfilled sig').2 ⟨i, hi'⟩
      exact hne' (Option.some.inj (ha'.symm.trans ha))
    · intro hall
      obtain ⟨i⟩ := ‹Nonempty ι›
      obtain ⟨sig', ha⟩ := exists_slot? (h.alike i).shape.symm (hall i)
      by_contra hne
      have ha' : a.Filled cred slot sig' := ⟨ha, fun he' => hne (he' ▸ ha)⟩
      obtain ⟨j, hj, hne'⟩ := (hfilled sig').1 ha'
      exact hne' (Option.some.inj (hj.symm.trans (hall j)))
  · rename_i hne
    simpa [Filled, hne] using hfilled sig

lemma Gathered.filled_mono (ha : Gathered copies known a) (hb : Gathered copies known' b) (hs : known ⊆ known')
    (cred slot : Nat) (sig : Bytes) (hf : a.Filled cred slot sig) : b.Filled cred slot sig := by
  obtain ⟨i, hi, hfi⟩ := (ha.filled cred slot sig).1 hf
  exact (hb.filled cred slot sig).2 ⟨i, hs hi, hfi⟩

def Ends (copies : ι → SignedTx) (known : Set ι) : Except MergeFault (SignedTx × Nat) → Prop
  | .ok (tx, _) => Gathered copies known tx
  | .error f => Clashing copies known ∧ ∃ cred slot, f = .conflict cred slot

lemma Gathered.ends [Nonempty ι] (ha : Gathered copies known a) (hb : Gathered copies known' b) :
    Ends copies (known ∪ known') (a.merge b) := by
  rcases ha.merge hb with ⟨hg, hm⟩ | ⟨hc, cred, slot, hm⟩
  · rw [hm]
    exact hg
  · rw [hm]
    exact ⟨hc, cred, slot, rfl⟩

lemma Clashing.mono (h : Clashing copies known) (hs : known ⊆ known') : Clashing copies known' := by
  obtain ⟨i, hi, j, hj, hc⟩ := h
  exact ⟨i, hs hi, j, hs hj, hc⟩

lemma Ends.bind {r : Except MergeFault (SignedTx × Nat)} {f : SignedTx × Nat → Except MergeFault (SignedTx × Nat)}
    (h : Ends copies known r) (hs : known ⊆ known')
    (hf : ∀ x n, Gathered copies known x → Ends copies known' (f (x, n))) : Ends copies known' (r >>= f) := by
  cases r with
  | ok x => exact hf x.1 x.2 h
  | error e => exact ⟨h.1.mono hs, h.2⟩

lemma Ends.same [Nonempty ι] {r r' : Except MergeFault (SignedTx × Nat)} (h : Ends copies known r)
    (h' : Ends copies known r') : SameOutcome r r' := by
  rcases r with e | x <;> rcases r' with e' | x'
  · obtain ⟨_, _, _, rfl⟩ := h
    obtain ⟨_, _, _, rfl⟩ := h'
    trivial
  · exact absurd h.1 (Gathered.not_clashing h')
  · exact absurd h'.1 (Gathered.not_clashing h)
  · exact Gathered.creds_eq h h'

lemma Gathered.comm [Nonempty ι] (ha : Gathered copies known a) (hb : Gathered copies known' b) :
    SameOutcome (a.merge b) (b.merge a) := by
  have hba := hb.ends ha
  rw [Set.union_comm] at hba
  exact (ha.ends hb).same hba

lemma Gathered.assoc [Nonempty ι] {c : SignedTx} {known'' : Set ι} (ha : Gathered copies known a)
    (hb : Gathered copies known' b) (hc : Gathered copies known'' c) : SameOutcome
      (do let (x, _) ← a.merge b; x.merge c)
      (do let (y, _) ← b.merge c; a.merge y) := by
  have hleft : Ends copies (known ∪ known' ∪ known'') (do let (x, _) ← a.merge b; x.merge c) :=
    (ha.ends hb).bind Set.subset_union_left fun x _ hx => hx.ends hc
  have hright : Ends copies (known ∪ (known' ∪ known'')) (do let (y, _) ← b.merge c; a.merge y) :=
    (hb.ends hc).bind Set.subset_union_right fun y _ hy => ha.ends hy
  rw [← Set.union_assoc] at hright
  exact hleft.same hright

end Family

/-! ### Schedules -/

namespace Bench

open SignedTx

variable {ι : Type} [DecidableEq ι] {copies now : ι → SignedTx} {known : ι → Set ι} {moves : List (ι × ι)} {t : ι}

def mergeAll : List (ι × ι) → Bench ι Unit
  | [] => return ()
  | (i, j) :: moves => do
    let _ ← merge i j
    mergeAll moves

def reach : List (ι × ι) → (ι → Set ι) → ι → Set ι
  | [], known => known
  | (i, j) :: moves, known => reach moves (Function.update known i (known i ∪ known j))

def Gathers (moves : List (ι × ι)) (t : ι) : Prop := ∀ i, i ∈ reach moves (fun i => {i}) t

lemma runOn_mergeAll_cons (i j : ι) (moves : List (ι × ι)) (copies : ι → SignedTx) :
    (mergeAll ((i, j) :: moves)).runOn copies =
      match (merge i j).runOn copies with
      | (.ok _, after) => (mergeAll moves).runOn after
      | (.error e, after) => (.error e, after) := by
  rw [mergeAll, runOn_bind]
  rcases (merge i j).runOn copies with ⟨_ | _, _⟩ <;> rfl

lemma runOn_merge_of_le {i j : ι} (h : (copies i).Alike (copies j))
    (hle : ∀ cred slot sig, (copies j).Filled cred slot sig → (copies i).Filled cred slot sig) :
    (merge i j).runOn copies = (.ok 0, copies) := by
  have hm := h.merge_of_not_clash fun _ _ => not_clash_of_le hle
  obtain ⟨hfill, hcount⟩ := h.fillFrom_of_le hle
  rw [runOn_merge_of_ok hm, hfill, hcount, Function.update_eq_self]

lemma gathered_update {known' : Set ι} {tx : SignedTx} (h : ∀ i, Gathered copies (known i) (now i)) (i : ι)
    (htx : Gathered copies known' tx) (k : ι) :
    Gathered copies (Function.update known i known' k) (Function.update now i tx k) := by
  by_cases hk : k = i
  · subst hk
    rwa [Function.update_self, Function.update_self]
  · rw [Function.update_of_ne hk, Function.update_of_ne hk]
    exact h k

lemma mergeAll_gathers [Nonempty ι] (h : ∀ i, Gathered copies (known i) (now i)) :
    (∃ after, (mergeAll moves).runOn now = (.ok (), after) ∧ ∀ i, Gathered copies (reach moves known i) (after i)) ∨
    Clashing copies Set.univ ∧ ∃ cred slot, ((mergeAll moves).runOn now).1 = .error (.conflict cred slot) := by
  induction moves generalizing known now with
  | nil => exact .inl ⟨now, rfl, h⟩
  | cons move moves ih =>
    obtain ⟨i, j⟩ := move
    rcases (h i).merge (h j) with ⟨hg, hm⟩ | ⟨hc, cred, slot, hm⟩
    · rw [runOn_mergeAll_cons, runOn_merge_of_ok hm]
      exact ih (gathered_update h i hg)
    · right
      refine ⟨hc.mono (Set.subset_univ _), cred, slot, ?_⟩
      rw [runOn_mergeAll_cons, runOn_merge_of_error hm]

lemma subset_reach (moves : List (ι × ι)) (known : ι → Set ι) (k : ι) : known k ⊆ reach moves known k := by
  induction moves generalizing known with
  | nil => exact subset_rfl
  | cons move moves ih =>
    obtain ⟨i, j⟩ := move
    refine subset_trans ?_ (ih _)
    by_cases hk : k = i
    · subst hk
      rw [Function.update_self]
      exact Set.subset_union_left
    · rw [Function.update_of_ne hk]

lemma reach_append (moves moves' : List (ι × ι)) (known : ι → Set ι) :
    reach (moves ++ moves') known = reach moves' (reach moves known) := by
  induction moves generalizing known with
  | nil => rfl
  | cons move moves ih => exact ih _

end Bench

inductive Grouping (ι : Type)
  | copy (i : ι)
  | join (left right : Grouping ι)

namespace Grouping

variable {ι : Type}

def members : Grouping ι → List ι
  | copy i => [i]
  | join left right => left.members ++ right.members

def target : Grouping ι → ι
  | copy i => i
  | join left _ => left.target

def moves : Grouping ι → List (ι × ι)
  | copy _ => []
  | join left right => left.moves ++ right.moves ++ [(left.target, right.target)]

variable [DecidableEq ι]

lemma members_reach (g : Grouping ι) {known : ι → Set ι} (hk : ∀ i, i ∈ known i) {i : ι} (hi : i ∈ g.members) :
    i ∈ Bench.reach g.moves known g.target := by
  -- the merges of the right part come after those of the left one, which has what it needs by then
  induction g generalizing known with
  | copy j =>
    obtain rfl := List.mem_singleton.1 hi
    exact hk i
  | join left right ihl ihr =>
    have hk' : ∀ i, i ∈ Bench.reach left.moves known i := fun i => Bench.subset_reach _ _ i (hk i)
    rw [moves, Bench.reach_append, Bench.reach_append, target, Bench.reach, Bench.reach, Function.update_self]
    rcases List.mem_append.1 hi with hl | hr
    · exact .inl (Bench.subset_reach _ _ _ (ihl hk hl))
    · exact .inr (ihr hk' hr)

lemma gathers (g : Grouping ι) (h : ∀ i, i ∈ g.members) : Bench.Gathers g.moves g.target :=
  fun i => g.members_reach Set.mem_singleton (h i)

end Grouping

namespace Bench

open SignedTx

variable {ι : Type} [DecidableEq ι]

structure PartialJoin (copies : ι → SignedTx) : Prop where
  succeeds : ∀ moves t, Gathers moves t →
    (((mergeAll moves).runOn copies).1 = .ok () ↔ ¬ Clashing copies Set.univ)
  refused : ∀ moves f, ((mergeAll moves).runOn copies).1 = .error f → ∃ cred slot, f = .conflict cred slot
  found : ∀ moves t after, Gathers moves t → (mergeAll moves).runOn copies = (.ok (), after) →
    ∀ cred slot sig, (after t).slot? cred slot = some sig ↔
      if sig = emptySignature then ∀ i, (copies i).slot? cred slot = some emptySignature
      else ∃ i, (copies i).slot? cred slot = some sig
  confluent : ∀ moves t after moves' t' after', Gathers moves t → Gathers moves' t' →
    (mergeAll moves).runOn copies = (.ok (), after) → (mergeAll moves').runOn copies = (.ok (), after') →
      (after t).creds = (after' t').creds
  comm : ∀ i j, SameOutcome ((copies i).merge (copies j)) ((copies j).merge (copies i))
  assoc : ∀ i j k, SameOutcome
    (do let (x, _) ← (copies i).merge (copies j); x.merge (copies k))
    (do let (y, _) ← (copies j).merge (copies k); (copies i).merge y)
  idem : ∀ i j, copies i = copies j → (merge i j).runOn copies = (.ok 0, copies)
  absorbs : ∀ i j n after, (merge i j).runOn copies = (.ok n, after) → (merge i j).runOn after = (.ok 0, after)

variable {copies after : ι → SignedTx} {moves : List (ι × ι)} {t : ι} {f : MergeFault}

lemma gathered_of_ok (h : ∀ i j, (copies i).Alike (copies j)) (hg : Gathers moves t)
    (hr : (mergeAll moves).runOn copies = (.ok (), after)) : Gathered copies Set.univ (after t) := by
  have : Nonempty ι := ⟨t⟩
  rcases mergeAll_gathers (gathered_singleton h) with ⟨after', hr', hall⟩ | ⟨_, _, _, hr'⟩
  · obtain rfl := congrArg Prod.snd (hr'.symm.trans hr)
    have huniv : reach moves (fun i => {i}) t = Set.univ := Set.eq_univ_of_forall hg
    exact huniv ▸ hall t
  · rw [hr] at hr'
    cases hr'

lemma clashing_of_error (h : ∀ i j, (copies i).Alike (copies j)) (hr : ((mergeAll moves).runOn copies).1 = .error f) :
    Clashing copies Set.univ ∧ ∃ cred slot, f = .conflict cred slot := by
  cases moves with
  | nil => cases hr
  | cons move moves =>
    have : Nonempty ι := ⟨move.1⟩
    rcases mergeAll_gathers (gathered_singleton h) with ⟨_, hr', _⟩ | ⟨hc, cred, slot, hr'⟩
    · rw [hr'] at hr
      cases hr
    · exact ⟨hc, cred, slot, Except.error.inj (hr.symm.trans hr')⟩

lemma mergeAll_eq_ok (h : ∀ i j, (copies i).Alike (copies j)) (hg : Gathers moves t) :
    ((mergeAll moves).runOn copies).1 = .ok () ↔ ¬ Clashing copies Set.univ := by
  rcases hr : (mergeAll moves).runOn copies with ⟨f | u, after⟩
  · have hc := clashing_of_error h (congrArg Prod.fst hr)
    simp [hc.1]
  · have hc := (gathered_of_ok h hg hr).not_clashing
    simp [hc]

lemma merge_again {i j : ι} {n : Nat} (h : ∀ i j, (copies i).Alike (copies j))
    (hr : (merge i j).runOn copies = (.ok n, after)) : (merge i j).runOn after = (.ok 0, after) := by
  have : Nonempty ι := ⟨i⟩
  have hone := gathered_singleton h
  rcases (hone i).merge (hone j) with ⟨hg, hm⟩ | ⟨_, _, _, hm⟩
  · rw [runOn_merge_of_ok hm] at hr
    obtain rfl := congrArg Prod.snd hr
    have hall := gathered_update hone i hg
    apply runOn_merge_of_le ((hall i).pair_alike (hall j))
    apply (hall j).filled_mono (hall i)
    by_cases hj : j = i
    · rw [hj]
    · rw [Function.update_of_ne hj, Function.update_self]
      exact Set.subset_union_right
  · rw [runOn_merge_of_error hm] at hr
    cases hr

/-- Copies of one transaction can be merged into one of them in any order and any grouping, with the same outcome. -/
theorem merging_joins (h : ∀ i j, (copies i).Alike (copies j)) :
    (∀ g : Grouping ι, (∀ i, i ∈ g.members) → Gathers g.moves g.target) ∧ PartialJoin copies := by
  have hone := gathered_singleton h
  have hjoin : PartialJoin copies := {
    succeeds := fun moves t hg => mergeAll_eq_ok h hg
    refused := fun moves f hr => (clashing_of_error h hr).2
    found := by
      intro moves t after hg hr cred slot sig
      have : Nonempty ι := ⟨t⟩
      exact (gathered_of_ok h hg hr).slot?_eq_some
    confluent := by
      intro moves t after moves' t' after' hg hg' hr hr'
      have : Nonempty ι := ⟨t⟩
      exact (gathered_of_ok h hg hr).creds_eq (gathered_of_ok h hg' hr')
    comm := by
      intro i j
      have : Nonempty ι := ⟨i⟩
      exact (hone i).comm (hone j)
    assoc := by
      intro i j k
      have : Nonempty ι := ⟨i⟩
      exact (hone i).assoc (hone j) (hone k)
    idem := by
      intro i j he
      apply runOn_merge_of_le (h i j)
      intro cred slot sig hs
      rwa [he]
    absorbs := fun i j n after hr => merge_again h hr }
  exact ⟨Grouping.gathers, hjoin⟩

def shares (i : Fin 3) : SignedTx :=
  plain ((List.finRange 3).map fun k => if k = i then List.replicate signatureSize 1 else emptySignature)

theorem shares_joined : (∀ i j, (shares i).Alike (shares j)) ∧
    ∃ after, (mergeAll [(1, 2), (0, 1)]).runOn shares = (.ok (), after) ∧
      ∀ cred < 3, (after 0).slot? cred 0 = some (List.replicate signatureSize 1) := by
  have hsome : (shares 0).unsignedBytes.toOption.isSome = true := by decide +kernel
  obtain ⟨front, hf⟩ := exists_eq_ok hsome
  have hb : ∀ i, (shares i).unsignedBytes = .ok front := fun i => hf
  have hshape : ∀ i j, (shares i).shape = (shares j).shape := by decide +kernel
  have halike : ∀ i j, (shares i).Alike (shares j) := fun i j => ⟨rfl, ⟨front, hb i, hb j⟩, hshape i j⟩
  obtain ⟨hgroup, hjoin⟩ := merging_joins halike
  have hg : Gathers [(1, 2), (0, 1)] (0 : Fin 3) :=
    hgroup (.join (.copy 0) (.join (.copy 1) (.copy 2))) (by decide)
  have hdone : ((mergeAll [(1, 2), (0, 1)]).runOn shares).1.toOption.isSome = true := by decide +kernel
  obtain ⟨_, hok⟩ := exists_eq_ok hdone
  refine ⟨halike, _, Prod.ext hok rfl, fun cred hlt => ?_⟩
  rw [hjoin.found _ 0 _ hg (Prod.ext hok rfl), if_neg (by decide)]
  have hown : ∀ i : Fin 3, (shares i).slot? i 0 = some (List.replicate signatureSize 1) := by decide +kernel
  exact ⟨⟨cred, hlt⟩, hown ⟨cred, hlt⟩⟩

end Bench

end Countersign
