import Countersign.Draft.Sign
import Countersign.Proofs.Draft.Phase

namespace Countersign.Draft.Session

open Digest

variable {σ : Type} {d : Desk σ} {data : Bytes}

lemma runOn_commit_of_committed {id : String} (r : Resolver σ) (s : Submitter) (wait : Bool)
    (hc : d.copy.committed = some id) : (commit r s wait).runOn d = (.ok id, d) := by
  rw [commit, runOn_bind, runOn_copy]
  dsimp only
  rw [hc]
  rfl

lemma runOn_sign_of_committed {id : String} (r : Resolver σ) (k : Signatory) (o : SignOptions) (s : Option Submitter)
    (hc : d.copy.committed = some id) : (sign r k o s).runOn d = (.ok ⟨true, true, id⟩, d) := by
  rw [sign, runOn_bind, runOn_copy]
  dsimp only
  rw [hc]
  rfl

lemma runOn_commit (r : Resolver σ) (s : Submitter) (wait : Bool) (hc : d.copy.committed = none) :
    (commit r s wait).runOn d =
      match (isReady r).runOn d with
      | (.error f, d') => (.error f, d')
      | (.ok false, d') => (.error (.notReady d'.copy.tx.kind), d')
      | (.ok true, d') =>
        match d'.copy.tx.toBytes with
        | .error f => (.error (.wire f), d')
        | .ok data =>
          (attempts s d'.copy.policy data (Ident.encode (sha256 data)) wait (d'.copy.policy.attempts - 1) 0).runOn
            d' := by
  rw [commit, runOn_bind, runOn_copy]
  dsimp only
  rw [hc]
  dsimp only
  rw [runOn_bind]
  rcases (isReady r).runOn d with ⟨f | _ | _, d'⟩
  · rfl
  · rfl
  · dsimp only
    rw [if_pos rfl, runOn_bind, runOn_copy]
    dsimp only
    rw [runOn_bind, runOn_lift, Draft.toBytes]
    cases hw : d'.copy.tx.toBytes with
    | error f => rfl
    | ok data =>
      dsimp only [Except.mapError]
      rw [runOn_bind, runOn_tx]
      dsimp only
      rw [runOn_bind, runOn_lift, SignedTx.idText_eq_ok hw]
      rfl

lemma runOn_finish (r : Resolver σ) (o : SignOptions) (s : Option Submitter) (d : Desk σ) :
    (finish r o s).runOn d =
      match o.commitIfReady, s with
      | true, some s =>
        match (commit r s o.wait).runOn d with
        | (.ok id, d') => (.ok ⟨true, true, id⟩, d')
        | (.error f, d') => (.error f, d')
      | _, _ => ((d.copy.tx.idText.mapError .wire).map (⟨true, false, ·⟩), d) := by
  obtain ⟨checkFirst, commitIfReady, wait⟩ := o
  have hlast : (tx >>= fun t => liftM (t.idText.mapError Fault.wire) >>= fun id => pure ⟨true, false, id⟩ :
      Session σ SignResult).runOn d = ((d.copy.tx.idText.mapError .wire).map (⟨true, false, ·⟩), d) := by
    rw [runOn_bind, runOn_tx]
    dsimp only
    rw [runOn_bind, runOn_lift]
    cases d.copy.tx.idText <;> rfl
  cases commitIfReady with
  | false => exact hlast
  | true =>
    cases s with
    | none => exact hlast
    | some s =>
      rw [finish, runOn_bind]
      · dsimp only
        rcases (commit r s wait).runOn d with ⟨f | id, d'⟩ <;> rfl
      · rfl

lemma runOn_sign (r : Resolver σ) (k : Signatory) (o : SignOptions) (s : Option Submitter)
    (hc : d.copy.committed = none) : (sign r k o s).runOn d =
    if o.commitIfReady && s.isNone then (.error .noSubmitter, d)
    else if d.copy.tx.needsAuthorization then
      match (signers r).runOn d with
      | (.error f, d') => (.error f, d')
      | (.ok before, d') =>
        if o.checkFirst && !before.missing.isEmpty && !before.missing.any k.holds then
          (.error (.noSigner before.missing.length), d')
        else
          match (signSlots k 0 before.required).runOn d' with
          | (.error f, d') => (.error f, d')
          | (.ok _, d') =>
            match (signers r).runOn d' with
            | (.error f, d') => (.error f, d')
            | (.ok after, d') =>
              if after.missing.isEmpty then (finish r o s).runOn d' else (.ok ⟨false, false, ""⟩, d')
    else
      match (isReady r).runOn d with
      | (.error f, d') => (.error f, d')
      | (.ok ready, d') => if ready then (finish r o s).runOn d' else (.ok ⟨false, false, ""⟩, d') := by
  rw [sign, runOn_bind, runOn_copy]
  dsimp only
  rw [hc]
  dsimp only
  split
  · rfl
  rw [runOn_bind, runOn_tx]
  dsimp only
  split
  · rw [runOn_bind]
    rcases (signers r).runOn d with ⟨f | before, d'⟩
    · rfl
    dsimp only
    split
    · rfl
    rw [runOn_bind]
    rcases (signSlots k 0 before.required).runOn d' with ⟨f | _, d'⟩
    · rfl
    dsimp only
    rw [runOn_bind]
    rcases (signers r).runOn d' with ⟨f | after, d'⟩
    · rfl
    dsimp only
    split <;> rfl
  · rw [runOn_bind]
    rcases (isReady r).runOn d with ⟨f | ready, d'⟩
    · rfl
    dsimp only
    split <;> rfl

end Countersign.Draft.Session
