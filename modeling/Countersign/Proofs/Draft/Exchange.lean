import Countersign.Proofs.Draft.Phase
import Countersign.Proofs.Wire.Truncation

namespace Countersign

open Wire Draft

variable {chain : Chain} {data : Bytes} {policy : RetryPolicy}

def Credential.Tagged (chain : Chain) (c : Credential) (part : Bytes) : Prop :=
  ∃ id, chain.codec.typeAt? id = some c.extension.credentialType ∧
    Bytes.ofNat 4 id ++ (Bytes.ofNat 4 c.sigs.length ++ c.sigs.flatten) = part

lemma Credential.exists_parts {cs : List Credential}
    (h : Value.writeAll (some chain.codec) (.interface .credential) (cs.map toValue) = .ok data) :
    ∃ parts, List.Forall₂ (Tagged chain) cs parts ∧ parts.flatten = data := by
  induction cs generalizing data with
  | nil =>
    obtain rfl := Value.writeAll_nil_eq_ok.1 h
    exact ⟨[], .nil, rfl⟩
  | cons c cs ih =>
    obtain ⟨b₁, b₂, h₁, h₂, rfl⟩ := Value.writeAll_cons_eq_ok.1 h
    obtain ⟨id, ht, _, _, _, hb⟩ := write_toValue_eq_ok.1 h₁
    obtain ⟨parts, hp, rfl⟩ := ih h₂
    exact ⟨b₁ :: parts, .cons ⟨id, ht, hb⟩ hp, rfl⟩

namespace SignedTx

variable {tx : SignedTx}

lemma exists_parts (h : tx.toBytes = .ok data) : ∃ front parts, tx.unsignedBytes = .ok front ∧
    List.Forall₂ (Credential.Tagged tx.chain) tx.creds parts ∧
    front ++ (Bytes.ofNat 4 tx.creds.length ++ parts.flatten) = data := by
  obtain ⟨b, hb, h⟩ := bind_eq_ok.1 h
  obtain ⟨_, hc, h⟩ := bind_eq_ok.1 h
  obtain ⟨_, hl, hc⟩ := bind_eq_ok.1 hc
  obtain ⟨_, hw, hc⟩ := bind_eq_ok.1 hc
  obtain ⟨parts, hp, rfl⟩ := Credential.exists_parts hw
  obtain ⟨_, rfl⟩ := writeLength_natCast.1 hl
  obtain rfl := pure_eq_ok.1 hc
  rw [List.length_map] at h
  exact ⟨versionBytes ++ b, parts, bind_eq_ok.2 ⟨b, hb, rfl⟩, hp, pure_eq_ok.1 h⟩

end SignedTx

namespace Draft

lemma ofBytes_of_unmarshalSigned {e : Wire.Fault} (h : chain.codec.unmarshalSigned data = .error e) :
    Draft.ofBytes chain data policy = .error (.malformed (.undecodable chain e)) := by
  refine ofBytes_of_error ?_
  rw [SignedTx.ofBytes, h]
  rfl

namespace Session

variable {σ τ : Type} {r : Resolver σ} {r' : Resolver τ} {d : Desk σ} {d' : Desk τ}

def answerFor (r : Resolver σ) (d : Desk σ) (subnet : Bytes) : Except Fault Ownership :=
  match d.copy.snapshot with
  | some o => .ok o
  | none => (r subnet d.book).1

lemma told_eq_answerFor {subnet : Bytes} (hi : d.copy.tx.subnetId? = some subnet) (hs : subnet.length = Ident.size) :
    told r d = answerFor r d subnet := by
  have hid : Ident.sized subnet = .ok subnet := if_pos hs
  rw [told, runOn_owners, answerFor]
  cases d.copy.snapshot with
  | some o => rfl
  | none =>
    rw [hi]
    dsimp only
    rcases r subnet d.book with ⟨e | o, book⟩
    · rfl
    · dsimp only
      rw [hid]
      rfl

lemma signersFor_told (hw : d.copy.tx.toBytes = .ok data) (ht : d'.copy.tx = d.copy.tx)
    (ha : ∀ subnet, d.copy.tx.subnetId? = some subnet → answerFor r' d' subnet = answerFor r d subnet) :
    d.copy.tx.signersFor (told r' d') = d.copy.tx.signersFor (told r d) := by
  apply SignedTx.signersFor_congr
  intro positions hp
  obtain ⟨subnet, hi, hs⟩ := SignedTx.exists_subnetId? hw hp
  rw [told_eq_answerFor hi hs, told_eq_answerFor (ht ▸ hi) hs, ha subnet hi]

structure AnsweredAlike (r : Resolver σ) (r' : Resolver τ) (d : Desk σ) (d' : Desk τ) : Prop where
  signers : ((signers r').runOn d').1 = ((signers r).runOn d).1
  fees : d'.copy.tx.missingFees = d.copy.tx.missingFees
  ready : ((isReady r').runOn d').1 = ((isReady r).runOn d).1
  phase : d.copy.committed = none → ((phase r').runOn d').1 = ((phase r).runOn d).1
  id : d'.copy.tx.idText = d.copy.tx.idText

lemma answeredAlike (hw : d.copy.tx.toBytes = .ok data) (ht : d'.copy.tx = d.copy.tx) (hn : d'.copy.committed = none)
    (ha : ∀ subnet, d.copy.tx.subnetId? = some subnet → answerFor r' d' subnet = answerFor r d subnet) :
    AnsweredAlike r r' d d' := by
  have hs := signersFor_told hw ht ha
  constructor
  · rw [signers_answer, signers_answer, ht, hs]
  · rw [ht]
  · rw [isReady_answer, isReady_answer, ht, SignedTx.readyFor, SignedTx.readyFor, hs]
  · intro hc
    rw [phase_answer, phase_answer, hc, hn, ht, SignedTx.phaseFor, SignedTx.phaseFor, hs]
  · rw [ht]

end Session

open Session

/-- The bytes of a transaction on any chain are its parts in order, and whoever reads them gets that transaction and a
copy that is answered like every other one. What is written in the place of credentials is nothing but credentials. -/
theorem exchange_lossless (chain : Chain) :
    (∀ unsigned creds data, chain.codec.marshalSigned unsigned creds = .ok data →
      chain.codec.unmarshalSigned data = .ok (unsigned, creds) ∧
      ∃ cs : List Credential, cs.map Credential.toValue = creds ∧
        (SignedTx.mk chain unsigned cs).toBytes = .ok data) ∧
    ∀ (tx : SignedTx) data, tx.chain = chain → tx.toBytes = .ok data →
      (∃ front parts, tx.unsignedBytes = .ok front ∧ List.Forall₂ (Credential.Tagged chain) tx.creds parts ∧
        front ++ (Bytes.ofNat 4 tx.creds.length ++ parts.flatten) = data) ∧
      SignedTx.ofBytes chain data = .ok tx ∧
      ∀ policy, Draft.ofBytes chain data policy = .ok (.ofTx tx policy) ∧
        ∀ {σ τ : Type} (r : Resolver σ) (r' : Resolver τ) (d : Desk σ) (d' : Desk τ),
          d.copy.tx = tx → d'.copy = .ofTx tx policy →
          (∀ subnet, tx.subnetId? = some subnet → answerFor r' d' subnet = answerFor r d subnet) →
          AnsweredAlike r r' d d' := by
  constructor
  · intro unsigned creds data h
    exact ⟨Codec.unmarshalSigned_marshalSigned chain.spacious_codec h, SignedTx.exists_of_marshalSigned h⟩
  · rintro tx data rfl hw
    have hread : SignedTx.ofBytes tx.chain data = .ok tx := SignedTx.ofBytes_eq_ok.2 ⟨rfl, hw⟩
    refine ⟨SignedTx.exists_parts hw, hread, fun policy => ⟨ofBytes_eq_ok.2 ⟨tx, hread, rfl⟩, ?_⟩⟩
    rintro σ τ r r' d d' rfl hc ha
    apply answeredAlike hw
    · rw [hc]
      rfl
    · rw [hc]
      rfl
    · exact ha

def surrender : SignedTx where
  chain := .exchange
  unsigned := .record Chain.Exchange.operationTx
    [.record Chain.Component.baseTx [.int 1, .bytes (Bytes.zeros 32), .list [], .list [], .bytes []],
      .list [.record Chain.Exchange.operation [.bytes (Bytes.zeros 32), .list [],
        .record Chain.Property.burnOperation [.record Chain.Secp.input [.list [.int 0, .int 2]]]]]]
  creds := [.blank 0, ⟨.property, [emptySignature, List.replicate signatureSize 1]⟩]

theorem surrender_exchanged : ∃ data, surrender.toBytes = .ok data ∧ SignedTx.ofBytes .exchange data = .ok surrender ∧
    ∀ policy, Draft.ofBytes .exchange data policy = .ok (.ofTx surrender policy) := by
  obtain ⟨data, hw⟩ := exists_eq_ok (by decide +kernel : surrender.toBytes.toOption.isSome = true)
  obtain ⟨_, hread, h⟩ := (exchange_lossless .exchange).2 surrender data rfl hw
  exact ⟨data, hw, hread, fun policy => (h policy).1⟩

/-- Bytes that are read are no longer read when some are cut off at their end or others follow them. So what was written
with credentials is nothing without them, and a copy comes only from all of the bytes of another one. -/
theorem accepted_isolated :
    (∀ (c : Codec) k data v, c.unmarshal data k = .ok v → Isolated (c.unmarshal · k) data) ∧
    (∀ (c : Codec) t data v, c.unmarshalStruct data t = .ok v → Isolated (c.unmarshalStruct · t) data) ∧
    (∀ (c : Codec) data r, c.unmarshalSigned data = .ok r → Isolated c.unmarshalSigned data) ∧
    (∀ (c : Codec) data v r, c.unmarshal data .unsignedTx = .ok v → c.unmarshalSigned data ≠ .ok r) ∧
    ∀ (m : Draft) data policy, m.toBytes = .ok data →
      (∀ n < data.length, ∃ e, Draft.ofBytes m.tx.chain (data.take n) policy =
        .error (.malformed (.undecodable m.tx.chain e))) ∧
      ∀ more ≠ [], Draft.ofBytes m.tx.chain (data ++ more) policy =
        .error (.malformed (.undecodable m.tx.chain (.trailing more.length data.length))) := by
  refine ⟨fun c k data v => Codec.unmarshal_isolated, fun c t data v => Codec.unmarshalStruct_isolated,
    fun c data r => Codec.unmarshalSigned_isolated, fun c data v r => Codec.not_unmarshalSigned_of_unmarshal, ?_⟩
  intro m data policy hw
  have hs := Codec.unmarshalSigned_marshalSigned m.tx.chain.spacious_codec (mapError_eq_ok.1 hw)
  obtain ⟨hcut, hmore⟩ := Codec.unmarshalSigned_isolated hs
  constructor
  · intro n hn
    obtain ⟨e, _, he⟩ := hcut n hn
    exact ⟨e, ofBytes_of_unmarshalSigned he⟩
  · intro more hm
    exact ofBytes_of_unmarshalSigned (hmore more hm)

theorem surrender_isolated : ∃ data, surrender.toBytes = .ok data ∧ ∀ policy,
    (∀ n < data.length, ∃ e, Draft.ofBytes .exchange (data.take n) policy = .error (.malformed (.undecodable .exchange e))) ∧
    ∀ more ≠ [], Draft.ofBytes .exchange (data ++ more) policy =
      .error (.malformed (.undecodable .exchange (.trailing more.length data.length))) := by
  obtain ⟨data, hw⟩ := exists_eq_ok (by decide +kernel : surrender.toBytes.toOption.isSome = true)
  exact ⟨data, hw, fun policy => accepted_isolated.2.2.2.2 (.ofTx surrender policy) data policy (mapError_eq_ok.2 hw)⟩

end Draft

end Countersign
