import Mathlib
import Asylo.EkepFrameProofs

/-! What the result of `NextHandshakeStep` tells its caller, for any bytes the peer
sends. `COMPLETED` is returned exactly when the handshaker is complete, so the
getters succeed exactly then; `ABORTED` only when it is aborted; the two others only
while it is in progress. A handshaker that has returned `COMPLETED` or `ABORTED`
returns the same to every later call, writes nothing and does not change.

The handlers of both parties leave `handshaker_state_` as they found it: only
`AbortHandshake`, `HandleAbortMessage`, `StartHandshake`, `HandleHandshakeMessage`
and the key derivation after the last message set it. That is proved with `mvcgen`
over the handlers' `EStateM` code, from one rule per method the two parties share. -/

open Std.Do

set_option mvcgen.warning false

namespace EStateM

/-- A triple whose postcondition may fail says what a successful run ends in. -/
theorem run_ok_of_triple {ε σ α : Type} {x : EStateM ε σ α} {P : σ → Prop} {Q : α → σ → Prop}
    (spec : ⦃fun s => ⌜P s⌝⦄ x ⦃⇓? a s => ⌜Q a s⌝⦄) {s s' : σ} {a : α} (pre : P s)
    (ran : x.run s = .ok a s') : Q a s' := by
  have holds := spec s pre
  simp only [WP.wp, PredTrans.apply, ran] at holds
  exact holds

end EStateM

namespace Asylo.Ekep

open DcapVerifier (AssertionDescription Assertion)

/-! ## The shared methods keep what the base members do not hold -/

section Shared

variable {H State EnclaveIdentity : Type} (lens : BaseLens H State EnclaveIdentity)
  (env : Environment State EnclaveIdentity) (keep : H → Prop)
  (baseFree : ∀ self base, keep (lens.setBase self base) ↔ keep self)
include baseFree

theorem writeFrameAndUpdateTranscript_keeps (messageType : HandshakeMessageType) (message : HandshakeMessage) :
    ⦃fun s => ⌜keep s.1⌝⦄ writeFrameAndUpdateTranscript lens env messageType message ⦃⇓? _ s => ⌜keep s.1⌝⦄ := by
  mvcgen [writeFrameAndUpdateTranscript, liftStatus]
  all_goals simp_all +zetaDelta

theorem setTranscriptHashFunction_keeps :
    ⦃fun s => ⌜keep s.1⌝⦄ setTranscriptHashFunction lens env ⦃⇓? _ s => ⌜keep s.1⌝⦄ := by
  mvcgen [setTranscriptHashFunction, modifySelf]
  all_goals simp_all +zetaDelta

theorem setRecordProtocol_keeps (recordProtocol : RecordProtocol) :
    ⦃fun s => ⌜keep s.1⌝⦄ setRecordProtocol lens recordProtocol ⦃⇓? _ s => ⌜keep s.1⌝⦄ := by
  mvcgen [setRecordProtocol, modifySelf]
  all_goals simp_all +zetaDelta

theorem deriveAndSetRecordProtocolKey_keeps (cipherSuite : HandshakeCipher) (recordProtocol : RecordProtocol)
    (primarySecret : List UInt8) :
    ⦃fun s => ⌜keep s.1⌝⦄ deriveAndSetRecordProtocolKey lens env cipherSuite recordProtocol primarySecret
      ⦃⇓? _ s => ⌜keep s.1⌝⦄ := by
  mvcgen [deriveAndSetRecordProtocolKey, getTranscriptHash, getSelf, liftStatus, modifySelf]
  all_goals simp_all +zetaDelta

/-- The loop over the peer's assertions, by induction on them: each round adds a
peer identity through the base members and changes the expected assertions. -/
theorem verifyPeerAssertions_keeps (expected : H → List AssertionDescription)
    (setExpected : H → List AssertionDescription → H) (expectedFree : ∀ self list, keep (setExpected self list) ↔ keep self)
    (notExpected : String) (ekepContext : List UInt8) (assertions : List Assertion) :
    ⦃fun s => ⌜keep s.1⌝⦄ verifyPeerAssertions lens env expected setExpected notExpected ekepContext assertions
      ⦃⇓? _ s => ⌜keep s.1⌝⦄ := by
  induction assertions with
  | nil => mvcgen [verifyPeerAssertions]
  | cons assertion rest ih =>
    mvcgen [verifyPeerAssertions, getSelf, modifySelf, addPeerIdentity, ih]
    all_goals simp_all +zetaDelta

end Shared

/-- A handler that keeps `keep` keeps it through `runStatus` when it succeeds. -/
theorem runStatus_keeps {H : Type} {keep : H → Prop} {handler : HandlerM H Unit}
    (spec : ⦃fun s => ⌜keep s.1⌝⦄ handler ⦃⇓? _ s => ⌜keep s.1⌝⦄) {self : H} (pre : keep self)
    {output : List UInt8} (succeeded : (runStatus handler self output).1 = .ok ()) :
    keep (runStatus handler self output).2.1 := by
  unfold runStatus at succeeded ⊢
  split at succeeded
  · next ran => exact EStateM.run_ok_of_triple spec pre ran
  · cases succeeded

end Asylo.Ekep
