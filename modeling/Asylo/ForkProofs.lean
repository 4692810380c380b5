import Asylo.Fork

/-! What secure fork guarantees over every run of host calls from instances as
the loader leaves them, and what it does not.

Each snapshot takes its own call of `enc_fork`, and each snapshot key sent its
own snapshot (`snapshots_and_sends_bounded`). A parent seals a snapshot key
only under the record-protocol key of a completed handshake whose peer matched
it under `STRICT_LOCAL`, and a child saves only a key that opened under the
record-protocol key of a handshake whose peer matched it, with the fixed
associated data, which a parent had sent; `Restore` writes only memory that
some instance sealed in a snapshot, under a key the instance generated itself
or received (`log_justified`).

What it does not guarantee is that `Restore` overwrites only a fresh child:
it checks `enable_fork` and the entry count, and a parent holds its snapshot
key until it sends it, which a key transfer whose handshake fails never does,
so the host can roll the parent back to its snapshot after its user code went
on (`restore_rolls_back_forked_parent`). -/
namespace Asylo.Fork

/-! ## Counting the log -/

namespace ForkEvent

/-- A call of `enc_fork` in instance `i`. -/
def isForkCallOf (i : InstanceId) : ForkEvent → Bool
  | .userCode j calledFork => j == i && calledFork
  | _ => false

/-- A snapshot taken by instance `i`. -/
def isSnapshotOf (i : InstanceId) : ForkEvent → Bool
  | .snapshotTaken j _ _ => j == i
  | _ => false

/-- A snapshot key sent by instance `i`. -/
def isKeySendOf (i : InstanceId) : ForkEvent → Bool
  | .snapshotKeySent j _ _ => j == i
  | _ => false

end ForkEvent

/-- The calls of `enc_fork` in instance `i` that a log records. -/
def forkCalls (i : InstanceId) (log : List ForkEvent) : Nat := log.countP (ForkEvent.isForkCallOf i)

/-- The snapshots instance `i` took, in a log. -/
def snapshotsTaken (i : InstanceId) (log : List ForkEvent) : Nat := log.countP (ForkEvent.isSnapshotOf i)

/-- The snapshot keys instance `i` sent, in a log. -/
def snapshotKeysSent (i : InstanceId) (log : List ForkEvent) : Nat := log.countP (ForkEvent.isKeySendOf i)

section Counting

variable (i : InstanceId) (log events : List ForkEvent)

@[simp] theorem forkCalls_append : forkCalls i (log ++ events) = forkCalls i log + forkCalls i events :=
  List.countP_append
@[simp] theorem snapshotsTaken_append :
    snapshotsTaken i (log ++ events) = snapshotsTaken i log + snapshotsTaken i events :=
  List.countP_append
@[simp] theorem snapshotKeysSent_append :
    snapshotKeysSent i (log ++ events) = snapshotKeysSent i log + snapshotKeysSent i events :=
  List.countP_append

@[simp] theorem forkCalls_nil : forkCalls i [] = 0 := rfl
@[simp] theorem snapshotsTaken_nil : snapshotsTaken i [] = 0 := rfl
@[simp] theorem snapshotKeysSent_nil : snapshotKeysSent i [] = 0 := rfl

variable (e : ForkEvent)

@[simp] theorem forkCalls_singleton : forkCalls i [e] = (e.isForkCallOf i).toNat := by
  cases h : e.isForkCallOf i <;> simp only [forkCalls, List.countP_cons, List.countP_nil, h] <;> rfl
@[simp] theorem snapshotsTaken_singleton : snapshotsTaken i [e] = (e.isSnapshotOf i).toNat := by
  cases h : e.isSnapshotOf i <;> simp only [snapshotsTaken, List.countP_cons, List.countP_nil, h] <;> rfl
@[simp] theorem snapshotKeysSent_singleton : snapshotKeysSent i [e] = (e.isKeySendOf i).toNat := by
  cases h : e.isKeySendOf i <;> simp only [snapshotKeysSent, List.countP_cons, List.countP_nil, h] <;> rfl

end Counting

/-! ## What an event rests on -/

section Invariant

variable {Identity : Type} (evaluateStrictLocal : Identity → Identity → StatusOr (Bool × String))
  (identity : InstanceId → Identity)

/-- `peer` passes `ComparePeerAndSelfIdentity` in an instance of identity
`self`. -/
def MatchesStrictLocal (self peer : Identity) : Prop :=
  ∃ explanation, evaluateStrictLocal self peer = .ok (true, explanation)

/-- Instance `i` generated `key`, or received it, in `log`. -/
def KeyOrigin (log : List ForkEvent) (i : InstanceId) (key : List UInt8) : Prop :=
  .snapshotKeyGenerated i key ∈ log ∨ ∃ recordProtocolKey, .snapshotKeyReceived i recordProtocolKey key ∈ log

theorem KeyOrigin.mono {log log' : List ForkEvent} (sub : log ⊆ log') {i : InstanceId} {key : List UInt8} :
    KeyOrigin log i key → KeyOrigin log' i key
  | .inl generated => .inl (sub generated)
  | .inr ⟨recordProtocolKey, received⟩ => .inr ⟨recordProtocolKey, sub received⟩

/-- What an event rests on, in the log `before` it: a snapshot key is sent
after a handshake whose peer matched the parent, and is one the parent
generated or received; a snapshot key is saved by a child after a handshake
whose peer matched it, and some parent sent it under that record-protocol key;
memory is restored from a snapshot some instance took, under a key the
restored instance generated or received. -/
def Justified (before : List ForkEvent) : ForkEvent → Prop
  | .snapshotKeySent p recordProtocolKey key =>
    (∃ c, .handshakeCompleted p c recordProtocolKey ∈ before ∧
      MatchesStrictLocal evaluateStrictLocal (identity p) (identity c)) ∧
    KeyOrigin before p key
  | .snapshotKeyReceived c recordProtocolKey key =>
    (∃ p, .handshakeCompleted p c recordProtocolKey ∈ before ∧
      MatchesStrictLocal evaluateStrictLocal (identity c) (identity p)) ∧
    ∃ p, .snapshotKeySent p recordProtocolKey key ∈ before
  | .restored i memory =>
    ∃ q key, .snapshotTaken q key memory ∈ before ∧ KeyOrigin before i key
  | _ => True

/-- Every event of a log rests on what came before it. -/
def AllJustified (log : List ForkEvent) : Prop :=
  ∀ before e after, log = before ++ e :: after → Justified evaluateStrictLocal identity before e

theorem allJustified_nil : AllJustified evaluateStrictLocal identity [] := by
  intro before e after split
  simp at split

/-- The invariant of every run: identities never change; the two flags are
credits that each call of `enc_fork` and each snapshot gives and a snapshot or
a sent key uses; a saved snapshot key was generated or received; every
sealing of AES-GCM-SIV is a snapshot, and every sealing of AES-GCM a snapshot
key sent with the fixed associated data; every event rests on what came before
it. -/
structure ForkInvariant (sys : System Identity) : Prop where
  identities : ∀ i, (sys.instances i).identity = identity i
  snapshotsBounded : ∀ i, snapshotsTaken i sys.log + (sys.instances i).forkRequested.toNat ≤ forkCalls i sys.log
  sendsBounded : ∀ i,
    snapshotKeysSent i sys.log + (sys.instances i).snapshotKeyTransferRequested.toNat ≤ snapshotsTaken i sys.log
  keyOrigin : ∀ i key, (sys.instances i).globalSnapshotKey = some key → KeyOrigin sys.log i key
  snapshotOrigin : ∀ sealing ∈ sys.gcmSiv.sealings, ∃ q, .snapshotTaken q sealing.key sealing.plaintext ∈ sys.log
  sentOrigin : ∀ sealing ∈ sys.gcm.sealings, sealing.associatedData = kSnapshotKeyAssociatedDataBuf ∧
    ∃ p, .snapshotKeySent p sealing.key sealing.plaintext ∈ sys.log
  justified : AllJustified evaluateStrictLocal identity sys.log

theorem forkInvariant_init (enableFork : InstanceId → Option Bool) (memoryAddress memory : InstanceId → List UInt8) :
    ForkInvariant evaluateStrictLocal identity (System.init identity enableFork memoryAddress memory) where
  identities _ := rfl
  snapshotsBounded _ := by simp [System.init, Instance.load]
  sendsBounded _ := by simp [System.init, Instance.load]
  keyOrigin _ _ unset := by simp [System.init, Instance.load] at unset
  snapshotOrigin _ sealed := by simp [System.init] at sealed
  sentOrigin _ sealed := by simp [System.init] at sealed
  justified := allJustified_nil evaluateStrictLocal identity

end Invariant

/-! ## What each kind of step keeps -/

section Steps

variable {Identity : Type} {evaluateStrictLocal : Identity → Identity → StatusOr (Bool × String)}
  {identity : InstanceId → Identity} {sys : System Identity}

/-- An event that rests on the whole log may be appended to it. -/
theorem AllJustified.append {log : List ForkEvent} (all : AllJustified evaluateStrictLocal identity log)
    {e : ForkEvent} (new : Justified evaluateStrictLocal identity log e) :
    AllJustified evaluateStrictLocal identity (log ++ [e]) := by
  intro before e' after split
  -- either the event split off is the appended one, or it lies in `log`
  rcases List.append_eq_append_iff.mp split with ⟨middle, rfl, rest⟩ | ⟨middle, rfl, rest⟩
  · cases middle with
    | nil =>
      simp only [List.nil_append, List.cons.injEq] at rest
      obtain ⟨rfl, -⟩ := rest
      simpa using new
    | cons head tail => simp at rest
  · cases middle with
    | nil =>
      simp only [List.nil_append, List.cons.injEq] at rest
      obtain ⟨rfl, -⟩ := rest
      simpa using new
    | cons head tail =>
      simp only [List.cons_append, List.cons.injEq] at rest
      obtain ⟨rfl, -⟩ := rest
      exact all before e' tail rfl

/-- Replacing an instance by one of the same identity, with no flag set that
was not, and with a key it generated or received. -/
theorem ForkInvariant.setInstance (h : ForkInvariant evaluateStrictLocal identity sys) {i : InstanceId}
    {inst : Instance Identity} (sameIdentity : inst.identity = (sys.instances i).identity)
    (forkCleared : inst.forkRequested.toNat ≤ (sys.instances i).forkRequested.toNat)
    (transferCleared : inst.snapshotKeyTransferRequested.toNat ≤ (sys.instances i).snapshotKeyTransferRequested.toNat)
    (keyKept : ∀ key, inst.globalSnapshotKey = some key → KeyOrigin sys.log i key) :
    ForkInvariant evaluateStrictLocal identity (sys.setInstance i inst) where
  identities j := by
    by_cases here : j = i
    · subst here
      simpa [sameIdentity] using h.identities j
    · simpa [Function.update_of_ne here] using h.identities j
  snapshotsBounded j := by
    have before := h.snapshotsBounded j
    by_cases here : j = i
    · subst here
      simp only [System.setInstance_instances, Function.update_self, System.setInstance_log]
      omega
    · simpa [Function.update_of_ne here] using before
  sendsBounded j := by
    have before := h.sendsBounded j
    by_cases here : j = i
    · subst here
      simp only [System.setInstance_instances, Function.update_self, System.setInstance_log]
      omega
    · simpa [Function.update_of_ne here] using before
  keyOrigin j key saved := by
    by_cases here : j = i
    · subst here
      simp only [System.setInstance_instances, Function.update_self] at saved
      exact keyKept key saved
    · simp only [System.setInstance_instances, Function.update_of_ne here] at saved
      exact h.keyOrigin j key saved
  snapshotOrigin := h.snapshotOrigin
  sentOrigin := h.sentOrigin
  justified := h.justified

/-- Appending an event that counts as no call of `enc_fork`, no snapshot and
no sent key, and that rests on the log. -/
theorem ForkInvariant.record (h : ForkInvariant evaluateStrictLocal identity sys) {e : ForkEvent}
    (uncounted : ∀ j, e.isForkCallOf j = false ∧ e.isSnapshotOf j = false ∧ e.isKeySendOf j = false)
    (new : Justified evaluateStrictLocal identity sys.log e) :
    ForkInvariant evaluateStrictLocal identity (sys.record [e]) where
  identities := h.identities
  snapshotsBounded j := by simpa [(uncounted j).1, (uncounted j).2.1] using h.snapshotsBounded j
  sendsBounded j := by simpa [(uncounted j).2.1, (uncounted j).2.2] using h.sendsBounded j
  keyOrigin j key saved := (h.keyOrigin j key saved).mono (List.subset_append_left _ _)
  snapshotOrigin sealing sealed :=
    (h.snapshotOrigin sealing sealed).imp fun _ taken => List.mem_append_left _ taken
  sentOrigin sealing sealed :=
    (h.sentOrigin sealing sealed).imp_right fun ⟨p, sent⟩ => ⟨p, List.mem_append_left _ sent⟩
  justified := h.justified.append new

theorem ForkInvariant.identities_update (h : ForkInvariant evaluateStrictLocal identity sys) {i : InstanceId}
    {inst : Instance Identity} (sameIdentity : inst.identity = (sys.instances i).identity) (j : InstanceId) :
    (Function.update sys.instances i inst j).identity = identity j := by
  by_cases here : j = i
  · subst here
    rw [Function.update_self, sameIdentity, h.identities]
  · rw [Function.update_of_ne here, h.identities]

/-- An ordinary entry: a call of `enc_fork` gives the credit its flag stands
for. -/
theorem ForkInvariant.enter (h : ForkInvariant evaluateStrictLocal identity sys) (i : InstanceId)
    (memory : List UInt8) (callsFork : Bool) (result : StatusOr Unit) :
    ForkInvariant evaluateStrictLocal identity (Fork.enter sys i memory callsFork result).2 where
  identities := h.identities_update rfl
  snapshotsBounded j := by
    have before := h.snapshotsBounded j
    by_cases here : j = i
    · subst here
      cases callsFork <;> simp [Fork.enter, ForkEvent.isForkCallOf, ForkEvent.isSnapshotOf] <;> omega
    · have other : (i == j) = false := beq_false_of_ne (Ne.symm here)
      simp only [Fork.enter, System.record_instances, System.setInstance_instances, Function.update_of_ne here,
        System.record_log, System.setInstance_log, snapshotsTaken_append, forkCalls_append, snapshotsTaken_singleton,
        forkCalls_singleton, ForkEvent.isForkCallOf, ForkEvent.isSnapshotOf, other, Bool.false_and]
      omega
  sendsBounded j := by
    have before := h.sendsBounded j
    by_cases here : j = i
    · subst here
      simpa [Fork.enter, ForkEvent.isKeySendOf, ForkEvent.isSnapshotOf] using before
    · simpa [Fork.enter, Function.update_of_ne here, ForkEvent.isKeySendOf, ForkEvent.isSnapshotOf] using before
  keyOrigin j key saved := by
    have kept : (sys.instances j).globalSnapshotKey = some key := by
      by_cases here : j = i
      · subst here
        simpa [Fork.enter] using saved
      · simpa [Fork.enter, Function.update_of_ne here] using saved
    exact (h.keyOrigin j key kept).mono (List.subset_append_left _ _)
  snapshotOrigin sealing sealed :=
    (h.snapshotOrigin sealing sealed).imp fun _ taken => List.mem_append_left _ taken
  sentOrigin sealing sealed :=
    (h.sentOrigin sealing sealed).imp_right fun ⟨p, sent⟩ => ⟨p, List.mem_append_left _ sent⟩
  justified := h.justified.append trivial

/-- `TakeSnapshotForFork` saved the key it generated, using the credit of
`fork_requested`. -/
theorem ForkInvariant.generateKey (h : ForkInvariant evaluateStrictLocal identity sys) {i : InstanceId}
    {inst : Instance Identity} {key : List UInt8} (sameIdentity : inst.identity = (sys.instances i).identity)
    (cleared : inst.forkRequested = false)
    (sameTransfer : inst.snapshotKeyTransferRequested = (sys.instances i).snapshotKeyTransferRequested)
    (saved : inst.globalSnapshotKey = some key) :
    ForkInvariant evaluateStrictLocal identity ((sys.setInstance i inst).record [.snapshotKeyGenerated i key]) := by
  rw [System.setInstance_record]
  have logged := h.record (e := .snapshotKeyGenerated i key) (fun _ => ⟨rfl, rfl, rfl⟩) trivial
  refine logged.setInstance sameIdentity (by simp [cleared]) (by simp [sameTransfer]) ?_
  intro key' saved'
  rw [saved, Option.some.injEq] at saved'
  subst saved'
  exact .inl (List.mem_append_right _ (List.mem_singleton_self _))

/-- `TakeSnapshotForFork` sealed the memory, with the credit its cleared flag
left, and set `snapshot_key_transfer_requested`. -/
theorem ForkInvariant.snapshotTaken (h : ForkInvariant evaluateStrictLocal identity sys) {i : InstanceId}
    {inst : Instance Identity} {key address memory : List UInt8}
    (credit : snapshotsTaken i sys.log < forkCalls i sys.log) (sameIdentity : inst.identity = (sys.instances i).identity)
    (cleared : inst.forkRequested = false) (sameKey : inst.globalSnapshotKey = (sys.instances i).globalSnapshotKey)
    (nonce ciphertext : List UInt8) :
    ForkInvariant evaluateStrictLocal identity
      (({ sys with gcmSiv := sys.gcmSiv.encrypt key nonce address ciphertext memory }.setInstance i inst).record
        [.snapshotTaken i key memory]) where
  identities := h.identities_update sameIdentity
  snapshotsBounded j := by
    have before := h.snapshotsBounded j
    by_cases here : j = i
    · subst here
      simp [ForkEvent.isSnapshotOf, cleared]
      omega
    · have other : (i == j) = false := beq_false_of_ne (Ne.symm here)
      simpa [Function.update_of_ne here, ForkEvent.isSnapshotOf, ForkEvent.isForkCallOf, other] using before
  sendsBounded j := by
    have before := h.sendsBounded j
    by_cases here : j = i
    · subst here
      have flag := Bool.toNat_le inst.snapshotKeyTransferRequested
      simp [ForkEvent.isSnapshotOf, ForkEvent.isKeySendOf]
      omega
    · have other : (i == j) = false := beq_false_of_ne (Ne.symm here)
      simpa [Function.update_of_ne here, ForkEvent.isSnapshotOf, ForkEvent.isKeySendOf, other] using before
  keyOrigin j key' saved := by
    have kept : (sys.instances j).globalSnapshotKey = some key' := by
      by_cases here : j = i
      · subst here
        simpa [sameKey] using saved
      · simpa [Function.update_of_ne here] using saved
    exact (h.keyOrigin j key' kept).mono (List.subset_append_left _ _)
  snapshotOrigin sealing sealed := by
    simp only [System.record_gcmSiv, System.setInstance_gcmSiv, IdealAead.State.encrypt, List.mem_append,
      List.mem_singleton] at sealed
    rcases sealed with earlier | rfl
    · exact (h.snapshotOrigin sealing earlier).imp fun _ taken => List.mem_append_left _ taken
    · exact ⟨i, List.mem_append_right _ (List.mem_singleton_self _)⟩
  sentOrigin sealing sealed :=
    (h.sentOrigin sealing sealed).imp_right fun ⟨p, sent⟩ => ⟨p, List.mem_append_left _ sent⟩
  justified := h.justified.append trivial

/-- The `TakeSnapshot` ecall. -/
theorem ForkInvariant.takeSnapshot (h : ForkInvariant evaluateStrictLocal identity sys) (i : InstanceId)
    (snapshotKey : UnsafeBytes kSnapshotKeySize) (othersExited untrustedAllocated : Bool) (nonce ciphertext : List UInt8) :
    ForkInvariant evaluateStrictLocal identity
      (Fork.takeSnapshot sys i snapshotKey othersExited untrustedAllocated nonce ciphertext).2 := by
  unfold Fork.takeSnapshot
  split
  · exact h
  · unfold takeSnapshotForFork
    cases requested : (sys.instances i).forkRequested
    · -- without a call of `enc_fork` nothing changes
      simp only [Instance.clearForkRequested_of_false _ requested, System.setInstance_self]
      exact h
    · have cleared : (sys.instances i).clearForkRequested = (true, { sys.instances i with forkRequested := false }) := by
        simp [Instance.clearForkRequested, requested]
      simp only [cleared, Instance.setSnapshotKey_of_length _ snapshotKey.2]
      have credit : snapshotsTaken i sys.log < forkCalls i sys.log := by
        have before := h.snapshotsBounded i
        simp only [requested, Bool.toNat_true] at before
        omega
      split_ifs
      · exact h.generateKey rfl rfl rfl rfl
      · exact h.generateKey rfl rfl rfl rfl
      · dsimp only
        refine ForkInvariant.snapshotTaken ?_ ?_ ?_ ?_ ?_ nonce ciphertext
        · exact h.generateKey rfl rfl rfl rfl
        · simpa [ForkEvent.isSnapshotOf, ForkEvent.isForkCallOf] using credit
        all_goals simp

/-- The checks before the handshake change at most the parent's flag, which
they clear. -/
theorem transferStart_snd (inst : Instance Identity) (config : Option ForkHandshakeConfig) :
    (transferStart inst config).2 = inst ∨
      (transferStart inst config).2 = { inst with snapshotKeyTransferRequested := false } := by
  unfold transferStart
  split
  · exact .inl rfl
  · split_ifs
    · exact .inl rfl
    · split
      · rename_i cleared
        exact .inr (congrArg Prod.snd cleared).symm
      · rename_i cleared
        exact .inr (congrArg Prod.snd cleared).symm
    · exact .inl rfl
  · exact .inl rfl

/-- `TransferSecureSnapshotKey` alone, whose handshake does not complete. -/
theorem ForkInvariant.transferSecureSnapshotKey (h : ForkInvariant evaluateStrictLocal identity sys) (i : InstanceId)
    (config : Option ForkHandshakeConfig) (handshakeFailure : Status) :
    ForkInvariant evaluateStrictLocal identity (Fork.transferSecureSnapshotKey sys i config handshakeFailure).2 := by
  have started : (Fork.transferSecureSnapshotKey sys i config handshakeFailure).2 =
      sys.setInstance i (transferStart (sys.instances i) config).2 := by
    unfold Fork.transferSecureSnapshotKey
    split <;> rename_i result <;> rw [result]
  rw [started]
  rcases transferStart_snd (sys.instances i) config with same | cleared
  · rw [same, System.setInstance_self]
    exact h
  · rw [cleared]
    exact h.setInstance rfl (Nat.le_refl _) (by simp) (h.keyOrigin i)

/-- `EncryptAndSendSnapshotKey` sealed a key the parent generated or
received, after a handshake whose peer matched it, with the credit its
cleared flag left. -/
theorem ForkInvariant.keySent (h : ForkInvariant evaluateStrictLocal identity sys) {p c : InstanceId}
    {recordProtocolKey key : List UInt8} (credit : snapshotKeysSent p sys.log < snapshotsTaken p sys.log)
    (cleared : (sys.instances p).snapshotKeyTransferRequested = false)
    (handshaked : .handshakeCompleted p c recordProtocolKey ∈ sys.log)
    (matched : MatchesStrictLocal evaluateStrictLocal (identity p) (identity c))
    (origin : KeyOrigin sys.log p key) (nonce ciphertext : List UInt8) :
    ForkInvariant evaluateStrictLocal identity
      ({ sys with gcm := sys.gcm.encrypt recordProtocolKey nonce kSnapshotKeyAssociatedDataBuf ciphertext key }.record
        [.snapshotKeySent p recordProtocolKey key]) where
  identities := h.identities
  snapshotsBounded j := by simpa [ForkEvent.isSnapshotOf, ForkEvent.isForkCallOf] using h.snapshotsBounded j
  sendsBounded j := by
    have before := h.sendsBounded j
    by_cases here : j = p
    · subst here
      simp [ForkEvent.isSnapshotOf, ForkEvent.isKeySendOf, cleared]
      omega
    · have other : (p == j) = false := beq_false_of_ne (Ne.symm here)
      simpa [ForkEvent.isSnapshotOf, ForkEvent.isKeySendOf, other] using before
  keyOrigin j key' saved := (h.keyOrigin j key' saved).mono (List.subset_append_left _ _)
  snapshotOrigin sealing sealed :=
    (h.snapshotOrigin sealing sealed).imp fun _ taken => List.mem_append_left _ taken
  sentOrigin sealing sealed := by
    simp only [System.record_gcm, IdealAead.State.encrypt, List.mem_append, List.mem_singleton] at sealed
    rcases sealed with earlier | rfl
    · exact (h.sentOrigin sealing earlier).imp_right (Exists.imp fun _ sent => List.mem_append_left _ sent)
    · exact ⟨rfl, p, List.mem_append_right _ (List.mem_singleton_self _)⟩
  justified := h.justified.append ⟨⟨c, handshaked, matched⟩, origin⟩

/-- `ReceiveSnapshotKey` saved a key that opened under the record-protocol key
of a handshake whose peer matched the child. -/
theorem ForkInvariant.keyReceived (h : ForkInvariant evaluateStrictLocal identity sys) {p c : InstanceId}
    {recordProtocolKey key nonce ciphertext : List UInt8}
    (handshaked : .handshakeCompleted p c recordProtocolKey ∈ sys.log)
    (matched : MatchesStrictLocal evaluateStrictLocal (identity c) (identity p))
    (opened : sys.gcm.decrypt recordProtocolKey nonce kSnapshotKeyAssociatedDataBuf ciphertext = some key)
    {inst : Instance Identity} (sameIdentity : inst.identity = (sys.instances c).identity)
    (sameFork : inst.forkRequested = (sys.instances c).forkRequested)
    (sameTransfer : inst.snapshotKeyTransferRequested = (sys.instances c).snapshotKeyTransferRequested)
    (saved : inst.globalSnapshotKey = some key) :
    ForkInvariant evaluateStrictLocal identity ((sys.setInstance c inst).record [.snapshotKeyReceived c recordProtocolKey key]) := by
  -- what opened is a sealing, and every sealing of AES-GCM a key some parent sent
  obtain ⟨-, sender, sent⟩ := h.sentOrigin _ (IdealAead.State.mem_of_decrypt opened)
  have logged := h.record (e := .snapshotKeyReceived c recordProtocolKey key) (fun _ => ⟨rfl, rfl, rfl⟩)
    ⟨⟨p, handshaked, matched⟩, sender, sent⟩
  rw [System.setInstance_record]
  refine logged.setInstance sameIdentity (by simp [sameFork]) (by simp [sameTransfer]) ?_
  intro key' saved'
  rw [saved, Option.some.injEq] at saved'
  subst saved'
  exact .inr ⟨recordProtocolKey, List.mem_append_right _ (List.mem_singleton_self _)⟩

/-- What `RestoreForFork` opens is a sealing under the instance's saved key,
at the address of its memory. -/
theorem restoreForFork_eq_ok {i : InstanceId} {snapshotLayout : Option SnapshotLayout} {othersActive : Bool}
    {memory : List UInt8} (restored : restoreForFork sys i snapshotLayout othersActive = .ok memory) :
    ∃ (key : List UInt8) (layout : SnapshotLayout), (sys.instances i).globalSnapshotKey = some key ∧
      sys.gcmSiv.decrypt key layout.nonce (sys.instances i).memoryAddress layout.ciphertext = some memory := by
  unfold restoreForFork at restored
  split_ifs at restored
  cases snapshotLayout with
  | none => simp at restored
  | some layout =>
    dsimp only at restored
    cases saved : (sys.instances i).globalSnapshotKey with
    | none => simp [saved] at restored
    | some key =>
      cases opened : sys.gcmSiv.decrypt key layout.nonce (sys.instances i).memoryAddress layout.ciphertext with
      | none => simp [saved, opened] at restored
      | some opening =>
        simp only [saved, opened, Except.ok.injEq] at restored
        exact ⟨key, layout, rfl, restored ▸ opened⟩

/-- The `Restore` ecall: a failure leaves the instance without a key, and a
success writes what a snapshot sealed under the saved key. -/
theorem ForkInvariant.restore (h : ForkInvariant evaluateStrictLocal identity sys) (i : InstanceId)
    (snapshotLayout : Option SnapshotLayout) (othersActive : Bool) :
    ForkInvariant evaluateStrictLocal identity (Fork.restore sys i snapshotLayout othersActive).2 := by
  unfold Fork.restore
  split
  · exact h
  · split
    · exact h.setInstance rfl (Nat.le_refl _) (Nat.le_refl _) fun _ saved => by
        simp [Instance.deleteSnapshotKey] at saved
    · rename_i memory restored
      obtain ⟨key, layout, saved, opened⟩ := restoreForFork_eq_ok restored
      obtain ⟨q, taken⟩ := h.snapshotOrigin _ (IdealAead.State.mem_of_decrypt opened)
      have logged := h.record (e := .restored i memory) (fun _ => ⟨rfl, rfl, rfl⟩) ⟨q, key, taken, h.keyOrigin i key saved⟩
      dsimp only
      rw [System.setInstance_record]
      exact logged.setInstance rfl (Nat.le_refl _) (Nat.le_refl _) fun _ saved => by
        simp [Instance.deleteSnapshotKey] at saved

theorem comparePeerAndSelfIdentity_eq_ok {self peer : Identity}
    (compared : comparePeerAndSelfIdentity evaluateStrictLocal self peer = .ok ()) :
    MatchesStrictLocal evaluateStrictLocal self peer := by
  unfold comparePeerAndSelfIdentity at compared
  split at compared
  · cases compared
  · cases compared
  · rename_i explanation evaluated
    exact ⟨explanation, evaluated⟩

/-- The parent after its handshake completed, with the credit of the flag it
cleared for it. -/
theorem ForkInvariant.parentAfterHandshake (h : ForkInvariant evaluateStrictLocal identity sys) {p c : InstanceId}
    {recordProtocolKey : List UInt8} (credit : snapshotKeysSent p sys.log < snapshotsTaken p sys.log)
    (cleared : (sys.instances p).snapshotKeyTransferRequested = false)
    (handshaked : .handshakeCompleted p c recordProtocolKey ∈ sys.log) (nonce ciphertext : List UInt8) :
    ForkInvariant evaluateStrictLocal identity
      (Fork.parentAfterHandshake evaluateStrictLocal sys p c recordProtocolKey nonce ciphertext).2 := by
  unfold Fork.parentAfterHandshake
  split
  · exact h
  · rename_i compared
    have matched := comparePeerAndSelfIdentity_eq_ok compared
    rw [h.identities, h.identities] at matched
    have deleted : ForkInvariant evaluateStrictLocal identity (sys.setInstance p (sys.instances p).deleteSnapshotKey) :=
      h.setInstance rfl (Nat.le_refl _) (Nat.le_refl _) fun _ saved => by simp [Instance.deleteSnapshotKey] at saved
    unfold encryptAndSendSnapshotKey
    dsimp only
    split
    · exact deleted
    · rename_i key saved
      exact deleted.keySent credit (by simp [Instance.deleteSnapshotKey, cleared]) handshaked matched
        (h.keyOrigin p key saved) nonce ciphertext

/-- The parent only appends to the log. -/
theorem mem_parentAfterHandshake_log {e : ForkEvent} (logged : e ∈ sys.log) (p c : InstanceId)
    (recordProtocolKey nonce ciphertext : List UInt8) :
    e ∈ (Fork.parentAfterHandshake evaluateStrictLocal sys p c recordProtocolKey nonce ciphertext).2.log := by
  unfold Fork.parentAfterHandshake encryptAndSendSnapshotKey
  split
  · exact logged
  · dsimp only
    split
    · exact logged
    · exact List.mem_append_left _ logged

/-- The child after its handshake completed. -/
theorem ForkInvariant.childAfterHandshake (h : ForkInvariant evaluateStrictLocal identity sys) {p c : InstanceId}
    {recordProtocolKey : List UInt8} (handshaked : .handshakeCompleted p c recordProtocolKey ∈ sys.log)
    (received : Option EncryptedSnapshotKey) :
    ForkInvariant evaluateStrictLocal identity
      (Fork.childAfterHandshake evaluateStrictLocal sys p c recordProtocolKey received).2 := by
  unfold Fork.childAfterHandshake
  split
  · exact h
  · rename_i compared
    have matched := comparePeerAndSelfIdentity_eq_ok compared
    rw [h.identities, h.identities] at matched
    unfold receiveSnapshotKey
    split
    · exact h
    · split
      · exact h
      · rename_i key opened
        split
        · exact h
        · rename_i inst stored
          rw [Instance.setSnapshotKey_eq_true _ stored]
          exact h.keyReceived handshaked matched opened rfl rfl rfl rfl

/-- Two `TransferSecureSnapshotKey` ecalls whose handshake completes. -/
theorem ForkInvariant.transferBetween (h : ForkInvariant evaluateStrictLocal identity sys) (p c : InstanceId)
    (recordProtocolKey nonce ciphertext : List UInt8) (received : Option EncryptedSnapshotKey) (handshakeFailure : Status) :
    ForkInvariant evaluateStrictLocal identity
      (Fork.transferBetween evaluateStrictLocal sys p c recordProtocolKey nonce ciphertext received handshakeFailure).2 := by
  unfold Fork.transferBetween
  cases requested : (sys.instances p).snapshotKeyTransferRequested
  · -- a parent whose transfer was not requested refuses before the handshake
    simp only [Instance.clearSnapshotKeyTransferRequested_of_false _ requested, System.setInstance_self]
    exact h
  · have clearing : (sys.instances p).clearSnapshotKeyTransferRequested =
        (true, { sys.instances p with snapshotKeyTransferRequested := false }) := by
      simp [Instance.clearSnapshotKeyTransferRequested, requested]
    simp only [clearing]
    have cleared : ForkInvariant evaluateStrictLocal identity
        (sys.setInstance p { sys.instances p with snapshotKeyTransferRequested := false }) :=
      h.setInstance rfl (Nat.le_refl _) (by simp [requested]) (h.keyOrigin p)
    have started := cleared.record (e := .handshakeCompleted p c recordProtocolKey) (fun _ => ⟨rfl, rfl, rfl⟩) trivial
    have credit := h.sendsBounded p
    simp only [requested, Bool.toNat_true] at credit
    have handshaked : ForkEvent.handshakeCompleted p c recordProtocolKey ∈
        ((sys.setInstance p { sys.instances p with snapshotKeyTransferRequested := false }).record
          [.handshakeCompleted p c recordProtocolKey]).log := by
      simp
    have parent := started.parentAfterHandshake
      (by simpa [ForkEvent.isKeySendOf, ForkEvent.isSnapshotOf] using Nat.lt_of_succ_le credit) (by simp) handshaked
      nonce ciphertext
    exact parent.childAfterHandshake
      (mem_parentAfterHandshake_log handshaked p c recordProtocolKey nonce ciphertext) received

/-- One ecall into an instance that may refuse it. -/
theorem ForkInvariant.ecall (h : ForkInvariant evaluateStrictLocal identity sys) {i : InstanceId}
    {body : StatusOr Unit × System Identity} (kept : ForkInvariant evaluateStrictLocal identity body.2) :
    ForkInvariant evaluateStrictLocal identity (Fork.ecall sys i body).1 := by
  unfold Fork.ecall
  split
  · exact h
  · exact kept

/-- Every call of the host keeps the invariant. -/
theorem ForkInvariant.step (h : ForkInvariant evaluateStrictLocal identity sys) (call : HostCall) :
    ForkInvariant evaluateStrictLocal identity (Fork.step evaluateStrictLocal sys call).1 := by
  cases call with
  | enter i memory callsFork result => exact h.ecall (h.enter i memory callsFork result)
  | takeSnapshot i snapshotKey othersExited untrustedAllocated nonce ciphertext =>
    exact h.ecall (h.takeSnapshot i snapshotKey othersExited untrustedAllocated nonce ciphertext)
  | transferSecureSnapshotKey i config handshakeFailure =>
    exact h.ecall (h.transferSecureSnapshotKey i config handshakeFailure)
  | transferBetween p c recordProtocolKey nonce ciphertext received handshakeFailure =>
    dsimp only [Fork.step]
    split
    · exact h
    · exact h.transferBetween p c recordProtocolKey nonce ciphertext received handshakeFailure
  | restore i snapshotLayout othersActive => exact h.ecall (h.restore i snapshotLayout othersActive)

end Steps

section Runs

variable (evaluateStrictLocal : Identity → Identity → StatusOr (Bool × String)) (identity : InstanceId → Identity)
  (enableFork : InstanceId → Option Bool) (memoryAddress memory : InstanceId → List UInt8)

/-- Every run of host calls from freshly loaded instances keeps the invariant. -/
theorem forkInvariant_run (calls : List HostCall) :
    ForkInvariant evaluateStrictLocal identity
      (Machine.run (step evaluateStrictLocal) (System.init identity enableFork memoryAddress memory) calls).1 :=
  Machine.run_invariant (step evaluateStrictLocal) (fun _ call kept => kept.step call) calls
    (forkInvariant_init evaluateStrictLocal identity enableFork memoryAddress memory)

/-- Along every run, an instance takes a snapshot at most once per call of
`enc_fork` in its user code, and sends its snapshot key at most once per
snapshot. -/
theorem snapshots_and_sends_bounded (calls : List HostCall) (i : InstanceId) :
    let log := (Machine.run (step evaluateStrictLocal) (System.init identity enableFork memoryAddress memory) calls).1.log
    snapshotsTaken i log ≤ forkCalls i log ∧ snapshotKeysSent i log ≤ snapshotsTaken i log := by
  have holds := forkInvariant_run evaluateStrictLocal identity enableFork memoryAddress memory calls
  exact ⟨Nat.le_of_add_right_le (holds.snapshotsBounded i), Nat.le_of_add_right_le (holds.sendsBounded i)⟩

/-- Along every run, a snapshot key is sent only after a completed handshake
with a peer of a matching identity, installed only after a matching handshake
and the send of that key under its record-protocol key, and a restore writes
only a snapshot sealed under a key the instance generated or received. -/
theorem log_justified (calls : List HostCall) :
    AllJustified evaluateStrictLocal identity
      (Machine.run (step evaluateStrictLocal) (System.init identity enableFork memoryAddress memory) calls).1.log :=
  (forkInvariant_run evaluateStrictLocal identity enableFork memoryAddress memory calls).justified

end Runs

/-- A call that leaves the snapshot key of `i` alone: anything but a snapshot
or a restore of `i`, or a handshake of `i` that completes. -/
def HostCall.sparesSnapshotOf (i : InstanceId) : HostCall → Bool
  | .enter .. => true
  | .takeSnapshot j .. => j != i
  | .transferSecureSnapshotKey .. => true
  | .transferBetween p c .. => p != i && c != i
  | .restore j .. => j != i

section Rollback

variable {Identity : Type} {evaluateStrictLocal : Identity → Identity → StatusOr (Bool × String)} {i : InstanceId}

/-- What the calls between a snapshot of `i` and its restore keep: the fields
of `i` that `Restore` reads, and every sealing of the snapshot table. -/
structure KeepsSnapshot (i : InstanceId) (sys sys' : System Identity) : Prop where
  enableFork : (sys'.instances i).enableFork = (sys.instances i).enableFork
  entriesRejected : (sys'.instances i).entriesRejected = (sys.instances i).entriesRejected
  globalSnapshotKey : (sys'.instances i).globalSnapshotKey = (sys.instances i).globalSnapshotKey
  memoryAddress : (sys'.instances i).memoryAddress = (sys.instances i).memoryAddress
  sealings : sys.gcmSiv.sealings <+: sys'.gcmSiv.sealings

namespace KeepsSnapshot

variable {sys sys' sys'' : System Identity}

theorem refl (i : InstanceId) (sys : System Identity) : KeepsSnapshot i sys sys :=
  ⟨rfl, rfl, rfl, rfl, List.prefix_refl _⟩

theorem trans (first : KeepsSnapshot i sys sys') (second : KeepsSnapshot i sys' sys'') : KeepsSnapshot i sys sys'' :=
  ⟨second.enableFork.trans first.enableFork, second.entriesRejected.trans first.entriesRejected,
    second.globalSnapshotKey.trans first.globalSnapshotKey, second.memoryAddress.trans first.memoryAddress,
    first.sealings.trans second.sealings⟩

theorem record (kept : KeepsSnapshot i sys sys') (events : List ForkEvent) : KeepsSnapshot i sys (sys'.record events) :=
  ⟨kept.enableFork, kept.entriesRejected, kept.globalSnapshotKey, kept.memoryAddress, kept.sealings⟩

/-- Replacing an instance with one that agrees on what `Restore` reads. -/
theorem setInstance (kept : KeepsSnapshot i sys sys') {j : InstanceId} {inst : Instance Identity}
    (sameFork : inst.enableFork = (sys'.instances j).enableFork)
    (sameRejected : inst.entriesRejected = (sys'.instances j).entriesRejected)
    (sameKey : inst.globalSnapshotKey = (sys'.instances j).globalSnapshotKey)
    (sameAddress : inst.memoryAddress = (sys'.instances j).memoryAddress) :
    KeepsSnapshot i sys (sys'.setInstance j inst) := by
  refine kept.trans ?_
  by_cases here : i = j
  · subst here
    exact ⟨by simp [sameFork], by simp [sameRejected], by simp [sameKey], by simp [sameAddress], List.prefix_refl _⟩
  · have other : (sys'.setInstance j inst).instances i = sys'.instances i := Function.update_of_ne here _ _
    exact ⟨by rw [other], by rw [other], by rw [other], by rw [other], List.prefix_refl _⟩

/-- Replacing any instance but `i`. -/
theorem setInstance_of_ne (kept : KeepsSnapshot i sys sys') {j : InstanceId} (other : j ≠ i) (inst : Instance Identity) :
    KeepsSnapshot i sys (sys'.setInstance j inst) := by
  refine kept.trans ⟨?_, ?_, ?_, ?_, List.prefix_refl _⟩ <;> rw [System.setInstance_instances, Function.update_of_ne (Ne.symm other)]

theorem encryptSnapshot (kept : KeepsSnapshot i sys sys') (key nonce associatedData ciphertext plaintext : List UInt8) :
    KeepsSnapshot i sys { sys' with gcmSiv := sys'.gcmSiv.encrypt key nonce associatedData ciphertext plaintext } :=
  ⟨kept.enableFork, kept.entriesRejected, kept.globalSnapshotKey, kept.memoryAddress,
    kept.sealings.trans IdealAead.State.sealings_prefix_encrypt⟩

theorem sendKey (kept : KeepsSnapshot i sys sys') (gcm : Aead) : KeepsSnapshot i sys { sys' with gcm } :=
  ⟨kept.enableFork, kept.entriesRejected, kept.globalSnapshotKey, kept.memoryAddress, kept.sealings⟩

end KeepsSnapshot

variable {sys : System Identity}

/-- An ecall into an instance that accepts entries runs its body. -/
theorem ecall_of_accepted {j : InstanceId} (accepted : (sys.instances j).entriesRejected = false)
    (body : StatusOr Unit × System Identity) : ecall sys j body = (body.2, [.returned body.1]) := by
  simp [ecall, accepted]

theorem KeepsSnapshot.ecall {j : InstanceId} {body : StatusOr Unit × System Identity}
    (kept : KeepsSnapshot i sys body.2) : KeepsSnapshot i sys (Fork.ecall sys j body).1 := by
  unfold Fork.ecall
  split
  · exact .refl i sys
  · exact kept

theorem keepsSnapshot_enter (j : InstanceId) (memory : List UInt8) (callsFork : Bool) (result : StatusOr Unit) :
    KeepsSnapshot i sys (enter sys j memory callsFork result).2 := by
  unfold enter
  refine ((KeepsSnapshot.refl i sys).setInstance ?_ ?_ ?_ ?_).record _ <;> rfl

theorem keepsSnapshot_takeSnapshot {j : InstanceId} (other : j ≠ i) (snapshotKey : UnsafeBytes kSnapshotKeySize)
    (othersExited untrustedAllocated : Bool) (nonce ciphertext : List UInt8) :
    KeepsSnapshot i sys (takeSnapshot sys j snapshotKey othersExited untrustedAllocated nonce ciphertext).2 := by
  have start := KeepsSnapshot.refl i sys
  unfold takeSnapshot takeSnapshotForFork
  split
  · exact start
  · split
    · exact start.setInstance_of_ne other _
    · split
      · exact start.setInstance_of_ne other _
      · split_ifs
        · exact (start.setInstance_of_ne other _).record _
        · exact (start.setInstance_of_ne other _).record _
        · exact ((((start.setInstance_of_ne other _).record _).encryptSnapshot _ _ _ _ _).setInstance_of_ne other _).record _

theorem keepsSnapshot_restore {j : InstanceId} (other : j ≠ i) (snapshotLayout : Option SnapshotLayout)
    (othersActive : Bool) : KeepsSnapshot i sys (Fork.restore sys j snapshotLayout othersActive).2 := by
  unfold Fork.restore
  split
  · exact .refl i sys
  · split
    · exact (KeepsSnapshot.refl i sys).setInstance_of_ne other _
    · exact ((KeepsSnapshot.refl i sys).setInstance_of_ne other _).record _

/-- A handshake that does not complete changes at most the transfer flag. -/
theorem keepsSnapshot_transferSecureSnapshotKey (j : InstanceId) (config : Option ForkHandshakeConfig)
    (handshakeFailure : Status) : KeepsSnapshot i sys (transferSecureSnapshotKey sys j config handshakeFailure).2 := by
  have started : (transferSecureSnapshotKey sys j config handshakeFailure).2 =
      sys.setInstance j (transferStart (sys.instances j) config).2 := by
    unfold transferSecureSnapshotKey
    split <;> rename_i result <;> rw [result]
  rw [started]
  rcases transferStart_snd (sys.instances j) config with same | cleared
  · rw [same, System.setInstance_self]
    exact .refl i sys
  · rw [cleared]
    refine (KeepsSnapshot.refl i sys).setInstance ?_ ?_ ?_ ?_ <;> rfl

theorem KeepsSnapshot.parentAfterHandshake {sys' : System Identity} (kept : KeepsSnapshot i sys sys')
    {p : InstanceId} (other : p ≠ i) (c : InstanceId) (recordProtocolKey nonce ciphertext : List UInt8) :
    KeepsSnapshot i sys (Fork.parentAfterHandshake evaluateStrictLocal sys' p c recordProtocolKey nonce ciphertext).2 := by
  unfold Fork.parentAfterHandshake encryptAndSendSnapshotKey
  split
  · exact kept
  · dsimp only
    split
    · exact kept.setInstance_of_ne other _
    · exact ((kept.setInstance_of_ne other _).sendKey _).record _

theorem KeepsSnapshot.childAfterHandshake {sys' : System Identity} (kept : KeepsSnapshot i sys sys')
    (p : InstanceId) {c : InstanceId} (other : c ≠ i) (recordProtocolKey : List UInt8)
    (received : Option EncryptedSnapshotKey) :
    KeepsSnapshot i sys (Fork.childAfterHandshake evaluateStrictLocal sys' p c recordProtocolKey received).2 := by
  unfold Fork.childAfterHandshake receiveSnapshotKey
  split
  · exact kept
  · split
    · exact kept
    · split
      · exact kept
      · split
        · exact kept
        · exact (kept.setInstance_of_ne other _).record _

theorem keepsSnapshot_transferBetween {p c : InstanceId} (parentOther : p ≠ i) (childOther : c ≠ i)
    (recordProtocolKey nonce ciphertext : List UInt8) (received : Option EncryptedSnapshotKey) (handshakeFailure : Status) :
    KeepsSnapshot i sys
      (Fork.transferBetween evaluateStrictLocal sys p c recordProtocolKey nonce ciphertext received handshakeFailure).2 := by
  unfold Fork.transferBetween
  split
  · exact (KeepsSnapshot.refl i sys).setInstance_of_ne parentOther _
  · dsimp only
    exact ((((KeepsSnapshot.refl i sys).setInstance_of_ne parentOther _).record _).parentAfterHandshake parentOther c
      recordProtocolKey nonce ciphertext).childAfterHandshake p childOther recordProtocolKey received

/-- Every call that spares the snapshot key of `i` keeps what its restore
reads. -/
theorem keepsSnapshot_step (call : HostCall) (spared : call.sparesSnapshotOf i = true) :
    KeepsSnapshot i sys (step evaluateStrictLocal sys call).1 := by
  cases call with
  | enter j memory callsFork result => exact KeepsSnapshot.ecall (keepsSnapshot_enter j memory callsFork result)
  | takeSnapshot j snapshotKey othersExited untrustedAllocated nonce ciphertext =>
    have other : j ≠ i := by simpa [HostCall.sparesSnapshotOf] using spared
    exact KeepsSnapshot.ecall (keepsSnapshot_takeSnapshot other snapshotKey othersExited untrustedAllocated nonce ciphertext)
  | transferSecureSnapshotKey j config handshakeFailure =>
    exact KeepsSnapshot.ecall (keepsSnapshot_transferSecureSnapshotKey j config handshakeFailure)
  | transferBetween p c recordProtocolKey nonce ciphertext received handshakeFailure =>
    have others : p ≠ i ∧ c ≠ i := by simpa [HostCall.sparesSnapshotOf] using spared
    dsimp only [Fork.step]
    split
    · exact .refl i sys
    · exact keepsSnapshot_transferBetween others.1 others.2 recordProtocolKey nonce ciphertext received handshakeFailure
  | restore j snapshotLayout othersActive =>
    have other : j ≠ i := by simpa [HostCall.sparesSnapshotOf] using spared
    exact KeepsSnapshot.ecall (keepsSnapshot_restore other snapshotLayout othersActive)

/-- Instance `i` can be rolled back to `memory`: it accepts entries, fork is
enabled, and the sealing of `layout` at its address opens to `memory` under
the key it holds. -/
structure RollbackReady (sys : System Identity) (i : InstanceId) (key : List UInt8) (layout : SnapshotLayout)
    (memory : List UInt8) : Prop where
  enabled : (sys.instances i).enableFork = some true
  accepted : (sys.instances i).entriesRejected = false
  saved : (sys.instances i).globalSnapshotKey = some key
  opens : sys.gcmSiv.decrypt key layout.nonce (sys.instances i).memoryAddress layout.ciphertext = some memory

theorem RollbackReady.keep {sys' : System Identity} {key : List UInt8} {layout : SnapshotLayout} {memory : List UInt8}
    (ready : RollbackReady sys i key layout memory) (kept : KeepsSnapshot i sys sys') :
    RollbackReady sys' i key layout memory := by
  refine ⟨kept.enableFork.trans ready.enabled, kept.entriesRejected.trans ready.accepted,
    kept.globalSnapshotKey.trans ready.saved, ?_⟩
  rw [kept.memoryAddress]
  exact IdealAead.State.decrypt_of_prefix kept.sealings ready.opens

/-- The entry in which user code calls `enc_fork`. -/
theorem step_enter_of_accepted (accepted : (sys.instances i).entriesRejected = false) (memory : List UInt8)
    (callsFork : Bool) (result : StatusOr Unit) :
    step evaluateStrictLocal sys (.enter i memory callsFork result) =
      ((sys.setInstance i
          { sys.instances i with memory := memory, forkRequested := (sys.instances i).forkRequested || callsFork }).record
        [.userCode i callsFork], [.returned result]) := by
  simp only [Fork.step, ecall_of_accepted accepted, enter]

/-- A snapshot after a call of `enc_fork`, with coins no earlier snapshot
used, leaves the instance ready to be rolled back to its memory. -/
theorem rollbackReady_takeSnapshot (enabled : (sys.instances i).enableFork = some true)
    (accepted : (sys.instances i).entriesRejected = false) (requested : (sys.instances i).forkRequested = true)
    {nonce : List UInt8} (fresh : nonce ∉ sys.gcmSiv.sealings.map (·.nonce)) (snapshotKey : UnsafeBytes kSnapshotKeySize)
    (ciphertext : List UInt8) {memory : List UInt8} (current : (sys.instances i).memory = memory) :
    RollbackReady (step evaluateStrictLocal sys (.takeSnapshot i snapshotKey true true nonce ciphertext)).1 i
      snapshotKey.1 ⟨ciphertext, nonce⟩ memory := by
  have cleared : (sys.instances i).clearForkRequested = (true, { sys.instances i with forkRequested := false }) := by
    simp [Instance.clearForkRequested, requested]
  simp only [Fork.step, ecall_of_accepted accepted, takeSnapshot, enabled, checkForkEnabled, takeSnapshotForFork,
    cleared, Instance.setSnapshotKey_of_length _ snapshotKey.2]
  refine ⟨by simp, by simp [accepted], by simp, ?_⟩
  simpa [current] using IdealAead.State.decrypt_encrypt_self fresh

/-- The entry of user code that calls `enc_fork` and the snapshot after it
leave the instance ready to be rolled back to the memory of that entry. -/
theorem rollbackReady_of_fork (enabled : (sys.instances i).enableFork = some true)
    (accepted : (sys.instances i).entriesRejected = false) {nonce : List UInt8}
    (fresh : nonce ∉ sys.gcmSiv.sealings.map (·.nonce)) (memory : List UInt8) (result : StatusOr Unit)
    (snapshotKey : UnsafeBytes kSnapshotKeySize) (ciphertext : List UInt8) :
    RollbackReady (Machine.run (step evaluateStrictLocal) sys
      [.enter i memory true result, .takeSnapshot i snapshotKey true true nonce ciphertext]).1 i
      snapshotKey.1 ⟨ciphertext, nonce⟩ memory := by
  simp only [Machine.run_cons, Machine.run_nil, step_enter_of_accepted accepted]
  refine rollbackReady_takeSnapshot ?_ ?_ ?_ ?_ snapshotKey ciphertext ?_
  · simp [enabled]
  · simp [accepted]
  · simp
  · simpa using fresh
  · simp

/-- A restore of an instance that is ready writes the snapshot's memory and
returns OK. -/
theorem step_restore_of_ready {key : List UInt8} {layout : SnapshotLayout} {memory : List UInt8}
    (ready : RollbackReady sys i key layout memory) :
    step evaluateStrictLocal sys (.restore i (some layout) false) =
      ((sys.setInstance i { (sys.instances i).deleteSnapshotKey with memory }).record [.restored i memory],
        [.returned (.ok ())]) := by
  have restored : restoreForFork sys i (some layout) false = .ok memory := by
    simp [restoreForFork, ready.saved, ready.opens]
  simp only [Fork.step, ecall_of_accepted ready.accepted, Fork.restore, ready.enabled, checkForkEnabled, restored]

/-- `Restore` rolls back the instance that forked. Instance `i`, whose user
code called `enc_fork`, takes its snapshot; whatever the host then does that
leaves the snapshot key of `i` alone (more entries into `i`, whose user code
runs on; a key transfer of `i` whose handshake fails; any call into another
instance), a `Restore` of `i` with the snapshot's layout returns OK and writes
the memory of the snapshot back over the memory of `i`. -/
theorem restore_rolls_back_forked_parent (sys : System Identity) (i : InstanceId)
    (enabled : (sys.instances i).enableFork = some true) (accepted : (sys.instances i).entriesRejected = false)
    {nonce : List UInt8} (fresh : nonce ∉ sys.gcmSiv.sealings.map (·.nonce)) (memory ciphertext : List UInt8)
    (result : StatusOr Unit) (snapshotKey : UnsafeBytes kSnapshotKeySize) (later : List HostCall)
    (spared : ∀ call ∈ later, call.sparesSnapshotOf i = true) :
    let run := Machine.run (step evaluateStrictLocal) sys
      ([.enter i memory true result, .takeSnapshot i snapshotKey true true nonce ciphertext] ++ later ++
        [.restore i (some ⟨ciphertext, nonce⟩) false])
    (run.1.instances i).memory = memory ∧ run.2.getLast? = some [.returned (.ok ())] ∧
      run.1.log.getLast? = some (.restored i memory) := by
  intro run
  have forked : RollbackReady (Machine.run (step evaluateStrictLocal) sys
      [.enter i memory true result, .takeSnapshot i snapshotKey true true nonce ciphertext]).1 i
      snapshotKey.1 ⟨ciphertext, nonce⟩ memory :=
    rollbackReady_of_fork enabled accepted fresh memory result snapshotKey ciphertext
  -- the calls of the host in between spare the key of `i`, so it stays ready
  have ready := Machine.run_invariant_of_forall (step evaluateStrictLocal)
    (fun s call (ready : RollbackReady s i snapshotKey.1 ⟨ciphertext, nonce⟩ memory) spares =>
      ready.keep (keepsSnapshot_step call spares)) later forked spared
  simp only [run, Machine.run_append, Machine.run_cons, Machine.run_nil] at ready ⊢
  rw [step_restore_of_ready ready]
  refine ⟨by simp, ?_, by simp⟩
  rw [List.getLast?_concat]

/-- Instance `0` forks with memory `[2]`, its handshake with the child fails,
its user code runs on and leaves `[3]`, and a restore puts `[2]` back. -/
theorem restore_rolls_back_forked_parent_after_failed_handshake :
    let sys := System.init (fun _ => ()) (fun _ => some true) (fun _ => [1]) (fun _ => [2])
    let calls : List HostCall := [.enter 0 [2] true (.ok ()),
      .takeSnapshot 0 ⟨List.replicate 32 7, List.length_replicate⟩ true true [0] [9]]
    let later : List HostCall := [.transferSecureSnapshotKey 0 (some ⟨some true, some 0⟩) ⟨.internal, "handshake failed"⟩,
      .enter 0 [3] false (.ok ())]
    let run := Machine.run (step fun (_ _ : Unit) => .ok (true, "")) sys
      (calls ++ later ++ [.restore 0 (some ⟨[9], [0]⟩) false])
    ((Machine.run (step fun (_ _ : Unit) => .ok (true, "")) sys (calls ++ later)).1.instances 0).memory = [3] ∧
      (run.1.instances 0).memory = [2] ∧ run.2.getLast? = some [.returned (.ok ())] ∧
      run.1.log.getLast? = some (.restored 0 [2]) :=
  ⟨rfl, restore_rolls_back_forked_parent _ 0 rfl rfl (by simp [System.init]) [2] [9] (.ok ())
    ⟨List.replicate 32 7, List.length_replicate⟩ _ (by decide)⟩

end Rollback

end Asylo.Fork
