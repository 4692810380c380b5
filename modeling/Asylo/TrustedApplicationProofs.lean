import Asylo.TrustedApplication

/-! The enclave lifecycle over every sequence of entries. Whatever the host
calls and whatever the user's code returns, the enclave's states form a path
of `Moves` from `kUninitialized`, `Run` is only entered in `kRunning`, and
`Initialize` succeeds and `Finalize` runs at most once (`enclave_lifecycle`).

A failed `__asylo_user_init` is not undone, though: it puts the state back to
`kUninitialized` but keeps the descriptors it registered and the config it set.
A retry registers its standard descriptors after them, from 3 on, and the
config it passes is never set (`retried_init_after_failure`). The path
handlers are registered once whatever the retries (`initializeIo_prefixToHandler_idem`). -/
namespace Asylo
open AeadHandler (emplace)

/-! ## The lifecycle -/

/-- The moves of the lifecycle: along `kUninitialized`, ..., `kFinalized`,
and back to `kUninitialized` when the user's `Initialize` fails. -/
inductive Moves : EnclaveState → EnclaveState → Prop
  | internalInitializing : Moves .kUninitialized .kInternalInitializing
  | userInitializing : Moves .kInternalInitializing .kUserInitializing
  | running : Moves .kUserInitializing .kRunning
  | finalizing : Moves .kRunning .kFinalizing
  | finalized : Moves .kFinalizing .kFinalized
  | initFailed : Moves .kUserInitializing .kUninitialized

/-- A path of `Moves` from `kUninitialized` to `state`. -/
structure Traced (history : List EnclaveState) (state : EnclaveState) : Prop where
  chain : history.IsChain Moves
  first : history.head? = some .kUninitialized
  current : history.getLast? = some state

theorem Traced.push {history : List EnclaveState} {state next : EnclaveState}
    (traced : Traced history state) (move : Moves state next) : Traced (history ++ [next]) next where
  chain := traced.chain.append (List.isChain_singleton next) (by
    intro x last y first
    simp only [traced.current, Option.mem_def, Option.some.injEq] at last
    simp only [List.head?_cons, Option.mem_def, Option.some.injEq] at first
    exact last ▸ first ▸ move)
  first := by simp [List.head?_append, traced.first]
  current := by simp

namespace UserCall

/-- A call of `Initialize` that succeeded. -/
def initSucceeded : UserCall → Bool
  | .init _ true => true
  | _ => false

/-- A call of `Finalize`. -/
def isFini : UserCall → Bool
  | .fini _ => true
  | _ => false

/-- The state the call was made in. -/
def state : UserCall → EnclaveState
  | .init state _ | .run state | .fini state => state

/-- The state the entry point checks for before it makes the call. -/
def required : UserCall → EnclaveState
  | .init _ _ => .kUserInitializing
  | .run _ => .kRunning
  | .fini _ => .kFinalizing

theorem inRequiredState_append {calls : List UserCall} (old : ∀ c ∈ calls, c.state = c.required)
    {call : UserCall} (new : call.state = call.required) :
    ∀ c ∈ calls ++ [call], c.state = c.required := by
  intro c member
  rcases List.mem_append.mp member with before | here
  · exact old c before
  · rw [List.mem_singleton.mp here]
    exact new

end UserCall

/-- What holds of the enclave between two entries. -/
structure Lifecycle (e : Enclave) : Prop where
  traced : Traced e.history e.state
  atRest : e.state = .kUninitialized ∨ e.state = .kRunning ∨ e.state = .kFinalized
  inRequiredState : ∀ call ∈ e.userCalls, call.state = call.required
  initialized : e.userCalls.countP UserCall.initSucceeded = if e.state = .kUninitialized then 0 else 1
  finalized : e.userCalls.countP UserCall.isFini = if e.state = .kFinalized then 1 else 0

theorem lifecycle_init : Lifecycle Enclave.init where
  traced := ⟨List.isChain_singleton _, rfl, rfl⟩
  atRest := .inl rfl
  inRequiredState := by simp [Enclave.init]
  initialized := rfl
  finalized := rfl

/-! ## What each entry does -/

section Entries

variable {EnclaveInput EnclaveFinal : Type} (app : TrustedApplication EnclaveInput EnclaveFinal)
  (e : Enclave)

theorem verifyAndSetState_of_eq {expected : EnclaveState} (newState : EnclaveState)
    (h : e.state = expected) : e.verifyAndSetState expected newState = (.ok (), e.setState newState) := by
  simp [Enclave.verifyAndSetState, h]

theorem verifyAndSetState_of_ne {expected : EnclaveState} (newState : EnclaveState)
    (h : e.state ≠ expected) :
    e.verifyAndSetState expected newState =
      (.error ⟨.failedPrecondition, "Enclave is in state: " ++ toString e.state.toNat ++
        " expected state: " ++ toString expected.toNat⟩, e) := by
  simp [Enclave.verifyAndSetState, h]

/-- From `kInternalInitializing`, `InitializeInternal` sets up the IO, the
environment and the config, moves to `kUserInitializing` and calls the user's
`Initialize`. -/
theorem initializeInternal_of_internalInitializing (config : EnclaveConfig)
    (internal : e.state = .kInternalInitializing) :
    app.initializeInternal config e =
      (app.init config,
        { e with
          ioManager := initializeIo config e.ioManager
          environ := (initializeEnvironmentVariables e.environ config.environmentVariables).2
          enclaveConfig := (setEnclaveConfig e.enclaveConfig config).2
          state := .kUserInitializing
          history := e.history ++ [.kUserInitializing]
          userCalls := e.userCalls ++ [.init .kUserInitializing (app.init config).isOk] }) := by
  simp [TrustedApplication.initializeInternal, Enclave.verifyAndSetState, Enclave.setState, internal]

/-- `__asylo_user_init` from `kUninitialized`: the enclave ends in
`kRunning` or, when `Initialize` fails, back in `kUninitialized`, and keeps
what `InitializeInternal` set up either way. -/
theorem asyloUserInit_of_uninitialized (name : String) (config : EnclaveConfig)
    (uninitialized : e.state = .kUninitialized) :
    app.asyloUserInit name (some config) e =
      (app.init config,
        { e with
          enclaveName := name
          ioManager := initializeIo config e.ioManager
          environ := (initializeEnvironmentVariables e.environ config.environmentVariables).2
          enclaveConfig := (setEnclaveConfig e.enclaveConfig config).2
          state := if (app.init config).isOk then .kRunning else .kUninitialized
          history := e.history ++ [.kInternalInitializing, .kUserInitializing,
            if (app.init config).isOk then .kRunning else .kUninitialized]
          userCalls := e.userCalls ++ [.init .kUserInitializing (app.init config).isOk] }) := by
  have internal := initializeInternal_of_internalInitializing app
    { e.setState .kInternalInitializing with enclaveName := name } config rfl
  simp only [TrustedApplication.asyloUserInit]
  rw [verifyAndSetState_of_eq _ _ uninitialized]
  simp only
  rw [internal]
  -- the result of the user's `Initialize` picks the state `SetState` writes last
  cases app.init config with
  | error status => simp [Enclave.setState, Except.isOk, Except.toBool]
  | ok u => simp [Enclave.setState, Except.isOk, Except.toBool]

/-- `__asylo_user_init` in any other state, or with a config that does not
parse, changes nothing. -/
theorem asyloUserInit_unchanged (name : String) (config : Option EnclaveConfig)
    (h : config = none ∨ e.state ≠ .kUninitialized) : (app.asyloUserInit name config e).2 = e := by
  rcases config with _ | config
  · rfl
  · have initialized : e.state ≠ .kUninitialized := by simpa using h
    simp only [TrustedApplication.asyloUserInit]
    rw [verifyAndSetState_of_ne _ _ initialized]

/-- `__asylo_user_run` enters `Run` only in `kRunning`, and changes nothing
else. -/
theorem asyloUserRun_cases (input : Option EnclaveInput) :
    (app.asyloUserRun input e).2 = e ∨
      (e.state = .kRunning ∧ (app.asyloUserRun input e).2 = { e with userCalls := e.userCalls ++ [.run .kRunning] }) := by
  rcases input with _ | input
  · exact .inl rfl
  · by_cases running : e.state = .kRunning
    · right
      simp [TrustedApplication.asyloUserRun, running]
    · left
      simp [TrustedApplication.asyloUserRun, running]

/-- `__asylo_user_fini` enters `Finalize` only in `kRunning`, through
`kFinalizing` to `kFinalized`. -/
theorem asyloUserFini_cases (input : Option EnclaveFinal) :
    (app.asyloUserFini input e).2 = e ∨
      (e.state = .kRunning ∧ (app.asyloUserFini input e).2 =
        { e with state := .kFinalized, history := e.history ++ [.kFinalizing, .kFinalized],
                 userCalls := e.userCalls ++ [.fini .kFinalizing] }) := by
  rcases input with _ | final
  · exact .inl rfl
  · by_cases running : e.state = .kRunning
    · right
      refine ⟨running, ?_⟩
      simp only [TrustedApplication.asyloUserFini]
      rw [verifyAndSetState_of_eq _ _ running]
      simp [Enclave.setState]
    · left
      simp only [TrustedApplication.asyloUserFini]
      rw [verifyAndSetState_of_ne _ _ running]

end Entries

/-! ## Each entry keeps the lifecycle -/

section Step

variable {EnclaveInput EnclaveFinal : Type} (app : TrustedApplication EnclaveInput EnclaveFinal)
  {e : Enclave}

theorem Lifecycle.userInit (life : Lifecycle e) (uninitialized : e.state = .kUninitialized)
    (name : String) (config : EnclaveConfig) : Lifecycle (app.asyloUserInit name (some config) e).2 := by
  rw [asyloUserInit_of_uninitialized app e name config uninitialized]
  have initialized := life.initialized
  have finalized := life.finalized
  rw [if_pos uninitialized] at initialized
  rw [if_neg (by rw [uninitialized]; decide)] at finalized
  have toInternal := life.traced.push (uninitialized ▸ Moves.internalInitializing)
  have toUser := toInternal.push Moves.userInitializing
  cases ok : (app.init config).isOk with
  | true =>
    have done := toUser.push Moves.running
    refine ⟨by simpa using done, by simp, UserCall.inRequiredState_append life.inRequiredState rfl, ?_, ?_⟩
    · simp [List.countP_append, initialized, UserCall.initSucceeded]
    · simp [List.countP_append, finalized, UserCall.isFini]
  | false =>
    have done := toUser.push Moves.initFailed
    refine ⟨by simpa using done, by simp, UserCall.inRequiredState_append life.inRequiredState rfl, ?_, ?_⟩
    · simp [List.countP_append, initialized, UserCall.initSucceeded]
    · simp [List.countP_append, finalized, UserCall.isFini]

theorem Lifecycle.userRun (life : Lifecycle e) :
    Lifecycle { e with userCalls := e.userCalls ++ [.run .kRunning] } where
  traced := life.traced
  atRest := life.atRest
  inRequiredState := UserCall.inRequiredState_append life.inRequiredState rfl
  initialized := by simpa [List.countP_append, UserCall.initSucceeded] using life.initialized
  finalized := by simpa [List.countP_append, UserCall.isFini] using life.finalized

theorem Lifecycle.userFini (life : Lifecycle e) (running : e.state = .kRunning) :
    Lifecycle { e with state := .kFinalized, history := e.history ++ [.kFinalizing, .kFinalized],
                       userCalls := e.userCalls ++ [.fini .kFinalizing] } := by
  have initialized := life.initialized
  have finalized := life.finalized
  rw [if_neg (by rw [running]; decide)] at initialized finalized
  have done := (life.traced.push (running ▸ Moves.finalizing)).push Moves.finalized
  refine ⟨by simpa using done, by simp, UserCall.inRequiredState_append life.inRequiredState rfl, ?_, ?_⟩
  · simp [List.countP_append, initialized, UserCall.initSucceeded]
  · simp [List.countP_append, finalized, UserCall.isFini]

/-- Every entry keeps the lifecycle. -/
theorem lifecycle_step (life : Lifecycle e) (call : TrustedApplication.HostCall EnclaveInput EnclaveFinal) :
    Lifecycle (app.step e call).1 := by
  cases call with
  | userInit name config =>
    show Lifecycle (app.asyloUserInit name config e).2
    by_cases start : config.isSome ∧ e.state = .kUninitialized
    · obtain ⟨parsed, uninitialized⟩ := start
      obtain ⟨config, rfl⟩ := Option.isSome_iff_exists.mp parsed
      exact life.userInit app uninitialized name config
    · have refused : config = none ∨ e.state ≠ .kUninitialized := by
        cases config <;> simp_all
      rw [asyloUserInit_unchanged app e name config refused]
      exact life
  | userRun input =>
    show Lifecycle (app.asyloUserRun input e).2
    rcases asyloUserRun_cases app e input with unchanged | ⟨running, ran⟩
    · rw [unchanged]; exact life
    · rw [ran]; exact life.userRun
  | userFini input =>
    show Lifecycle (app.asyloUserFini input e).2
    rcases asyloUserFini_cases app e input with unchanged | ⟨running, finished⟩
    · rw [unchanged]; exact life
    · rw [finished]; exact life.userFini running

/-- For every sequence of entries with any inputs, the enclave's states form
a path of `Moves` from `kUninitialized`, `Initialize` and `Finalize` are
entered only in `kUserInitializing` and `kFinalizing` and `Run` only in
`kRunning`, `Initialize` succeeds at most once and `Finalize` runs at most
once. -/
theorem enclave_lifecycle (calls : List (TrustedApplication.HostCall EnclaveInput EnclaveFinal)) :
    (Machine.run app.step Enclave.init calls).1.history.IsChain Moves ∧
      (Machine.run app.step Enclave.init calls).1.history.head? = some .kUninitialized ∧
      (∀ s ok, UserCall.init s ok ∈ (Machine.run app.step Enclave.init calls).1.userCalls →
        s = .kUserInitializing) ∧
      (∀ s, UserCall.run s ∈ (Machine.run app.step Enclave.init calls).1.userCalls → s = .kRunning) ∧
      (∀ s, UserCall.fini s ∈ (Machine.run app.step Enclave.init calls).1.userCalls →
        s = .kFinalizing) ∧
      (Machine.run app.step Enclave.init calls).1.userCalls.countP UserCall.initSucceeded ≤ 1 ∧
      (Machine.run app.step Enclave.init calls).1.userCalls.countP UserCall.isFini ≤ 1 := by
  have preserved : ∀ e call, Lifecycle e → Lifecycle (app.step e call).1 :=
    fun _ call life => lifecycle_step app life call
  have life := Machine.run_invariant app.step preserved calls lifecycle_init
  refine ⟨life.traced.chain, life.traced.first, fun s ok called => life.inRequiredState _ called,
    fun s called => life.inRequiredState _ called, fun s called => life.inRequiredState _ called, ?_, ?_⟩
  · rw [life.initialized]; split <;> omega
  · rw [life.finalized]; split <;> omega

end Step

/-! ## What a failed init leaves behind -/

namespace FileDescriptorTable

/-- The table holds exactly the descriptors below `k`. -/
def HoldsBelow (t : FileDescriptorTable) (k : Nat) : Prop :=
  ∀ j, (t.fdTable.lookup j).isSome ↔ j < k

variable {t : FileDescriptorTable} {k : Nat}

/-- The search from `i ≤ k` stops at `k`, the first free descriptor, if it
gets there before the limit. -/
theorem getNextFreeFileDescriptorLoop_of_holdsBelow (holds : t.HoldsBelow k) :
    ∀ (remaining i : Nat), i ≤ k → k < i + remaining → t.getNextFreeFileDescriptorLoop i remaining = k := by
  intro remaining
  induction remaining with
  | zero => intro i below within; omega
  | succ remaining ih =>
    intro i below within
    by_cases free : i = k
    · subst free
      have missing : t.fdTable.lookup i = none :=
        Option.not_isSome_iff_eq_none.mp ((holds i).not.mpr (Nat.lt_irrefl i))
      simp [getNextFreeFileDescriptorLoop, missing]
    · have used : (t.fdTable.lookup i).isSome := (holds i).mpr (by omega)
      have notFree : (t.fdTable.lookup i).isNone = false := by simpa using used
      rw [getNextFreeFileDescriptorLoop, if_neg (by rw [notFree]; decide)]
      exact ih (i + 1) (by omega) (by omega)

theorem insert_of_holdsBelow (holds : t.HoldsBelow k) (room : k < t.maximumFdSoftLimit) (hostFd : Int) :
    t.insert hostFd = ({ t with fdTable := (k, hostFd) :: t.fdTable }, (k : Int)) := by
  have next : t.getNextFreeFileDescriptor 0 = k := by
    simp only [getNextFreeFileDescriptor, lt_self_iff_false, if_false, Int.toNat_zero]
    exact getNextFreeFileDescriptorLoop_of_holdsBelow holds _ 0 (Nat.zero_le k) (by omega)
  simp [insert, next]

theorem holdsBelow_cons (holds : t.HoldsBelow k) (hostFd : Int) :
    HoldsBelow { t with fdTable := (k, hostFd) :: t.fdTable } (k + 1) := by
  intro j
  by_cases same : j = k
  · subst same
    simp
  · have differs : (j == k) = false := beq_eq_false_iff_ne.mpr same
    simp only [List.lookup_cons, differs, holds j]
    omega

end FileDescriptorTable

namespace IOManager

variable {io : IOManager} {k : Nat}

theorem registerHostFileDescriptor_of_holdsBelow {fdTable : FileDescriptorTable}
    {prefixToHandler : List (String × VirtualPathHandler)} (holds : fdTable.HoldsBelow k)
    (room : k < fdTable.maximumFdSoftLimit) (hostFd : Int) :
    (IOManager.mk fdTable prefixToHandler).registerHostFileDescriptor hostFd =
      (⟨{ fdTable with fdTable := (k, hostFd) :: fdTable.fdTable }, prefixToHandler⟩, (k : Int)) := by
  simp [registerHostFileDescriptor, FileDescriptorTable.insert_of_holdsBelow holds room]

theorem registerHostFileDescriptor_prefixToHandler (hostFd : Int) :
    (io.registerHostFileDescriptor hostFd).1.prefixToHandler = io.prefixToHandler := by
  rcases inserted : io.fdTable.insert hostFd with ⟨fdTable, fd⟩
  simp only [registerHostFileDescriptor, inserted]
  split_ifs <;> rfl

theorem registerVirtualPathHandler_fdTable (pathPrefix : String) (handler : VirtualPathHandler) :
    (io.registerVirtualPathHandler pathPrefix handler).1.fdTable = io.fdTable := by
  unfold registerVirtualPathHandler
  split <;> rfl

end IOManager

section InitializeIO

variable {io : IOManager} {k : Nat} {config : EnclaveConfig}

/-- With all three standard descriptors configured, `InitializeIO` on a table
that holds the descriptors below `k` registers them as `k`, `k + 1` and
`k + 2`. -/
theorem initializeIo_fdTable (holds : io.fdTable.HoldsBelow k)
    (room : k + 3 ≤ io.fdTable.maximumFdSoftLimit)
    (stdio : 0 ≤ config.stdinFd ∧ 0 ≤ config.stdoutFd ∧ 0 ≤ config.stderrFd) :
    (initializeIo config io).fdTable =
      { io.fdTable with fdTable := (k + 2, config.stderrFd) :: (k + 1, config.stdoutFd) ::
          (k, config.stdinFd) :: io.fdTable.fdTable } := by
  obtain ⟨stdin, stdout, stderr⟩ := stdio
  obtain ⟨fdTable, prefixToHandler⟩ := io
  have holds₁ := FileDescriptorTable.holdsBelow_cons holds config.stdinFd
  have holds₂ := FileDescriptorTable.holdsBelow_cons holds₁ config.stdoutFd
  simp only [initializeIo, IOManager.registerVirtualPathHandler_fdTable, if_pos stdin, if_pos stdout,
    if_pos stderr]
  rw [IOManager.registerHostFileDescriptor_of_holdsBelow holds (by omega),
    IOManager.registerHostFileDescriptor_of_holdsBelow holds₁ (by simp only at room ⊢; omega),
    IOManager.registerHostFileDescriptor_of_holdsBelow holds₂ (by simp only at room ⊢; omega)]

theorem initializeIo_holdsBelow (holds : io.fdTable.HoldsBelow k)
    (room : k + 3 ≤ io.fdTable.maximumFdSoftLimit)
    (stdio : 0 ≤ config.stdinFd ∧ 0 ≤ config.stdoutFd ∧ 0 ≤ config.stderrFd) :
    (initializeIo config io).fdTable.HoldsBelow (k + 3) := by
  rw [initializeIo_fdTable holds room stdio]
  exact FileDescriptorTable.holdsBelow_cons (FileDescriptorTable.holdsBelow_cons
    (FileDescriptorTable.holdsBelow_cons holds _) _) _

/-- `InitializeIO` emplaces the three handlers into `prefix_to_handler_`. -/
theorem initializeIo_prefixToHandler :
    (initializeIo config io).prefixToHandler =
      emplace (emplace (emplace io.prefixToHandler "" .nativePathHandler) kRandomPath .randomPathHandler)
        kURandomPath .randomPathHandler := by
  -- the three prefixes are valid, and the standard descriptors touch no handler
  have random : (!kRandomPath.isEmpty && (kRandomPath.front != '/' || kRandomPath.back == '/')) = false := by
    decide +kernel
  have urandom :
      (!kURandomPath.isEmpty && (kURandomPath.front != '/' || kURandomPath.back == '/')) = false := by
    decide +kernel
  simp +decide only [initializeIo, IOManager.registerVirtualPathHandler, random, urandom, if_false,
    apply_ite IOManager.prefixToHandler, IOManager.registerHostFileDescriptor_prefixToHandler, ite_self]

/-- A second `InitializeIO` registers no path handler: each prefix is there
already, and `emplace` keeps it. -/
theorem initializeIo_prefixToHandler_idem (config' : EnclaveConfig) :
    (initializeIo config (initializeIo config' io)).prefixToHandler =
      (initializeIo config' io).prefixToHandler := by
  have registered : ∀ pathPrefix ∈ ["", kRandomPath, kURandomPath],
      (((initializeIo config' io).prefixToHandler).lookup pathPrefix).isSome := by
    intro pathPrefix member
    rw [initializeIo_prefixToHandler]
    simp only [List.mem_cons, List.not_mem_nil, or_false] at member
    rcases member with rfl | rfl | rfl
    · exact AeadHandler.isSome_lookup_emplace (.inr (AeadHandler.isSome_lookup_emplace
        (.inr (AeadHandler.isSome_lookup_emplace (.inl rfl) _)) _)) _
    · exact AeadHandler.isSome_lookup_emplace (.inr (AeadHandler.isSome_lookup_emplace (.inl rfl) _)) _
    · exact AeadHandler.isSome_lookup_emplace (.inl rfl) _
  rw [@initializeIo_prefixToHandler (initializeIo config' io) config]
  simp only [List.mem_cons, List.not_mem_nil, or_false, forall_eq_or_imp, forall_eq] at registered
  rw [AeadHandler.emplace_of_isSome registered.1, AeadHandler.emplace_of_isSome registered.2.1,
    AeadHandler.emplace_of_isSome registered.2.2]

end InitializeIO

section Retry

variable {EnclaveInput EnclaveFinal : Type} (app : TrustedApplication EnclaveInput EnclaveFinal)

theorem holdsBelow_init : Enclave.init.ioManager.fdTable.HoldsBelow 0 := by
  intro j
  simp [Enclave.init]

/-- A `__asylo_user_init` whose `Initialize` fails, then a second one: the
second registers its standard descriptors as 3, 4 and 5, after those the
first left behind, no path handler again, and the config stays the first
one's, whatever `Initialize` returns the second time. -/
theorem retried_init_after_failure (name name' : String) {config config' : EnclaveConfig}
    (stdio : 0 ≤ config.stdinFd ∧ 0 ≤ config.stdoutFd ∧ 0 ≤ config.stderrFd)
    (stdio' : 0 ≤ config'.stdinFd ∧ 0 ≤ config'.stdoutFd ∧ 0 ≤ config'.stderrFd)
    (fails : (app.init config).isOk = false) :
    (Machine.run app.step Enclave.init [.userInit name (some config), .userInit name' (some config')]).2 =
        [app.init config, app.init config'] ∧
      (Machine.run app.step Enclave.init
          [.userInit name (some config), .userInit name' (some config')]).1.ioManager.fdTable.fdTable =
        [(5, config'.stderrFd), (4, config'.stdoutFd), (3, config'.stdinFd),
          (2, config.stderrFd), (1, config.stdoutFd), (0, config.stdinFd)] ∧
      (Machine.run app.step Enclave.init
          [.userInit name (some config), .userInit name' (some config')]).1.ioManager.prefixToHandler =
        (initializeIo config Enclave.init.ioManager).prefixToHandler ∧
      (Machine.run app.step Enclave.init
          [.userInit name (some config), .userInit name' (some config')]).1.enclaveConfig = some config ∧
      (Machine.run app.step Enclave.init [.userInit name (some config), .userInit name' (some config')]).1.state =
        if (app.init config').isOk then .kRunning else .kUninitialized := by
  -- the first call fails in `Initialize` and leaves the enclave uninitialized
  obtain ⟨e, first, uninitialized, io, setConfig⟩ : ∃ e,
      app.asyloUserInit name (some config) Enclave.init = (app.init config, e) ∧
        e.state = .kUninitialized ∧ e.ioManager = initializeIo config Enclave.init.ioManager ∧
        e.enclaveConfig = some config :=
    ⟨_, asyloUserInit_of_uninitialized app Enclave.init name config rfl, by simp [fails], rfl, rfl⟩
  have second := asyloUserInit_of_uninitialized app e name' config' uninitialized
  have holds := initializeIo_holdsBelow holdsBelow_init (by decide) stdio
  have registered := initializeIo_fdTable holdsBelow_init (by decide) stdio
  have room : 3 + 3 ≤ (initializeIo config Enclave.init.ioManager).fdTable.maximumFdSoftLimit := by
    rw [registered]
    show 3 + 3 ≤ kMaxOpenFiles
    decide
  have retried := initializeIo_fdTable holds room stdio'
  have run : Machine.run app.step Enclave.init [.userInit name (some config), .userInit name' (some config')] =
      ((app.asyloUserInit name' (some config') e).2, [app.init config, app.init config']) := by
    simp only [Machine.run_cons, Machine.run_nil, TrustedApplication.step, first, second, Prod.swap]
  rw [run, second]
  refine ⟨rfl, ?_, ?_, ?_, rfl⟩
  · show (initializeIo config' e.ioManager).fdTable.fdTable = _
    rw [io, retried, registered]
    rfl
  · show (initializeIo config' e.ioManager).prefixToHandler = _
    rw [io, initializeIo_prefixToHandler_idem]
  · show (setEnclaveConfig e.enclaveConfig config').2 = _
    rw [setConfig]
    rfl

/-- An application whose `Initialize` fails on a config that sets no
environment variable. -/
def needsEnvironment : TrustedApplication Unit Unit where
  init config :=
    if config.environmentVariables.isEmpty then .error ⟨.failedPrecondition, "no environment variables"⟩
    else .ok ()
  run _ := .ok ()
  fini _ := .ok ()

/-- With the default standard descriptors, a failed `__asylo_user_init` and a
successful retry leave stdin, stdout and stderr on enclave descriptors 3, 4
and 5 as well as on 0, 1 and 2, and the config of the failed call set; a
successful first call registers them as 0, 1 and 2 only and sets its own
config. -/
theorem retried_init_registers_stdio_from_three :
    (∃ e, Machine.run needsEnvironment.step Enclave.init
        [.userInit "enclave" (some {}),
          .userInit "enclave" (some { environmentVariables := [⟨some "HOME", some "/"⟩] })] =
        (e, [.error ⟨.failedPrecondition, "no environment variables"⟩, .ok ()]) ∧
      e.state = .kRunning ∧
      e.ioManager.fdTable.fdTable = [(5, 2), (4, 1), (3, 0), (2, 2), (1, 1), (0, 0)] ∧
      e.enclaveConfig = some {}) ∧
    (∃ e, Machine.run needsEnvironment.step Enclave.init
        [.userInit "enclave" (some { environmentVariables := [⟨some "HOME", some "/"⟩] })] =
        (e, [.ok ()]) ∧
      e.ioManager.fdTable.fdTable = [(2, 2), (1, 1), (0, 0)] ∧
      e.enclaveConfig = some { environmentVariables := [⟨some "HOME", some "/"⟩] }) := by
  obtain ⟨statuses, registered, -, setConfig, state⟩ := @retried_init_after_failure Unit Unit
    needsEnvironment "enclave" "enclave" {} { environmentVariables := [⟨some "HOME", some "/"⟩] }
    (by decide) (by decide) (by decide)
  refine ⟨⟨_, Prod.ext rfl (statuses.trans rfl), state.trans rfl, registered, setConfig⟩, ?_⟩
  -- the same config on a fresh enclave: `Initialize` succeeds at the first call
  have single := asyloUserInit_of_uninitialized needsEnvironment Enclave.init "enclave"
    { environmentVariables := [⟨some "HOME", some "/"⟩] } rfl
  have fresh := @initializeIo_fdTable Enclave.init.ioManager 0
    { environmentVariables := [⟨some "HOME", some "/"⟩] } holdsBelow_init (by decide) (by decide)
  have run : Machine.run needsEnvironment.step Enclave.init
      [.userInit "enclave" (some { environmentVariables := [⟨some "HOME", some "/"⟩] })] =
      ((needsEnvironment.asyloUserInit "enclave"
          (some { environmentVariables := [⟨some "HOME", some "/"⟩] }) Enclave.init).2,
        [needsEnvironment.init { environmentVariables := [⟨some "HOME", some "/"⟩] }]) := rfl
  rw [run, single]
  refine ⟨_, rfl, ?_, rfl⟩
  show (initializeIo _ Enclave.init.ioManager).fdTable.fdTable = _
  rw [fresh]
  rfl

end Retry

end Asylo
