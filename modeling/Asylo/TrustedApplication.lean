import Asylo.Util
import Asylo.SecureStorage
import Asylo.Machine

/-! The entry points by which the host drives the user's application
(`platform/core/trusted_application.cc`): `__asylo_user_init`,
`__asylo_user_run` and `__asylo_user_fini`, over the global enclave state
(`platform/common/enclave_state.cc`), the enclave name and config
(`platform/core/trusted_global_state.cc`), and what `InitializeInternal` writes
into the `IOManager` (`platform/posix/io/io_manager.cc`) and the environment.

The user's `TrustedApplication` is a parameter: its `Initialize`, `Run` and
`Finalize` are arbitrary functions of their inputs. A serialized input that
`ParseFromArray` rejects is `none`, and the status an entry point serializes
into its output is its result. Besides the program's state, an `Enclave`
records every state it was set to and every call into user code, with the state
it was made in: they are what the lifecycle is stated over. -/
namespace Asylo
open AeadHandler (emplace)

/-- `EnclaveState` (`platform/common/enclave_state.h`). -/
inductive EnclaveState
  | kUninitialized
  | kInternalInitializing
  | kUserInitializing
  | kRunning
  | kFinalizing
  | kFinalized
  deriving DecidableEq, Repr

/-- The enumerator's value, which `absl::StrCat` prints. -/
def EnclaveState.toNat : EnclaveState → Nat
  | .kUninitialized => 0
  | .kInternalInitializing => 1
  | .kUserInitializing => 2
  | .kRunning => 3
  | .kFinalizing => 4
  | .kFinalized => 5

/-! ## The file descriptor table and the path handlers -/

/-- `IOManager::kMaxOpenFiles`. -/
def kMaxOpenFiles : Nat := 1024

/-- `FileDescriptorTable`: `fdTable` lists the descriptors in use, each with
the host descriptor its `IOContextNative` forwards to. -/
structure FileDescriptorTable where
  fdTable : List (Nat × Int)
  maximumFdSoftLimit : Nat
  deriving DecidableEq, Repr

namespace FileDescriptorTable

variable (t : FileDescriptorTable)

/-- The loop of `GetNextFreeFileDescriptor` from descriptor `i` on, with
`remaining` rounds left before `maximum_fd_soft_limit`. -/
def getNextFreeFileDescriptorLoop (i : Nat) : Nat → Int
  | 0 => -1
  | remaining + 1 =>
    if (t.fdTable.lookup i).isNone then i else getNextFreeFileDescriptorLoop (i + 1) remaining

/-- `GetNextFreeFileDescriptor(startfd)`. -/
def getNextFreeFileDescriptor (startfd : Int) : Int :=
  if startfd < 0 then -1
  else t.getNextFreeFileDescriptorLoop startfd.toNat (t.maximumFdSoftLimit - startfd.toNat)

/-- `Insert(context)` for a context of host descriptor `hostFd`: the lowest
free descriptor, which is not in the table yet. -/
def insert (hostFd : Int) : FileDescriptorTable × Int :=
  let fd := t.getNextFreeFileDescriptor 0
  if fd < 0 then (t, -1)
  else ({ t with fdTable := (fd.toNat, hostFd) :: t.fdTable }, fd)

end FileDescriptorTable

/-- The `VirtualPathHandler`s that initialization registers. -/
inductive VirtualPathHandler
  | nativePathHandler
  | randomPathHandler
  deriving DecidableEq, Repr

/-- `RandomPathHandler::kRandomPath`. -/
def kRandomPath : String := "/dev/random"

/-- `RandomPathHandler::kURandomPath`. -/
def kURandomPath : String := "/dev/urandom"

/-- The `IOManager`: its descriptor table and `prefix_to_handler_`. -/
structure IOManager where
  fdTable : FileDescriptorTable
  prefixToHandler : List (String × VirtualPathHandler)
  deriving DecidableEq, Repr

namespace IOManager

variable (io : IOManager)

/-- `RegisterHostFileDescriptor(host_fd)`: the enclave descriptor, or `-1`. -/
def registerHostFileDescriptor (hostFd : Int) : IOManager × Int :=
  let (fdTable, fd) := io.fdTable.insert hostFd
  if fd ≥ 0 then ({ io with fdTable }, fd) else (io, -1)

/-- `RegisterVirtualPathHandler(path_prefix, handler)`: the prefix is empty,
or starts and does not end with `/`; a prefix already registered keeps its
handler, as `std::map::emplace` does. -/
def registerVirtualPathHandler (pathPrefix : String) (handler : VirtualPathHandler) :
    IOManager × Bool :=
  if !pathPrefix.isEmpty && (pathPrefix.front != '/' || pathPrefix.back == '/') then (io, false)
  else ({ io with prefixToHandler := emplace io.prefixToHandler pathPrefix handler }, true)

end IOManager

/-! ## The enclave config and the environment -/

/-- `EnvironmentVariable`, whose fields are optional. -/
structure EnvironmentVariable where
  name : Option String
  value : Option String
  deriving DecidableEq, Repr

/-- The fields of `EnclaveConfig` that initialization reads, with their
defaults. -/
structure EnclaveConfig where
  stdinFd : Int := 0
  stdoutFd : Int := 1
  stderrFd : Int := 2
  environmentVariables : List EnvironmentVariable := []
  deriving DecidableEq, Repr

/-- The C library's `setenv(name, value, overwrite)` with `overwrite = 0`: a
name that is empty or holds `=` is refused, and a variable already set keeps
its value. -/
def setenv (environ : List (String × String)) (name value : String) : List (String × String) :=
  if name.isEmpty || name.contains '=' then environ else emplace environ name value

/-- `InitializeEnvironmentVariables(variables)`: the variables are set in
order, up to the first one that lacks a name or a value. -/
def initializeEnvironmentVariables (environ : List (String × String)) :
    List EnvironmentVariable → StatusOr Unit × List (String × String)
  | [] => (.ok (), environ)
  | ⟨some name, some value⟩ :: rest =>
    initializeEnvironmentVariables (setenv environ name value) rest
  | _ :: _ =>
    (.error ⟨.invalidArgument, "Environment variables should set both name and value fields"⟩,
      environ)

/-- `SetEnclaveConfig(config)`: the config is set at most once. -/
def setEnclaveConfig (enclaveConfig : Option EnclaveConfig) (config : EnclaveConfig) :
    StatusOr Unit × Option EnclaveConfig :=
  match enclaveConfig with
  | some _ => (.error ⟨.failedPrecondition, "EnclaveConfig is already set"⟩, enclaveConfig)
  | none => (.ok (), some config)

/-! ## The enclave -/

/-- The user's application: `Initialize` (`init`), `Run` and `Finalize`
(`fini`) of the `TrustedApplication` that `BuildTrustedApplication` returns. -/
structure TrustedApplication (EnclaveInput EnclaveFinal : Type) where
  init : EnclaveConfig → StatusOr Unit
  run : EnclaveInput → StatusOr Unit
  fini : EnclaveFinal → StatusOr Unit

/-- A call into the user's application, with the enclave state it was made in
(and, for `Initialize`, whether it succeeded). -/
inductive UserCall
  | init (state : EnclaveState) (succeeded : Bool)
  | run (state : EnclaveState)
  | fini (state : EnclaveState)
  deriving DecidableEq, Repr

/-- The enclave's global state, with the record of its states (`history`) and
of the calls into user code (`userCalls`). -/
structure Enclave where
  state : EnclaveState
  enclaveName : String
  enclaveConfig : Option EnclaveConfig
  ioManager : IOManager
  environ : List (String × String)
  history : List EnclaveState
  userCalls : List UserCall
  deriving DecidableEq, Repr

namespace Enclave

/-- The enclave as loaded: uninitialized, with nothing registered. -/
def init : Enclave :=
  ⟨.kUninitialized, "", none, ⟨⟨[], kMaxOpenFiles⟩, []⟩, [], [.kUninitialized], []⟩

variable (e : Enclave)

/-- `SetState(state)`. -/
def setState (state : EnclaveState) : Enclave :=
  { e with state, history := e.history ++ [state] }

/-- `VerifyAndSetState(expected_state, new_state)`. -/
def verifyAndSetState (expectedState newState : EnclaveState) : StatusOr Unit × Enclave :=
  if e.state ≠ expectedState then
    (.error ⟨.failedPrecondition, "Enclave is in state: " ++ toString e.state.toNat ++
      " expected state: " ++ toString expectedState.toNat⟩, e)
  else (.ok (), e.setState newState)

end Enclave

/-- `InitializeIO(config)`: the configured standard descriptors are
registered in order, then the handlers for `/`, `/dev/random` and
`/dev/urandom`. -/
def initializeIo (config : EnclaveConfig) (io : IOManager) : IOManager :=
  let io := if config.stdinFd ≥ 0 then (io.registerHostFileDescriptor config.stdinFd).1 else io
  let io := if config.stdoutFd ≥ 0 then (io.registerHostFileDescriptor config.stdoutFd).1 else io
  let io := if config.stderrFd ≥ 0 then (io.registerHostFileDescriptor config.stderrFd).1 else io
  let io := (io.registerVirtualPathHandler "" .nativePathHandler).1
  let io := (io.registerVirtualPathHandler kRandomPath .randomPathHandler).1
  (io.registerVirtualPathHandler kURandomPath .randomPathHandler).1

namespace TrustedApplication

variable {EnclaveInput EnclaveFinal : Type} (app : TrustedApplication EnclaveInput EnclaveFinal)

/-- `TrustedApplication::InitializeInternal(config)`. The failures of the
environment and of `SetEnclaveConfig` are only logged. -/
def initializeInternal (config : EnclaveConfig) (e : Enclave) : StatusOr Unit × Enclave :=
  let e := { e with ioManager := initializeIo config e.ioManager }
  let e := { e with environ := (initializeEnvironmentVariables e.environ config.environmentVariables).2 }
  let e := { e with enclaveConfig := (setEnclaveConfig e.enclaveConfig config).2 }
  match e.verifyAndSetState .kInternalInitializing .kUserInitializing with
  | (.error status, e) => (.error status, e)
  | (.ok (), e) =>
    let status := app.init config
    (status, { e with userCalls := e.userCalls ++ [.init e.state status.isOk] })

/-- `__asylo_user_init(name, config, ...)`. -/
def asyloUserInit (name : String) (config : Option EnclaveConfig) (e : Enclave) :
    StatusOr Unit × Enclave :=
  match config with
  | none => (.error ⟨.invalidArgument, "Failed to parse EnclaveConfig"⟩, e)
  | some config =>
    match e.verifyAndSetState .kUninitialized .kInternalInitializing with
    | (.error status, e) => (.error status, e)
    | (.ok (), e) =>
      match initializeInternal app config { e with enclaveName := name } with
      | (.error status, e) => (.error status, e.setState .kUninitialized)
      | (.ok (), e) => (.ok (), e.setState .kRunning)

/-- `__asylo_user_run(input, ...)`. -/
def asyloUserRun (input : Option EnclaveInput) (e : Enclave) : StatusOr Unit × Enclave :=
  match input with
  | none => (.error ⟨.invalidArgument, "Failed to parse EnclaveInput"⟩, e)
  | some input =>
    if e.state ≠ .kRunning then (.error ⟨.failedPrecondition, "Enclave not in state RUNNING"⟩, e)
    else (app.run input, { e with userCalls := e.userCalls ++ [.run e.state] })

/-- `__asylo_user_fini(input, ...)`. -/
def asyloUserFini (input : Option EnclaveFinal) (e : Enclave) : StatusOr Unit × Enclave :=
  match input with
  | none => (.error ⟨.invalidArgument, "Failed to parse EnclaveFinal"⟩, e)
  | some final =>
    match e.verifyAndSetState .kRunning .kFinalizing with
    | (.error status, e) => (.error status, e)
    | (.ok (), e) =>
      let status := app.fini final
      let e : Enclave := { e with userCalls := e.userCalls ++ [.fini e.state] }
      (status, e.setState .kFinalized)

/-- A call the host makes into the enclave, with its serialized input. -/
inductive HostCall (EnclaveInput EnclaveFinal : Type)
  | userInit (name : String) (config : Option EnclaveConfig)
  | userRun (input : Option EnclaveInput)
  | userFini (input : Option EnclaveFinal)

/-- One entry into the enclave: the enclave after it, and the status it
returned. -/
def step (e : Enclave) : HostCall EnclaveInput EnclaveFinal → Enclave × StatusOr Unit
  | .userInit name config => (app.asyloUserInit name config e).swap
  | .userRun input => (app.asyloUserRun input e).swap
  | .userFini input => (app.asyloUserFini input e).swap

end TrustedApplication

end Asylo
