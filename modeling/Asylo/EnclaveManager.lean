import Asylo.AssocMap
import Asylo.Util

/-! The client tables of `EnclaveManager` (`platform/core/enclave_manager.cc`)
under any interleaving of its calls.

A client is the address of its `EnclaveClient` object, 0 standing for
`nullptr`. `client_by_name_` owns the clients it maps to through their
`std::unique_ptr`s, so erasing an entry deletes its client; `alive` lists the
client objects that exist. A call runs on a thread as a sequence of steps:
each block under `client_table_lock_` is one step, and so is each call out of
the manager (the loader, `EnterAndInitialize`, `EnterAndFinalize`), whose
result the environment chooses. A trace interleaves the steps of any number of
threads; an event that is not the next step of its thread changes nothing.

`LoadEnclave(load_config)` and `LoadFakeEnclave` share their steps: the check
of the name under the reader lock, the load with no lock held, the
registration under the writer lock, `EnterAndInitialize` with no lock held,
and on its failure the unregistration under the writer lock. Only
`LoadEnclave` first removes the reference a forked child inherited and
records the load config of a forkable enclave. A registration whose `emplace`
finds the name taken leaves the client with the call's `result`, which deletes
it when the call returns. -/
namespace Asylo.EnclaveManager

/-- The fields of an `EnclaveLoadConfig` that `LoadEnclave(load_config)`
reads: the name, whether the enclave's config enables fork, and the base
address of its fork config, 0 when it has none. -/
structure EnclaveLoadConfig where
  name : String
  enableFork : Bool
  baseAddress : Nat
  deriving DecidableEq, Repr

/-- A default-constructed `EnclaveLoadConfig`: no name, no config and no SGX
load config. -/
def EnclaveLoadConfig.empty : EnclaveLoadConfig := ⟨"", false, 0⟩

/-- The tables of the manager, with the client objects that exist. -/
structure Manager where
  clientByName : AssocMap String Nat
  nameByClient : AssocMap Nat String
  loadConfigByClient : AssocMap Nat EnclaveLoadConfig
  alive : List Nat

namespace Manager

/-- Deleting the client object at `client`. -/
def delete (manager : Manager) (client : Nat) : Manager :=
  { manager with alive := manager.alive.filter fun other => other ≠ client }

/-- `client_by_name_.erase(name)`: the entry goes, and with its
`std::unique_ptr` the client it owned. -/
def eraseName (manager : Manager) (name : String) : Manager :=
  let erased := { manager with clientByName := manager.clientByName.erase name }
  match manager.clientByName.find name with
  | some client => erased.delete client
  | none => erased

end Manager

/-- Which of the two load functions a call runs. -/
inductive LoadFunction
  /-- `LoadEnclave(load_config)`. -/
  | loadEnclave (loadConfig : EnclaveLoadConfig)
  /-- `LoadFakeEnclave(name, loader, config, base_address, enclave_size)`. -/
  | loadFakeEnclave
  deriving DecidableEq, Repr

/-- Where a thread is in a load call. -/
inductive LoadStage
  /-- Before `RemoveEnclaveReference(name)`. -/
  | removingReference
  /-- Before the check of the name. -/
  | checking
  /-- In the loader. -/
  | loading
  /-- The loader returned `client`; before the registration. -/
  | registering (client : Nat)
  /-- In `EnterAndInitialize`; `owned` when the registration found the name
  taken, so that `result` still owns the client. -/
  | initializing (client : Nat) (owned : Bool)
  /-- `EnterAndInitialize` failed with `status`; before the unregistration. -/
  | unregistering (client : Nat) (owned : Bool) (status : StatusOr Unit)
  deriving DecidableEq, Repr

/-- The first stage of a load call: `LoadEnclave` of a forkable enclave at a
base address is the load in a forked child. -/
def LoadFunction.firstStage : LoadFunction → LoadStage
  | .loadEnclave loadConfig =>
    if loadConfig.enableFork && loadConfig.baseAddress ≠ 0 then .removingReference else .checking
  | .loadFakeEnclave => .checking

/-- A load call in progress. -/
structure LoadCall where
  function : LoadFunction
  name : String
  stage : LoadStage
  deriving DecidableEq, Repr

/-- Where a thread is in `DestroyEnclave(client, final_input, skip_finalize)`. -/
inductive DestroyStage
  /-- In `EnterAndFinalize`, `DestroyEnclave` and `ReleaseMemory` of the client. -/
  | finalizing
  /-- Before erasing the client's entries, to return `status`. -/
  | erasing (status : StatusOr Unit)
  deriving DecidableEq, Repr

/-- A call in progress on a thread. -/
inductive Call
  | load (call : LoadCall)
  | destroy (client : Nat) (stage : DestroyStage)
  deriving DecidableEq, Repr

/-- What a call returns. -/
inductive Result
  /-- The `Status` of `LoadEnclave`, `LoadFakeEnclave` or `DestroyEnclave`. -/
  | status (status : StatusOr Unit)
  /-- The client `GetClient` returns. -/
  | client (client : Nat)
  /-- The name `GetName` returns. -/
  | name (name : String)
  /-- The load config `GetLoadConfigFromClient` returns. -/
  | loadConfig (loadConfig : EnclaveLoadConfig)
  deriving DecidableEq, Repr

/-- The manager, the calls in progress by thread, and what the calls that
returned returned, in order. -/
structure System where
  manager : Manager
  calls : AssocMap Nat Call
  returned : List (Nat × Result)

/-- One step of one thread, or a thread's call of the manager. -/
inductive Event
  /-- The thread calls `LoadEnclave(load_config)`. -/
  | loadEnclave (thread : Nat) (loadConfig : EnclaveLoadConfig)
  /-- The thread calls `LoadFakeEnclave` with `name`. -/
  | loadFakeEnclave (thread : Nat) (name : String)
  /-- The thread calls `DestroyEnclave(client, ...)`. -/
  | destroyEnclave (thread : Nat) (client : Nat)
  /-- The thread calls `GetClient(name)`. -/
  | getClient (thread : Nat) (name : String)
  /-- The thread calls `GetName(client)`. -/
  | getName (thread : Nat) (client : Nat)
  /-- The thread calls `GetLoadConfigFromClient(client)`. -/
  | getLoadConfigFromClient (thread : Nat) (client : Nat)
  /-- The thread runs its next block under `client_table_lock_`. -/
  | locked (thread : Nat)
  /-- The loader of the thread's call returns a new client, or fails. -/
  | loaded (thread : Nat) (result : StatusOr Nat)
  /-- `EnterAndInitialize` of the thread's client returns. -/
  | initialized (thread : Nat) (status : StatusOr Unit)
  /-- `EnterAndFinalize` of the thread's client returns; `skip_finalize` is
  an OK status here. -/
  | finalized (thread : Nat) (status : StatusOr Unit)
  deriving DecidableEq, Repr

namespace System

def initial : System := ⟨⟨.empty, .empty, .empty, []⟩, .empty, []⟩

/-- The thread's call moves on to `call`. -/
def continueWith (system : System) (thread : Nat) (call : Call) : System :=
  { system with calls := (system.calls.erase thread).emplace thread call }

/-- The thread returns `result` from its call. -/
def finish (system : System) (thread : Nat) (result : Result) : System :=
  { system with calls := system.calls.erase thread, returned := system.returned ++ [(thread, result)] }

/-- The thread starts `call`, unless it is in a call already. -/
def start (system : System) (thread : Nat) (call : Call) : System :=
  if (system.calls.find thread).isSome then system else system.continueWith thread call

/-- The block of a load call under `client_table_lock_` at its stage. -/
def lockedLoadStep (system : System) (thread : Nat) (call : LoadCall) : System :=
  let manager := system.manager
  match call.stage with
  | .removingReference =>
    -- `client_by_name_[name]` is a null pointer when the name has no entry
    let client := (manager.clientByName.find call.name).getD 0
    let manager := manager.eraseName call.name
    { system with manager := { manager with nameByClient := manager.nameByClient.erase client } }.continueWith
      thread (.load { call with stage := .checking })
  | .checking =>
    if (manager.clientByName.find call.name).isSome then
      system.finish thread (.status (.error ⟨.alreadyExists, "Name already exists: " ++ call.name⟩))
    else system.continueWith thread (.load { call with stage := .loading })
  | .registering client =>
    let owned := (manager.clientByName.find call.name).isSome
    let loadConfigByClient :=
      match call.function with
      | .loadEnclave loadConfig =>
        if loadConfig.enableFork then manager.loadConfigByClient.emplace client loadConfig
        else manager.loadConfigByClient
      | .loadFakeEnclave => manager.loadConfigByClient
    { system with
        manager := { manager with
          clientByName := manager.clientByName.emplace call.name client
          nameByClient := manager.nameByClient.emplace client call.name
          loadConfigByClient } }.continueWith thread (.load { call with stage := .initializing client owned })
  | .unregistering client owned status =>
    let manager := manager.eraseName call.name
    let manager := { manager with nameByClient := manager.nameByClient.erase client }
    let manager :=
      match call.function with
      | .loadEnclave _ => { manager with loadConfigByClient := manager.loadConfigByClient.erase client }
      | .loadFakeEnclave => manager
    -- returning destroys `result`, and with it a client `emplace` left there
    let manager := if owned then manager.delete client else manager
    { system with manager }.finish thread (.status status)
  | _ => system

/-- The loader of a load call returns: a new client object, at an address
where none is, or a failure the call returns. -/
def loadedStep (system : System) (thread : Nat) (call : LoadCall) (result : StatusOr Nat) : System :=
  match call.stage, result with
  | .loading, .error status => system.finish thread (.status (.error status))
  | .loading, .ok client =>
    if client ≠ 0 ∧ client ∉ system.manager.alive then
      { system with manager := { system.manager with alive := client :: system.manager.alive } }.continueWith
        thread (.load { call with stage := .registering client })
    else system
  | _, _ => system

/-- `EnterAndInitialize` of a load call's client returns. -/
def initializedStep (system : System) (thread : Nat) (call : LoadCall) (status : StatusOr Unit) : System :=
  match call.stage, status with
  | .initializing client owned, .ok () =>
    let manager := if owned then system.manager.delete client else system.manager
    { system with manager }.finish thread (.status (.ok ()))
  | .initializing client owned, .error error =>
    -- the client's own `DestroyEnclave` changes no table
    system.continueWith thread (.load { call with stage := .unregistering client owned (.error error) })
  | _, _ => system

/-- The block of `DestroyEnclave` under `client_table_lock_`.
`name_by_client_[client]` is the empty name when the client has no entry, and
the entry it adds is erased at once. -/
def lockedDestroyStep (system : System) (thread client : Nat) (status : StatusOr Unit) : System :=
  let name := (system.manager.nameByClient.find client).getD ""
  let manager := system.manager.eraseName name
  let manager := { manager with
    nameByClient := manager.nameByClient.erase client
    loadConfigByClient := manager.loadConfigByClient.erase client }
  { system with manager }.finish thread (.status status)

def step (system : System) : Event → System
  | .loadEnclave thread loadConfig =>
    system.start thread (.load ⟨.loadEnclave loadConfig, loadConfig.name, (LoadFunction.loadEnclave loadConfig).firstStage⟩)
  | .loadFakeEnclave thread name => system.start thread (.load ⟨.loadFakeEnclave, name, .checking⟩)
  | .destroyEnclave thread client =>
    if (system.calls.find thread).isSome then system
    else if client = 0 then system.finish thread (.status (.ok ()))
    else system.continueWith thread (.destroy client .finalizing)
  | .getClient thread name =>
    if (system.calls.find thread).isSome then system
    else system.finish thread (.client ((system.manager.clientByName.find name).getD 0))
  | .getName thread client =>
    if (system.calls.find thread).isSome then system
    else system.finish thread (.name ((system.manager.nameByClient.find client).getD ""))
  | .getLoadConfigFromClient thread client =>
    if (system.calls.find thread).isSome then system
    else if client = 0 then system.finish thread (.loadConfig .empty)
    else system.finish thread (.loadConfig ((system.manager.loadConfigByClient.find client).getD .empty))
  | .locked thread =>
    match system.calls.find thread with
    | some (.load call) => system.lockedLoadStep thread call
    | some (.destroy client (.erasing status)) => system.lockedDestroyStep thread client status
    | _ => system
  | .loaded thread result =>
    match system.calls.find thread with
    | some (.load call) => system.loadedStep thread call result
    | _ => system
  | .initialized thread status =>
    match system.calls.find thread with
    | some (.load call) => system.initializedStep thread call status
    | _ => system
  | .finalized thread status =>
    match system.calls.find thread with
    | some (.destroy client .finalizing) => system.continueWith thread (.destroy client (.erasing status))
    | _ => system

/-- The system after the events of a trace, one after another. -/
def run (system : System) (trace : List Event) : System := trace.foldl step system

end System

end Asylo.EnclaveManager
