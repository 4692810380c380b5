import Asylo.EnclaveManager

/-! What the client tables of `EnclaveManager` keep under every interleaving
of its calls, and what they do not.

`client_by_name_` stays sound: each client it owns exists, and no client is
owned under two names. The invariant has to speak of the threads too, since a
load call holds its new client outside the table between the loader and the
registration, and keeps it when `emplace` finds the name taken: each held
client exists, is not in the table, and no other thread holds it
(`RegistryInvariant`). Each operation on the tables keeps it
(`RegistryInvariant.eraseName`, `.delete`, `.register`, `.load`), so every
step does, and so every run from the empty manager does.

`name_by_client_` does not stay its inverse, and failed calls change the
registry. The check of the name and the registration are two blocks under the
lock, so two loads of one name can both pass the check; the second `emplace`
into `client_by_name_` is refused while the one into `name_by_client_` is not,
the second load returns OK, and its client is deleted with its entry left in
`name_by_client_`. The unregistration of a failed load erases whatever is
registered under its name, and `DestroyEnclave` of a client with no name
erases whatever is registered under the empty name. -/
namespace Asylo.EnclaveManager

/-- The client a call holds outside `client_by_name_`: the one its loader
returned, until the registration, and the one a refused `emplace` left with
`result`, until the call returns. -/
def Call.heldClient : Call → Option Nat
  | .load ⟨_, _, .registering client⟩ => some client
  | .load ⟨_, _, .initializing client owned⟩ => if owned then some client else none
  | .load ⟨_, _, .unregistering client owned _⟩ => if owned then some client else none
  | _ => none

/-- The invariant of `client_by_name_` and the client objects that exist,
with `held` giving the client each thread holds. -/
structure RegistryInvariant (clientByName : AssocMap String Nat) (alive : List Nat)
    (held : Nat → Option Nat) : Prop where
  registered_alive : ∀ {name client}, clientByName.find name = some client → client ∈ alive
  registered_injective : ∀ {name name' client}, clientByName.find name = some client →
    clientByName.find name' = some client → name = name'
  held_alive : ∀ {thread client}, held thread = some client → client ∈ alive
  held_unregistered : ∀ {thread client} (name : String), held thread = some client →
    clientByName.find name ≠ some client
  held_distinct : ∀ {thread thread' client}, held thread = some client → held thread' = some client →
    thread = thread'

namespace Manager

variable {manager : Manager}

@[simp] theorem mem_delete {client other : Nat} :
    other ∈ (manager.delete client).alive ↔ other ∈ manager.alive ∧ other ≠ client := by
  simp [delete]

@[simp] theorem delete_clientByName (client : Nat) :
    (manager.delete client).clientByName = manager.clientByName := rfl

@[simp] theorem eraseName_clientByName (name : String) :
    (manager.eraseName name).clientByName = manager.clientByName.erase name := by
  unfold eraseName
  split <;> rfl

/-- `eraseName` deletes the client of the entry it erases, and no other. -/
theorem mem_eraseName_alive {name : String} {client : Nat} :
    client ∈ (manager.eraseName name).alive ↔
      client ∈ manager.alive ∧ manager.clientByName.find name ≠ some client := by
  unfold eraseName
  split
  next erased found => simp [found, ne_comm]
  next found => simp [found]

theorem eraseName_find_self (name : String) : (manager.eraseName name).clientByName.find name = none := by
  simp

theorem not_mem_eraseName_alive {name : String} {client : Nat}
    (found : manager.clientByName.find name = some client) : client ∉ (manager.eraseName name).alive := by
  rw [mem_eraseName_alive]
  exact fun ⟨_, notFound⟩ => notFound found

end Manager

namespace RegistryInvariant

variable {clientByName : AssocMap String Nat} {alive : List Nat} {held held' : Nat → Option Nat}

/-- Holding fewer clients keeps the invariant. -/
theorem mono (invariant : RegistryInvariant clientByName alive held)
    (fewer : ∀ {thread client}, held' thread = some client → held thread = some client) :
    RegistryInvariant clientByName alive held' where
  registered_alive := invariant.registered_alive
  registered_injective := invariant.registered_injective
  held_alive holding := invariant.held_alive (fewer holding)
  held_unregistered name holding := invariant.held_unregistered name (fewer holding)
  held_distinct holding holding' := invariant.held_distinct (fewer holding) (fewer holding')

/-- Two held clients of different threads differ. -/
theorem held_ne (invariant : RegistryInvariant clientByName alive held) {thread other : Nat} {client client' : Nat}
    (holding : held thread = some client) (holding' : held other = some client') (different : other ≠ thread) :
    client' ≠ client := by
  rintro rfl
  exact different (invariant.held_distinct holding' holding)

/-- `client_by_name_.erase(name)`, with the client it deletes: that client is
owned under no other name and held by no thread. -/
theorem eraseName {manager : Manager} (invariant : RegistryInvariant manager.clientByName manager.alive held)
    (name : String) :
    RegistryInvariant (manager.eraseName name).clientByName (manager.eraseName name).alive held where
  registered_alive {other client} found := by
    rw [Manager.eraseName_clientByName, AssocMap.find_erase_eq_some] at found
    obtain ⟨different, found⟩ := found
    exact Manager.mem_eraseName_alive.mpr
      ⟨invariant.registered_alive found, fun erased => different (invariant.registered_injective found erased)⟩
  registered_injective found found' := by
    rw [Manager.eraseName_clientByName, AssocMap.find_erase_eq_some] at found found'
    exact invariant.registered_injective found.2 found'.2
  held_alive holding :=
    Manager.mem_eraseName_alive.mpr ⟨invariant.held_alive holding, invariant.held_unregistered name holding⟩
  held_unregistered other holding := by
    rw [Manager.eraseName_clientByName]
    intro found
    exact invariant.held_unregistered other holding (AssocMap.find_erase_eq_some.mp found).2
  held_distinct := invariant.held_distinct

/-- The return of a call deletes the client it held. -/
theorem delete (invariant : RegistryInvariant clientByName alive held) {thread client : Nat}
    (holding : held thread = some client)
    (released : ∀ {other client'}, held' other = some client' → other ≠ thread ∧ held other = some client') :
    RegistryInvariant clientByName (alive.filter fun other => other ≠ client) held' where
  registered_alive {name registered} found := by
    have different : registered ≠ client := by
      rintro rfl
      exact invariant.held_unregistered name holding found
    simpa using ⟨invariant.registered_alive found, different⟩
  registered_injective := invariant.registered_injective
  held_alive {other client'} holding' := by
    obtain ⟨different, holding'⟩ := released holding'
    simpa using ⟨invariant.held_alive holding', invariant.held_ne holding holding' different⟩
  held_unregistered name holding' := invariant.held_unregistered name (released holding').2
  held_distinct holding' holding'' := invariant.held_distinct (released holding').2 (released holding'').2

/-- The registration of a held client under a name that has no entry. -/
theorem register (invariant : RegistryInvariant clientByName alive held) {thread client : Nat} {name : String}
    (holding : held thread = some client) (absent : clientByName.find name = none)
    (released : ∀ {other client'}, held' other = some client' → other ≠ thread ∧ held other = some client') :
    RegistryInvariant (clientByName.emplace name client) alive held' where
  registered_alive {other registered} found := by
    rw [AssocMap.find_emplace_of_find_eq_none absent] at found
    split at found
    · cases found
      exact invariant.held_alive holding
    · exact invariant.registered_alive found
  registered_injective {first second registered} found found' := by
    rw [AssocMap.find_emplace_of_find_eq_none absent] at found found'
    -- the new entry's client is owned under no other name
    by_cases atFirst : first = name <;> by_cases atSecond : second = name
    · rw [atFirst, atSecond]
    · rw [if_pos atFirst] at found
      rw [if_neg atSecond] at found'
      cases found
      exact absurd found' (invariant.held_unregistered second holding)
    · rw [if_neg atFirst] at found
      rw [if_pos atSecond] at found'
      cases found'
      exact absurd found (invariant.held_unregistered first holding)
    · rw [if_neg atFirst] at found
      rw [if_neg atSecond] at found'
      exact invariant.registered_injective found found'
  held_alive holding' := invariant.held_alive (released holding').2
  held_unregistered {other client'} name' holding' := by
    obtain ⟨different, holding'⟩ := released holding'
    rw [AssocMap.find_emplace_of_find_eq_none absent]
    split
    · simpa using (invariant.held_ne holding holding' different).symm
    · exact invariant.held_unregistered name' holding'
  held_distinct holding' holding'' := invariant.held_distinct (released holding').2 (released holding'').2

/-- The loader's new client, at an address where no client is, held by the
loading thread. -/
theorem load (invariant : RegistryInvariant clientByName alive held) (thread : Nat) {client : Nat}
    (fresh : client ∉ alive)
    (added : ∀ {other client'}, held' other = some client' →
      (other = thread ∧ client' = client) ∨ held other = some client') :
    RegistryInvariant clientByName (client :: alive) held' where
  registered_alive found := List.mem_cons_of_mem _ (invariant.registered_alive found)
  registered_injective := invariant.registered_injective
  held_alive holding := by
    rcases added holding with ⟨-, rfl⟩ | holding
    · exact List.mem_cons_self
    · exact List.mem_cons_of_mem _ (invariant.held_alive holding)
  held_unregistered name holding := by
    rcases added holding with ⟨-, rfl⟩ | holding
    · exact fun found => fresh (invariant.registered_alive found)
    · exact invariant.held_unregistered name holding
  held_distinct holding holding' := by
    rcases added holding with ⟨atThread, rfl⟩ | holding <;>
      rcases added holding' with ⟨atThread', same⟩ | holding'
    · rw [atThread, atThread']
    · exact absurd (invariant.held_alive holding') fresh
    · exact absurd (same ▸ invariant.held_alive holding) fresh
    · exact invariant.held_distinct holding holding'

end RegistryInvariant

namespace System

variable {system : System} {thread : Nat}

/-- The client the thread's call holds outside `client_by_name_`. -/
def held (system : System) (thread : Nat) : Option Nat := (system.calls.find thread).bind Call.heldClient

/-- The invariant of a system. -/
def Invariant (system : System) : Prop :=
  RegistryInvariant system.manager.clientByName system.manager.alive system.held

@[simp] theorem continueWith_manager (call : Call) : (system.continueWith thread call).manager = system.manager :=
  rfl

@[simp] theorem finish_manager (result : Result) : (system.finish thread result).manager = system.manager := rfl

theorem held_continueWith (call : Call) (other : Nat) :
    (system.continueWith thread call).held other = if other = thread then call.heldClient else system.held other := by
  by_cases same : other = thread
  · simp [held, continueWith, AssocMap.find_emplace, same]
  · simp [held, continueWith, AssocMap.find_emplace, same]

theorem held_finish (result : Result) (other : Nat) :
    (system.finish thread result).held other = if other = thread then none else system.held other := by
  by_cases same : other = thread <;> simp [held, finish, same]

theorem held_of_find {call : Call} (found : system.calls.find thread = some call) :
    system.held thread = call.heldClient := by
  simp [held, found]

/-- A call that moves on holding what it held before, or nothing. -/
theorem held_continueWith_of_kept {call : Call}
    (kept : ∀ {client}, call.heldClient = some client → system.held thread = some client)
    {other client : Nat} (holding : (system.continueWith thread call).held other = some client) :
    system.held other = some client := by
  rw [held_continueWith] at holding
  split at holding
  · subst other
    exact kept holding
  · exact holding

/-- A call that moves on holding nothing. -/
theorem held_continueWith_released {call : Call} (nothing : call.heldClient = none)
    {other client : Nat} (holding : (system.continueWith thread call).held other = some client) :
    other ≠ thread ∧ system.held other = some client := by
  rw [held_continueWith] at holding
  split at holding
  · rw [nothing] at holding
    cases holding
  · exact ⟨‹_›, holding⟩

theorem held_finish_released {result : Result} {other client : Nat}
    (holding : (system.finish thread result).held other = some client) :
    other ≠ thread ∧ system.held other = some client := by
  rw [held_finish] at holding
  split at holding
  · cases holding
  · exact ⟨‹_›, holding⟩

/-- A call that moves on holding what it held before, or nothing, under a
manager that keeps the invariant with what the threads held. -/
theorem Invariant.continueWith {manager : Manager} {call : Call}
    (invariant : RegistryInvariant manager.clientByName manager.alive system.held)
    (kept : ∀ {client}, call.heldClient = some client → system.held thread = some client) :
    ({ system with manager }.continueWith thread call).Invariant :=
  invariant.mono (held_continueWith_of_kept kept)

theorem Invariant.continueWith_released {manager : Manager} {call : Call}
    (invariant : RegistryInvariant manager.clientByName manager.alive system.held)
    (nothing : call.heldClient = none) :
    ({ system with manager }.continueWith thread call).Invariant :=
  invariant.mono fun holding => (held_continueWith_released nothing holding).2

theorem Invariant.finish {manager : Manager}
    (invariant : RegistryInvariant manager.clientByName manager.alive system.held) (result : Result) :
    ({ system with manager }.finish thread result).Invariant :=
  invariant.mono fun holding => (held_finish_released holding).2

theorem Invariant.start (invariant : system.Invariant) {call : Call} (nothing : call.heldClient = none) :
    (system.start thread call).Invariant := by
  unfold System.start
  split
  · exact invariant
  · exact Invariant.continueWith_released invariant nothing

/-- Each block of a load call under the lock keeps the invariant. -/
theorem Invariant.lockedLoadStep (invariant : system.Invariant) {call : LoadCall}
    (found : system.calls.find thread = some (.load call)) :
    (system.lockedLoadStep thread call).Invariant := by
  have holding := held_of_find found
  obtain ⟨function, name, stage⟩ := call
  cases stage
  case removingReference => exact Invariant.continueWith_released (invariant.eraseName name) (by rfl)
  case checking =>
    simp only [System.lockedLoadStep]
    split
    · exact Invariant.finish invariant _
    · exact Invariant.continueWith_released invariant (by rfl)
  case registering client =>
    cases registered : system.manager.clientByName.find name with
    | some registeredClient =>
      -- `emplace` is refused: the table is unchanged and `result` keeps the client
      simp only [System.lockedLoadStep, registered, Option.isSome_some,
        AssocMap.find_emplace_of_find registered]
      exact Invariant.continueWith invariant fun kept => holding.trans kept
    | none =>
      simp only [System.lockedLoadStep, registered, Option.isSome_none]
      exact invariant.register holding registered (held_continueWith_released (by rfl))
  case unregistering client owned status =>
    -- only `LoadEnclave` erases a load config, which the invariant does not read
    have erased := invariant.eraseName name
    cases owned
    · cases function <;> exact Invariant.finish erased (.status status)
    · cases function <;> exact erased.delete holding held_finish_released
  all_goals exact invariant

theorem Invariant.loadedStep (invariant : system.Invariant) {call : LoadCall} (result : StatusOr Nat) :
    (system.loadedStep thread call result).Invariant := by
  obtain ⟨function, name, stage⟩ := call
  cases stage
  case loading =>
    cases result with
    | error status => exact Invariant.finish invariant _
    | ok client =>
      simp only [System.loadedStep]
      split
      next fresh =>
        refine invariant.load thread fresh.2 fun holding => ?_
        rw [held_continueWith] at holding
        split at holding
        · exact .inl ⟨‹_›, (Option.some.inj holding).symm⟩
        · exact .inr holding
      next => exact invariant
  all_goals exact invariant

theorem Invariant.initializedStep (invariant : system.Invariant) {call : LoadCall}
    (found : system.calls.find thread = some (.load call)) (status : StatusOr Unit) :
    (system.initializedStep thread call status).Invariant := by
  have holding := held_of_find found
  obtain ⟨function, name, stage⟩ := call
  cases stage
  case initializing client owned =>
    cases status with
    | ok value =>
      cases owned
      · exact Invariant.finish invariant _
      · exact invariant.delete holding held_finish_released
    | error error =>
      -- the call holds into the unregistration what it held
      refine Invariant.continueWith invariant fun kept => ?_
      rw [holding]
      exact kept
  all_goals exact invariant

theorem Invariant.lockedDestroyStep (invariant : system.Invariant) (client : Nat) (status : StatusOr Unit) :
    (system.lockedDestroyStep thread client status).Invariant :=
  Invariant.finish (invariant.eraseName _) (.status status)

theorem heldClient_firstStage (function : LoadFunction) (name : String) :
    (Call.load ⟨function, name, function.firstStage⟩).heldClient = none := by
  cases function with
  | loadEnclave loadConfig =>
    by_cases forked : (loadConfig.enableFork && loadConfig.baseAddress ≠ 0) = true
    · rw [LoadFunction.firstStage, if_pos forked]
      rfl
    · rw [LoadFunction.firstStage, if_neg forked]
      rfl
  | loadFakeEnclave => rfl

/-- Every event keeps the invariant. -/
theorem Invariant.step (invariant : system.Invariant) (event : Event) : (system.step event).Invariant := by
  cases event with
  | loadEnclave thread loadConfig => exact invariant.start (heldClient_firstStage _ _)
  | loadFakeEnclave thread name => exact invariant.start rfl
  | destroyEnclave thread client =>
    simp only [System.step]
    split
    · exact invariant
    · split
      · exact Invariant.finish invariant _
      · exact Invariant.continueWith_released invariant rfl
  | getClient thread name =>
    simp only [System.step]
    split
    · exact invariant
    · exact Invariant.finish invariant _
  | getName thread client =>
    simp only [System.step]
    split
    · exact invariant
    · exact Invariant.finish invariant _
  | getLoadConfigFromClient thread client =>
    simp only [System.step]
    split
    · exact invariant
    · split <;> exact Invariant.finish invariant _
  -- the other events act through the thread's call in progress
  | locked thread =>
    cases found : system.calls.find thread with
    | none => simpa [System.step, found] using invariant
    | some call =>
      cases call with
      | load call => simpa [System.step, found] using invariant.lockedLoadStep found
      | destroy client stage =>
        cases stage with
        | finalizing => simpa [System.step, found] using invariant
        | erasing status => simpa [System.step, found] using invariant.lockedDestroyStep client status
  | loaded thread result =>
    cases found : system.calls.find thread with
    | none => simpa [System.step, found] using invariant
    | some call =>
      cases call with
      | load call => simpa [System.step, found] using invariant.loadedStep result
      | destroy client stage => simpa [System.step, found] using invariant
  | initialized thread status =>
    cases found : system.calls.find thread with
    | none => simpa [System.step, found] using invariant
    | some call =>
      cases call with
      | load call => simpa [System.step, found] using invariant.initializedStep found status
      | destroy client stage => simpa [System.step, found] using invariant
  | finalized thread status =>
    cases found : system.calls.find thread with
    | none => simpa [System.step, found] using invariant
    | some call =>
      cases call with
      | load call => simpa [System.step, found] using invariant
      | destroy client stage =>
        cases stage with
        | finalizing =>
          simpa [System.step, found] using Invariant.continueWith_released invariant (by rfl)
        | erasing status => simpa [System.step, found] using invariant

/-- Every run keeps the invariant. -/
theorem Invariant.run (invariant : system.Invariant) (trace : List Event) : (system.run trace).Invariant := by
  induction trace generalizing system with
  | nil => exact invariant
  | cons event rest ih => exact ih (invariant.step event)

theorem initial_invariant : initial.Invariant where
  registered_alive found := nomatch found
  registered_injective found := nomatch found
  held_alive holding := nomatch holding
  held_unregistered _ holding := nomatch holding
  held_distinct holding := nomatch holding
end System

/-- Under every interleaving of the calls, each client `client_by_name_` owns
exists and is owned under one name, so that `GetClient` never returns a
deleted client. -/
theorem run_clientByName_sound (trace : List Event) :
    (∀ name client, (System.initial.run trace).manager.clientByName.find name = some client →
      client ∈ (System.initial.run trace).manager.alive) ∧
    (∀ name name' client, (System.initial.run trace).manager.clientByName.find name = some client →
      (System.initial.run trace).manager.clientByName.find name' = some client → name = name') :=
  have invariant := System.initial_invariant.run trace
  ⟨fun _ _ found => invariant.registered_alive found, fun _ _ _ found found' => invariant.registered_injective found found'⟩

/-- The unregistration of a failed load erases the entry of its name, whichever
call registered it, and deletes that entry's client. -/
theorem lockedLoadStep_unregistering_erases (system : System) (thread : Nat) (function : LoadFunction)
    (name : String) (client : Nat) (owned : Bool) (status : StatusOr Unit) (registered : Nat)
    (found : system.manager.clientByName.find name = some registered) :
    (system.lockedLoadStep thread ⟨function, name, .unregistering client owned status⟩).manager.clientByName.find
        name = none ∧
      registered ∉ (system.lockedLoadStep thread ⟨function, name, .unregistering client owned status⟩).manager.alive := by
  have gone := Manager.not_mem_eraseName_alive found
  cases function <;> cases owned <;> simp_all [System.lockedLoadStep]

/-- `DestroyEnclave` of a client that has no name erases the entry of the
empty name, whichever call registered it, and deletes that entry's client. -/
theorem lockedDestroyStep_of_unnamed (system : System) (thread client : Nat) (status : StatusOr Unit)
    (unnamed : system.manager.nameByClient.find client = none) (registered : Nat)
    (found : system.manager.clientByName.find "" = some registered) :
    (system.lockedDestroyStep thread client status).manager.clientByName.find "" = none ∧
      registered ∉ (system.lockedDestroyStep thread client status).manager.alive := by
  simp only [System.lockedDestroyStep, unnamed, Option.getD_none]
  exact ⟨Manager.eraseName_find_self "", Manager.not_mem_eraseName_alive found⟩

/-- `LoadEnclave` of "a" in two threads at once, a config without fork. -/
def loadRaceConfig : EnclaveLoadConfig := ⟨"a", false, 0⟩

/-- Both threads check the name, both loaders return, thread 1 registers its
client 1 and thread 2 its client 2, and both enclaves initialize. -/
def loadRace : List Event :=
  [.loadEnclave 1 loadRaceConfig, .loadEnclave 2 loadRaceConfig, .locked 1, .locked 2,
    .loaded 1 (.ok 1), .loaded 2 (.ok 2), .locked 1, .locked 2,
    .initialized 1 (.ok ()), .initialized 2 (.ok ())]

/-- The same race, where the enclave of thread 2 fails to initialize. -/
def loadRaceInitFailure : List Event :=
  (loadRace.take 9) ++ [.initialized 2 (.error ⟨.internal, "EnterAndInitialize failed"⟩), .locked 2]

/-- One call loads an enclave under the empty name; then another destroys a
client, 5, that the manager never loaded. -/
def destroyUnnamed : List Event :=
  [.loadEnclave 1 ⟨"", false, 0⟩, .locked 1, .loaded 1 (.ok 1), .locked 1, .initialized 1 (.ok ()),
    .destroyEnclave 2 5, .finalized 2 (.ok ()), .locked 2]

theorem enclave_registry_not_kept :
    -- thread 2 registers while "a" is registered to client 1, and still returns OK
    (System.initial.run (loadRace.take 7)).manager.clientByName.find "a" = some 1 ∧
    (System.initial.run loadRace).returned = [(1, .status (.ok ())), (2, .status (.ok ()))] ∧
    -- the two tables are no longer inverse, and `name_by_client_` names a deleted client
    (System.initial.run loadRace).manager.clientByName.find "a" = some 1 ∧
    (System.initial.run loadRace).manager.nameByClient.find 2 = some "a" ∧
    2 ∉ (System.initial.run loadRace).manager.alive ∧
    -- the failed load of thread 2 erases the enclave of thread 1
    (System.initial.run loadRaceInitFailure).returned =
      [(1, .status (.ok ())), (2, .status (.error ⟨.internal, "EnterAndInitialize failed"⟩))] ∧
    (System.initial.run loadRaceInitFailure).manager.clientByName.find "a" = none ∧
    1 ∉ (System.initial.run loadRaceInitFailure).manager.alive ∧
    -- destroying an unregistered client erases the enclave registered under ""
    (System.initial.run (destroyUnnamed.take 5)).manager.clientByName.find "" = some 1 ∧
    (System.initial.run destroyUnnamed).manager.clientByName.find "" = none ∧
    (System.initial.run destroyUnnamed).manager.nameByClient.find 1 = some "" ∧
    1 ∉ (System.initial.run destroyUnnamed).manager.alive := by
  decide

end Asylo.EnclaveManager
