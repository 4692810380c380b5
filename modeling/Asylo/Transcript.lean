import Mathlib

/-! The running hash of an EKEP transcript (`grpc/auth/core/transcript.cc`).

Until `SetHasher` installs a hash object, `Transcript::Add` keeps the bytes in
`bytes_to_hash_`; `SetHasher` then feeds them to the object and clears the
buffer, and later bytes go to the object directly. For an incremental hash,
where two `Update`s do what one `Update` of both does, `Hash` gives the hash
of everything added, in order, wherever the one `SetHasher` came and however
the bytes were chunked (`transcript_hash_of_one_setHasher`); a second `SetHasher`
changes nothing. -/
namespace Asylo.Ekep

/-- A `HashInterface` on hash objects of state `State`: `Init`, `Update`, and
`CumulativeHash`, which gives the digest or fails. -/
structure HashInterface (State : Type) where
  init : State → State
  update : State → List UInt8 → State
  cumulativeHash : State → Option (List UInt8)

/-- Updating with two byte strings in turn is updating with both at once. -/
def HashInterface.Incremental {State : Type} (hasher : HashInterface State) : Prop :=
  ∀ object first second, hasher.update (hasher.update object first) second = hasher.update object (first ++ second)

/-- What `Transcript::Add` is given: bytes, or a `ZeroCopyInputStream` as the
blocks its `Next` hands out. -/
inductive Input where
  | bytes (data : List UInt8)
  | stream (blocks : List (List UInt8))
  deriving DecidableEq, Repr

def Input.contents : Input → List UInt8
  | .bytes data => data
  | .stream blocks => blocks.flatten

structure Transcript (State : Type) where
  bytesToHash : List UInt8
  hasher : Option State
  deriving DecidableEq, Repr

namespace Transcript

variable {State : Type} (hasher : HashInterface State)

def empty : Transcript State := ⟨[], none⟩

/-- The private `Transcript::Add(data, len)`. -/
def addData (t : Transcript State) (data : List UInt8) : Transcript State :=
  match t.hasher with
  | some object => { t with hasher := some (hasher.update object data) }
  | none => { t with bytesToHash := t.bytesToHash ++ data }

/-- `Transcript::Add`: the loop over `Next` of a stream adds each block. -/
def add (t : Transcript State) : Input → Transcript State
  | .bytes data => t.addData hasher data
  | .stream blocks => blocks.foldl (addData hasher) t

def addAll (t : Transcript State) (inputs : List Input) : Transcript State :=
  inputs.foldl (add hasher) t

/-- `Transcript::SetHasher(object)`. -/
def setHasher (t : Transcript State) (object : State) : Bool × Transcript State :=
  match t.hasher with
  | some _ => (false, t)
  | none => (true, ⟨[], some (hasher.update (hasher.init object) t.bytesToHash)⟩)

/-- `Transcript::Hash`: `none` where it returns false, for want of a hash
object or because `CumulativeHash` failed. -/
def hash (t : Transcript State) : Option (List UInt8) :=
  t.hasher.bind hasher.cumulativeHash

/-! ## What a transcript holds -/

/-- The transcript holds `bytes`: buffered while no hash object is set, and
fed to the object `object` after its `Init` once one is. -/
def Holds (t : Transcript State) (object : Option State) (bytes : List UInt8) : Prop :=
  match object with
  | none => t.hasher = none ∧ t.bytesToHash = bytes
  | some object => t.hasher = some (hasher.update (hasher.init object) bytes)

variable {hasher} {t : Transcript State} {object : Option State} {bytes : List UInt8}

theorem holds_empty : empty.Holds hasher none [] := ⟨rfl, rfl⟩

theorem Holds.addData (incremental : hasher.Incremental) (holds : t.Holds hasher object bytes)
    (data : List UInt8) : (t.addData hasher data).Holds hasher object (bytes ++ data) := by
  cases object with
  | none =>
    obtain ⟨unset, buffered⟩ := holds
    simp [Transcript.addData, Holds, unset, buffered]
  | some object =>
    simp only [Holds] at holds ⊢
    simp [Transcript.addData, holds, incremental (hasher.init object) bytes data]

theorem Holds.add (incremental : hasher.Incremental) (holds : t.Holds hasher object bytes) (input : Input) :
    (t.add hasher input).Holds hasher object (bytes ++ input.contents) := by
  cases input with
  | bytes data => exact holds.addData incremental data
  | stream blocks =>
    -- one block at a time, the bytes growing by each block
    induction blocks generalizing t bytes with
    | nil => simpa [Transcript.add, Input.contents] using holds
    | cons block rest ih =>
      have next := ih (holds.addData incremental block)
      simpa [Transcript.add, Input.contents] using next

theorem Holds.addAll (incremental : hasher.Incremental) (holds : t.Holds hasher object bytes) (inputs : List Input) :
    (t.addAll hasher inputs).Holds hasher object (bytes ++ inputs.flatMap Input.contents) := by
  induction inputs generalizing t bytes with
  | nil => simpa [Transcript.addAll] using holds
  | cons input rest ih =>
    have next := ih (holds.add incremental input)
    simpa [Transcript.addAll] using next

theorem Holds.setHasher (holds : t.Holds hasher none bytes) (object : State) :
    (t.setHasher hasher object).1 = true ∧ (t.setHasher hasher object).2.Holds hasher (some object) bytes := by
  obtain ⟨unset, buffered⟩ := holds
  simp [Transcript.setHasher, Holds, unset, buffered]

theorem Holds.hash {installed : State} (holds : t.Holds hasher (some installed) bytes) :
    t.hash hasher = hasher.cumulativeHash (hasher.update (hasher.init installed) bytes) := by
  simp only [Holds] at holds
  simp [Transcript.hash, holds]

end Transcript

open Transcript

variable {State : Type}

/-- `Hash` gives the hash of every byte added, in order, however the bytes
were chunked and wherever the one `SetHasher` came among the `Add`s. -/
theorem hash_of_setHasher_anywhere (hasher : HashInterface State) (incremental : hasher.Incremental) (object : State)
    (before after : List Input) :
    ((((Transcript.empty.addAll hasher before).setHasher hasher object).2.addAll hasher after).hash hasher) =
      hasher.cumulativeHash (hasher.update (hasher.init object) ((before ++ after).flatMap Input.contents)) := by
  have buffered := holds_empty.addAll incremental before
  have set := (buffered.setHasher object).2
  have fed := set.addAll incremental after
  rw [fed.hash]
  simp

/-- A second `SetHasher` returns false and leaves the transcript as it was. -/
theorem setHasher_of_set (hasher : HashInterface State) {t : Transcript State} {installed : State}
    (set : t.hasher = some installed) (object : State) : t.setHasher hasher object = (false, t) := by
  simp [Transcript.setHasher, set]

/-- The transcript after `Add`s, one `SetHasher` and more `Add`s hashes to the
hash of all the bytes added, and refuses a second `SetHasher`. -/
theorem transcript_hash_of_one_setHasher (hasher : HashInterface State) (incremental : hasher.Incremental)
    (object : State) (before after : List Input) :
    let t := ((Transcript.empty.addAll hasher before).setHasher hasher object).2.addAll hasher after
    t.hash hasher = hasher.cumulativeHash (hasher.update (hasher.init object) ((before ++ after).flatMap Input.contents)) ∧
      ∀ other, t.setHasher hasher other = (false, t) := by
  intro t
  have fed := ((holds_empty.addAll incremental before).setHasher object).2.addAll incremental after
  exact ⟨hash_of_setHasher_anywhere hasher incremental object before after, setHasher_of_set hasher fed⟩

/-- An identity hash that is its own digest, set between two additions, one
of them a stream of three blocks. -/
theorem transcript_hash_of_setHasher_between_additions :
    let hasher : HashInterface (List UInt8) := ⟨fun _ => [], (· ++ ·), some⟩
    let t := ((Transcript.empty.addAll hasher [Input.bytes [1, 2], Input.stream [[3], [], [4, 5]]]).setHasher hasher
      [9]).2.addAll hasher [Input.bytes [6]]
    hasher.Incremental ∧
      (t.hash hasher = hasher.cumulativeHash (hasher.update (hasher.init [9])
          (([Input.bytes [1, 2], Input.stream [[3], [], [4, 5]]] ++ [Input.bytes [6]]).flatMap Input.contents)) ∧
        ∀ other, t.setHasher hasher other = (false, t)) :=
  ⟨fun _ _ _ => List.append_assoc _ _ _,
    transcript_hash_of_one_setHasher _ (fun _ _ _ => List.append_assoc _ _ _) [9]
      [Input.bytes [1, 2], Input.stream [[3], [], [4, 5]]] [Input.bytes [6]]⟩

example : (((Transcript.empty.addAll ⟨fun _ => [], (· ++ ·), some⟩
    [Input.bytes [1, 2], Input.stream [[3], [], [4, 5]]]).setHasher ⟨fun _ => [], (· ++ ·), some⟩ [9]).2.addAll
      ⟨fun _ => [], (· ++ ·), some⟩ [Input.bytes [6]]).hash (⟨fun _ => [], (· ++ ·), some⟩ : HashInterface (List UInt8)) =
    some [1, 2, 3, 4, 5, 6] := by
  decide

end Asylo.Ekep
