import Asylo.Util
import Asylo.SecureStorage
import Asylo.Machine

/-! `RecordStore<T>` (`platform/storage/utils/record_store.h`): fixed-size
records of a storage resource, read and written through an LRU cache of at
most `capacity_` entries.

The storage is a `RandomAccessStorage` seen one record at a time: it holds a
record at every offset, which presupposes that the records at distinct
offsets do not overlap, as the class requires of its callers. Any of its calls
may fail: the outcomes of the calls to come are part of the storage, and a
failed `Write` may have left any value in its record.

`cache_` is the list of its entries in LRU order, most recent first. A node of
the list has an identity, `node`, which `index_` refers to in place of an
iterator; `nextNode` is the next identity the allocator hands out. -/
namespace Asylo
open AeadHandler (eraseKey assign)

/-- What one call of the storage does: succeed, or fail with `status`; a
failed write may have left `written` in its record. -/
inductive IoOutcome (T : Type)
  | ok
  | fail (status : Status) (written : Option T)

/-- A `RandomAccessStorage`: its record at each offset, and the outcomes of
the calls to come (every call succeeds once they run out). -/
structure RandomAccessStorage (T : Type) where
  records : Int → T
  outcomes : List (IoOutcome T)

namespace RandomAccessStorage

variable {T : Type} (io : RandomAccessStorage T)

/-- `Read(&value, offset, sizeof(T))`. -/
def read (offset : Int) : StatusOr T × RandomAccessStorage T :=
  match io.outcomes with
  | .fail status _ :: outcomes => (.error status, { io with outcomes })
  | .ok :: outcomes => (.ok (io.records offset), { io with outcomes })
  | [] => (.ok (io.records offset), io)

/-- `Write(&value, offset, sizeof(T))`. -/
def write (offset : Int) (value : T) : StatusOr Unit × RandomAccessStorage T :=
  match io.outcomes with
  | .fail status written :: outcomes =>
    (.error status, ⟨(written.map (Function.update io.records offset)).getD io.records, outcomes⟩)
  | .ok :: outcomes => (.ok (), ⟨Function.update io.records offset value, outcomes⟩)
  | [] => (.ok (), { io with records := Function.update io.records offset value })

/-- `Sync()`. -/
def sync : StatusOr Unit × RandomAccessStorage T :=
  match io.outcomes with
  | .fail status _ :: outcomes => (.error status, { io with outcomes })
  | .ok :: outcomes => (.ok (), { io with outcomes })
  | [] => (.ok (), io)

end RandomAccessStorage

/-- `RecordStore::CacheEntry`, in the list node `node`. -/
structure CacheEntry (T : Type) where
  node : Nat
  offset : Int
  value : T
  dirty : Bool

/-- A `RecordStore<T>` with the storage `io_` points to. -/
structure RecordStore (T : Type) where
  capacity : Nat
  count : Nat
  io : RandomAccessStorage T
  cache : List (CacheEntry T)
  index : List (Int × Nat)
  nextNode : Nat

namespace RecordStore

variable {T : Type}

/-- `RecordStore(capacity, io)`. -/
def create (capacity : Nat) (io : RandomAccessStorage T) : RecordStore T :=
  ⟨max capacity 1, 0, io, [], [], 0⟩

section Cache

variable (s : RecordStore T)

/-- `Commit(entry)`. -/
def commit (entry : CacheEntry T) : StatusOr Unit × RecordStore T :=
  match s.io.write entry.offset entry.value with
  | (.error status, io) => (.error status, { s with io })
  | (.ok (), io) =>
    (.ok (), { s with io, cache := s.cache.map fun e => if e.node = entry.node then { e with dirty := false } else e })

/-- `MoveToFront(node)`: the node is spliced onto the front of the list. -/
def moveToFront (node : Nat) : RecordStore T :=
  match s.cache.find? (·.node == node) with
  | some entry => { s with cache := entry :: s.cache.filter (·.node != node) }
  | none => s

/-- `Evict()`: the last entry is committed, leaves the index, and its node
moves to the front to be reused. `std::prev(cache_.end())` of an empty cache
is undefined; a full cache is never empty, and the model changes nothing. -/
def evict : StatusOr Unit × RecordStore T :=
  match s.cache.getLast? with
  | none => (.ok (), s)
  | some last =>
    match s.commit last with
    | (.error status, s) => (.error status, s)
    | (.ok (), s) => (.ok (), { s with index := eraseKey s.index last.offset }.moveToFront last.node)

end Cache

section Calls

variable [Inhabited T] (s : RecordStore T)

/-- The node a miss puts at the front: a new one from `cache_.emplace_front()`
while the cache has room, or else the one `Evict()` frees. -/
def makeRoom : StatusOr Unit × RecordStore T :=
  if s.count < s.capacity then
    (.ok (), { s with cache := ⟨s.nextNode, 0, default, false⟩ :: s.cache, count := s.count + 1,
                      nextNode := s.nextNode + 1 })
  else s.evict

/-- `Read(offset, &item)`. A failed read of the storage discards the front
node. -/
def read (offset : Int) : StatusOr T × RecordStore T :=
  match s.index.lookup offset with
  | some node =>
    let s := s.moveToFront node
    match s.cache with
    | first :: _ => (.ok first.value, s)
    | [] => (.ok default, s)
  | none =>
    match s.makeRoom with
    | (.error status, s) => (.error status, s)
    | (.ok (), s) =>
      match s.io.read offset, s.cache with
      | (.error status, io), _ => (.error status, { s with io, cache := s.cache.tail, count := s.count - 1 })
      | (.ok value, io), first :: rest =>
        (.ok value, { s with io, cache := { first with offset, value, dirty := false } :: rest,
                             index := assign s.index offset first.node })
      | (.ok value, io), [] => (.ok value, { s with io })

/-- `Write(offset, item)`. -/
def write (offset : Int) (item : T) : StatusOr Unit × RecordStore T :=
  let placed : StatusOr Unit × RecordStore T :=
    match s.index.lookup offset with
    | some node => (.ok (), s.moveToFront node)
    | none =>
      match s.makeRoom with
      | (.error status, s) => (.error status, s)
      | (.ok (), s) =>
        match s.cache with
        | first :: rest =>
          (.ok (), { s with cache := { first with offset } :: rest, index := assign s.index offset first.node })
        | [] => (.ok (), s)
  match placed with
  | (.error status, s) => (.error status, s)
  | (.ok (), s) =>
    match s.cache with
    | first :: rest => (.ok (), { s with cache := { first with value := item, dirty := true } :: rest })
    | [] => (.ok (), s)

/-- The loop of `Flush()` over the entries, front to back, up to the first
commit that fails. -/
def flushLoop : List (CacheEntry T) → RecordStore T → StatusOr Unit × RecordStore T
  | [], s => (.ok (), s)
  | entry :: entries, s =>
    match s.commit entry with
    | (.error status, s) => (.error status, s)
    | (.ok (), s) => flushLoop entries s

/-- `Flush()`. -/
def flush : StatusOr Unit × RecordStore T :=
  match flushLoop s.cache s with
  | (.error status, s) => (.error status, s)
  | (.ok (), s) =>
    let (status, io) := s.io.sync
    (status, { s with io })

/-- A call of the store. -/
inductive Operation (T : Type)
  | read (offset : Int)
  | write (offset : Int) (item : T)
  | flush

/-- One call: the store after it, and what it returned (the record, for a
`Read`). -/
def step : Operation T → RecordStore T × StatusOr (Option T)
  | .read offset => ((s.read offset).2, (s.read offset).1.map some)
  | .write offset item => ((s.write offset item).2, (s.write offset item).1.map fun _ => none)
  | .flush => (s.flush.2, s.flush.1.map fun _ => none)

end Calls

end RecordStore

end Asylo
