import Asylo.RecordStore

/-! `RecordStore` refines direct access to its storage. Between two calls the
store is `WellFormed`: `index_` maps exactly the offsets of the entries of
`cache_`, each to its node, those offsets and nodes are distinct, and
`count_ = |cache_| ≤ capacity_`. It `Represents` the records `d` when every
cached entry holds the record at its offset and the storage holds it at every
offset that is not cached. Each call keeps both, for the records of
`directAccess`, whatever the storage's calls return (`step_refines`); a
`Flush` that succeeds leaves `d` in the storage (`flush_records`). -/
namespace Asylo
open AeadHandler (eraseKey assign)

namespace RandomAccessStorage

variable {T : Type} (io : RandomAccessStorage T)

theorem write_records_of_ne {offset other : Int} (value : T) (distinct : other ≠ offset) :
    (io.write offset value).2.records other = io.records other := by
  unfold write
  rcases io.outcomes with _ | ⟨_ | ⟨status, _ | written⟩, outcomes⟩ <;>
    simp [Function.update_of_ne distinct]

theorem write_records_of_ok {offset : Int} {value : T} (ok : (io.write offset value).1 = .ok ()) :
    (io.write offset value).2.records offset = value := by
  unfold write at ok ⊢
  cases outcomes : io.outcomes with
  | nil => simp
  | cons outcome rest => cases outcome <;> simp_all

@[simp] theorem read_records (offset : Int) : (io.read offset).2.records = io.records := by
  unfold read
  rcases io.outcomes with _ | ⟨_ | ⟨status, written⟩, outcomes⟩ <;> rfl

theorem read_value {offset : Int} {value : T} (ok : (io.read offset).1 = .ok value) :
    value = io.records offset := by
  unfold read at ok
  cases outcomes : io.outcomes with
  | nil => simp_all
  | cons outcome rest => cases outcome <;> simp_all

@[simp] theorem sync_records : io.sync.2.records = io.records := by
  unfold sync
  rcases io.outcomes with _ | ⟨_ | ⟨status, written⟩, outcomes⟩ <;> rfl

end RandomAccessStorage

namespace RecordStore

variable {T : Type}

/-- The node and offset of each entry, in LRU order: what the index is
about. -/
def keys (s : RecordStore T) : List (Nat × Int) := s.cache.map fun e => (e.node, e.offset)

/-- The offset and record of each entry, in LRU order: what the store stands
for. The dirty flags are written and never read. -/
def entries (s : RecordStore T) : List (Int × T) := s.cache.map fun e => (e.offset, e.value)

/-! ## The invariant and the abstraction -/

/-- What holds of a store between two calls. -/
structure WellFormed (s : RecordStore T) : Prop where
  indexExact : ∀ offset node, s.index.lookup offset = some node ↔ (node, offset) ∈ s.keys
  offsetsNodup : (s.keys.map (·.2)).Nodup
  nodesNodup : (s.keys.map (·.1)).Nodup
  nodesFresh : ∀ key ∈ s.keys, key.1 < s.nextNode
  count : s.count = s.keys.length
  bounded : s.keys.length ≤ s.capacity
  positive : 0 < s.capacity

/-- The store stands for the records `d`. -/
structure Represents (s : RecordStore T) (d : Int → T) : Prop where
  cached : ∀ entry ∈ s.entries, entry.2 = d entry.1
  stored : ∀ offset, offset ∉ s.entries.map (·.1) → s.io.records offset = d offset

/-- Direct access to the records `d`, where a call that fails changes
nothing: a `Read` that succeeds returns the record at its offset, a `Write`
that succeeds sets it. -/
def directAccess (d : Int → T) : Operation T → StatusOr (Option T) → (Int → T) → Prop
  | .read offset, .ok result, d' => result = some (d offset) ∧ d' = d
  | .write offset item, .ok _, d' => d' = Function.update d offset item
  | .flush, .ok _, d' => d' = d
  | _, .error _, d' => d' = d

theorem wellFormed_create (capacity : Nat) (io : RandomAccessStorage T) : WellFormed (create capacity io) where
  indexExact := by simp [create, keys]
  offsetsNodup := by simp [create, keys]
  nodesNodup := by simp [create, keys]
  nodesFresh := by simp [create, keys]
  count := rfl
  bounded := Nat.zero_le _
  positive := by simp [create]

theorem represents_create (capacity : Nat) (io : RandomAccessStorage T) :
    Represents (create capacity io) io.records where
  cached := by simp [create, entries]
  stored := fun _ _ => rfl

theorem keys_offsets (s : RecordStore T) : s.keys.map (·.2) = s.entries.map (·.1) := by
  simp [keys, entries]

/-! ## Stores with the same entries up to order -/

section Perm

variable {s s' : RecordStore T} {d : Int → T}

/-- A store whose keys are those of a well-formed store in another order,
with the same index, count and capacity and an allocator no further back, is
well formed. -/
theorem WellFormed.of_perm (wf : WellFormed s) (perm : s'.keys.Perm s.keys)
    (index : s'.index = s.index) (count : s'.count = s.count) (capacity : s'.capacity = s.capacity)
    (nextNode : s.nextNode ≤ s'.nextNode) : WellFormed s' where
  indexExact offset node := by
    rw [index, wf.indexExact, perm.mem_iff]
  offsetsNodup := (perm.map _).nodup_iff.mpr wf.offsetsNodup
  nodesNodup := (perm.map _).nodup_iff.mpr wf.nodesNodup
  nodesFresh key member := Nat.lt_of_lt_of_le (wf.nodesFresh key (perm.mem_iff.mp member)) nextNode
  count := by rw [count, wf.count, perm.length_eq]
  bounded := by rw [perm.length_eq, capacity]; exact wf.bounded
  positive := capacity ▸ wf.positive

theorem Represents.of_perm (rep : Represents s d) (perm : s'.entries.Perm s.entries)
    (records : s'.io.records = s.io.records) : Represents s' d where
  cached entry member := rep.cached entry (perm.mem_iff.mp member)
  stored offset uncached := by
    rw [records]
    exact rep.stored offset (fun cached => uncached ((perm.map _).mem_iff.mpr cached))

end Perm

/-! ## `MoveToFront` and `Commit` -/

/-- In a list whose nodes are distinct, taking an entry out and putting it in
front permutes the list. -/
theorem cons_filter_node_perm {e : CacheEntry T} :
    ∀ {cache : List (CacheEntry T)}, (cache.map (·.node)).Nodup → e ∈ cache →
      (e :: cache.filter (·.node != e.node)).Perm cache := by
  intro cache
  induction cache with
  | nil => simp
  | cons x xs ih =>
    intro nodup member
    rw [List.map_cons, List.nodup_cons] at nodup
    rcases List.mem_cons.mp member with rfl | later
    · have others : xs.filter (·.node != e.node) = xs := by
        refine List.filter_eq_self.mpr fun y inXs => ?_
        have differs : y.node ≠ e.node := fun same => nodup.1 (same ▸ List.mem_map_of_mem inXs)
        simpa using differs
      simp [others]
    · have differs : x.node ≠ e.node := fun same => nodup.1 (same ▸ List.mem_map_of_mem later)
      have kept : (x :: xs).filter (·.node != e.node) = x :: xs.filter (·.node != e.node) := by
        simp [differs]
      rw [kept]
      exact (List.Perm.swap x e _).trans ((ih nodup.2 later).cons x)

variable (s : RecordStore T)

theorem keys_nodes : s.cache.map (·.node) = s.keys.map (·.1) := by
  simp [keys]

/-- `MoveToFront` on the node of an entry, in a cache of distinct nodes. -/
theorem moveToFront_of_mem {e : CacheEntry T} (nodup : (s.keys.map (·.1)).Nodup) (member : e ∈ s.cache) :
    s.moveToFront e.node = { s with cache := e :: s.cache.filter (·.node != e.node) } := by
  rw [← keys_nodes] at nodup
  have found : s.cache.find? (·.node == e.node) = some e := by
    obtain ⟨x, hx⟩ := Option.isSome_iff_exists.mp
      (List.find?_isSome.mpr ⟨e, member, by simp⟩ : (s.cache.find? (·.node == e.node)).isSome)
    have same : x = e :=
      List.inj_on_of_nodup_map nodup (List.mem_of_find?_eq_some hx) member (by simpa using List.find?_some hx)
    rw [hx, same]
  simp [moveToFront, found]

/-- `Commit(entry)` changes only dirty flags and the storage. -/
theorem commit_cache (entry : CacheEntry T) :
    (s.commit entry).2.keys = s.keys ∧ (s.commit entry).2.entries = s.entries := by
  unfold commit
  rcases s.io.write entry.offset entry.value with ⟨_ | _, io⟩
  · exact ⟨rfl, rfl⟩
  · constructor
    · simp only [keys, List.map_map]
      refine List.map_congr_left fun e _ => ?_
      by_cases same : e.node = entry.node <;> simp [same]
    · simp only [entries, List.map_map]
      refine List.map_congr_left fun e _ => ?_
      by_cases same : e.node = entry.node <;> simp [same]

theorem commit_fields (entry : CacheEntry T) :
    (s.commit entry).2.index = s.index ∧ (s.commit entry).2.count = s.count ∧
      (s.commit entry).2.capacity = s.capacity ∧ (s.commit entry).2.nextNode = s.nextNode ∧
      (s.commit entry).2.io = (s.io.write entry.offset entry.value).2 := by
  unfold commit
  rcases s.io.write entry.offset entry.value with ⟨_ | _, io⟩ <;> exact ⟨rfl, rfl, rfl, rfl, rfl⟩

theorem commit_ok {entry : CacheEntry T} (ok : (s.commit entry).1 = .ok ()) :
    (s.io.write entry.offset entry.value).1 = .ok () := by
  unfold commit at ok
  rcases written : s.io.write entry.offset entry.value with ⟨_ | _, io⟩
  · rw [written] at ok
    cases ok
  · rfl

/-! ## One store, two views of it -/

variable {s} {d : Int → T}

theorem WellFormed.commit (wf : WellFormed s) (entry : CacheEntry T) : WellFormed (s.commit entry).2 := by
  obtain ⟨index, count, capacity, nextNode, -⟩ := s.commit_fields entry
  exact wf.of_perm ((s.commit_cache entry).1 ▸ List.Perm.refl _) index count capacity nextNode.ge

/-- A `Commit` of a cached entry changes the storage only where the cache
holds the record. -/
theorem Represents.commit (rep : Represents s d) {entry : CacheEntry T}
    (cached : entry.offset ∈ s.entries.map (·.1)) : Represents (s.commit entry).2 d where
  cached p member := rep.cached p ((s.commit_cache entry).2 ▸ member)
  stored offset uncached := by
    rw [(s.commit_cache entry).2] at uncached
    have distinct : offset ≠ entry.offset := fun same => uncached (same ▸ cached)
    rw [(s.commit_fields entry).2.2.2.2, RandomAccessStorage.write_records_of_ne _ _ distinct]
    exact rep.stored offset uncached

/-- In a well-formed store an offset has one node, and a node one offset. -/
theorem WellFormed.node_unique (wf : WellFormed s) {node node' : Nat} {offset : Int}
    (first : (node, offset) ∈ s.keys) (second : (node', offset) ∈ s.keys) : node = node' :=
  (Prod.mk.inj (List.inj_on_of_nodup_map wf.offsetsNodup first second rfl)).1

theorem WellFormed.offset_unique (wf : WellFormed s) {node : Nat} {offset offset' : Int}
    (first : (node, offset) ∈ s.keys) (second : (node, offset') ∈ s.keys) : offset = offset' :=
  (Prod.mk.inj (List.inj_on_of_nodup_map wf.nodesNodup first second rfl)).2

theorem WellFormed.entry_of_lookup (wf : WellFormed s) {offset : Int} {node : Nat}
    (hit : s.index.lookup offset = some node) : ∃ e ∈ s.cache, e.node = node ∧ e.offset = offset := by
  obtain ⟨e, member, same⟩ := List.mem_map.mp ((wf.indexExact offset node).mp hit)
  simp only [Prod.mk.injEq] at same
  exact ⟨e, member, same.1, same.2⟩

theorem mem_cache_keys {e : CacheEntry T} (member : e ∈ s.cache) : (e.node, e.offset) ∈ s.keys :=
  List.mem_map_of_mem member

theorem mem_cache_entries {e : CacheEntry T} (member : e ∈ s.cache) : (e.offset, e.value) ∈ s.entries :=
  List.mem_map_of_mem member

theorem mem_keys_filter {cache : List (CacheEntry T)} {node other : Nat} {offset : Int} :
    (node, offset) ∈ (cache.filter (·.node != other)).map (fun e => (e.node, e.offset)) ↔
      (node, offset) ∈ cache.map (fun e => (e.node, e.offset)) ∧ node ≠ other := by
  constructor
  · intro member
    obtain ⟨e, kept, same⟩ := List.mem_map.mp member
    obtain ⟨inCache, differs⟩ := List.mem_filter.mp kept
    simp only [Prod.mk.injEq] at same
    refine ⟨List.mem_map.mpr ⟨e, inCache, by rw [same.1, same.2]⟩, ?_⟩
    simpa [← same.1] using differs
  · rintro ⟨member, differs⟩
    obtain ⟨e, inCache, same⟩ := List.mem_map.mp member
    simp only [Prod.mk.injEq] at same
    exact List.mem_map.mpr ⟨e, List.mem_filter.mpr ⟨inCache, by simpa [same.1] using differs⟩,
      by rw [same.1, same.2]⟩

/-- On a hit, `MoveToFront` puts the entry of the offset in front, and keeps
the store well formed and what it represents. -/
theorem moveToFront_hit (wf : WellFormed s) (rep : Represents s d) {offset : Int} {node : Nat}
    (hit : s.index.lookup offset = some node) :
    ∃ e rest, (s.moveToFront node).cache = e :: rest ∧ e.offset = offset ∧ e.value = d offset ∧
      WellFormed (s.moveToFront node) ∧ Represents (s.moveToFront node) d := by
  obtain ⟨e, member, rfl, rfl⟩ := wf.entry_of_lookup hit
  have perm := cons_filter_node_perm (by rw [keys_nodes]; exact wf.nodesNodup) member
  rw [moveToFront_of_mem s wf.nodesNodup member]
  refine ⟨e, _, rfl, rfl, rep.cached _ (mem_cache_entries member), ?_, ?_⟩
  · exact wf.of_perm (perm.map _) rfl rfl rfl le_rfl
  · exact rep.of_perm (perm.map _) rfl

/-! ## Taking an entry out -/

/-- After an entry's offset leaves the index, the index holds exactly the
other entries. -/
theorem WellFormed.lookup_eraseKey (wf : WellFormed s) {node : Nat} {offset : Int}
    (key : (node, offset) ∈ s.keys) (other : Int) (node' : Nat) :
    (eraseKey s.index offset).lookup other = some node' ↔ (node', other) ∈ s.keys ∧ node' ≠ node := by
  by_cases same : other = offset
  · subst same
    simp only [AeadHandler.lookup_eraseKey_self, reduceCtorEq, false_iff, not_and, not_not]
    exact fun member => wf.node_unique member key
  · rw [AeadHandler.lookup_eraseKey_of_ne same, wf.indexExact]
    exact ⟨fun member => ⟨member, fun sameNode => same (wf.offset_unique (sameNode ▸ member) key)⟩,
      And.left⟩

theorem keys_filter_sublist (cache : List (CacheEntry T)) (node : Nat) :
    ((cache.filter (·.node != node)).map fun e => (e.node, e.offset)).Sublist
      (cache.map fun e => (e.node, e.offset)) :=
  (List.filter_sublist).map _

/-- Taking an entry out of the cache and of the index leaves a well-formed
store. -/
theorem WellFormed.remove (wf : WellFormed s) {node : Nat} {offset : Int} (key : (node, offset) ∈ s.keys) :
    WellFormed { s with cache := s.cache.filter (·.node != node),
                        count := (s.cache.filter (·.node != node)).length,
                        index := eraseKey s.index offset } where
  indexExact other node' := by
    simp only [keys]
    rw [mem_keys_filter]
    exact wf.lookup_eraseKey key other node'
  offsetsNodup := ((keys_filter_sublist s.cache node).map _).nodup wf.offsetsNodup
  nodesNodup := ((keys_filter_sublist s.cache node).map _).nodup wf.nodesNodup
  nodesFresh k member := wf.nodesFresh k ((keys_filter_sublist s.cache node).subset member)
  count := by simp [keys]
  bounded := le_trans (keys_filter_sublist s.cache node).length_le wf.bounded
  positive := wf.positive

/-- Taking an entry out of the cache keeps what the store represents once the
storage holds its record. -/
theorem Represents.remove (wf : WellFormed s) (rep : Represents s d) {node : Nat} {offset : Int}
    (key : (node, offset) ∈ s.keys) (stored : s.io.records offset = d offset) :
    Represents { s with cache := s.cache.filter (·.node != node), index := eraseKey s.index offset } d where
  cached p member := by
    obtain ⟨x, kept, rfl⟩ := List.mem_map.mp member
    exact rep.cached _ (mem_cache_entries (List.mem_filter.mp kept).1)
  stored other uncached := by
    by_cases same : other = offset
    · rw [same]
      exact stored
    · refine rep.stored other fun cached => uncached ?_
      -- an offset cached before, other than the one taken out, is still cached
      rw [← keys_offsets] at cached
      obtain ⟨⟨node', _⟩, inKeys, rfl⟩ := List.mem_map.mp cached
      have differs : node' ≠ node := fun sameNode => same (wf.offset_unique (sameNode ▸ inKeys) key)
      obtain ⟨x, inRest, sameKey⟩ := List.mem_map.mp (mem_keys_filter.mpr ⟨inKeys, differs⟩)
      simp only [Prod.mk.injEq] at sameKey
      exact List.mem_map.mpr ⟨(x.offset, x.value), List.mem_map_of_mem inRest, sameKey.2⟩

/-! ## Misses -/

/-- A store in the middle of a miss: a free node in front of entries that
form a well-formed store representing `d`. -/
structure FrontFree (s : RecordStore T) (d : Int → T) (front : CacheEntry T) (rest : List (CacheEntry T)) :
    Prop where
  cache : s.cache = front :: rest
  restWellFormed : WellFormed { s with cache := rest, count := rest.length }
  restRepresents : Represents { s with cache := rest } d
  frontNode : front.node ∉ rest.map (·.node)
  frontFresh : front.node < s.nextNode
  count : s.count = rest.length + 1
  room : rest.length < s.capacity

/-- An entry whose record the storage holds, taken out of the index and put
in front, is a free front node. -/
theorem FrontFree.of_mem (wf : WellFormed s) (rep : Represents s d) {e : CacheEntry T} (member : e ∈ s.cache)
    (stored : s.io.records e.offset = d e.offset) :
    FrontFree { s with cache := e :: s.cache.filter (·.node != e.node), index := eraseKey s.index e.offset } d e
      (s.cache.filter (·.node != e.node)) := by
  have length := (cons_filter_node_perm (by rw [keys_nodes]; exact wf.nodesNodup) member).length_eq
  have count := wf.count
  have bounded := wf.bounded
  simp only [keys, List.length_map, List.length_cons] at length count bounded
  refine ⟨rfl, wf.remove (mem_cache_keys member), rep.remove wf (mem_cache_keys member) stored, ?_,
    wf.nodesFresh _ (mem_cache_keys member), by simp only; omega, by simp only; omega⟩
  intro inRest
  obtain ⟨x, kept, sameNode⟩ := List.mem_map.mp inRest
  have differs : (x.node != e.node) = true := (List.mem_filter.mp kept).2
  simp [sameNode] at differs

theorem FrontFree.absent {front : CacheEntry T} {rest : List (CacheEntry T)} (ff : FrontFree s d front rest)
    {offset : Int} (miss : s.index.lookup offset = none) (node : Nat) :
    (node, offset) ∉ rest.map (fun e => (e.node, e.offset)) := fun member => by
  have indexed := (ff.restWellFormed.indexExact offset node).mpr member
  rw [miss] at indexed
  cases indexed

theorem FrontFree.absentOffset {front : CacheEntry T} {rest : List (CacheEntry T)}
    (ff : FrontFree s d front rest) {offset : Int} (miss : s.index.lookup offset = none) :
    offset ∉ rest.map (·.offset) := fun member => by
  obtain ⟨e, inRest, same⟩ := List.mem_map.mp member
  exact ff.absent miss e.node (List.mem_map.mpr ⟨e, inRest, by rw [same]⟩)

section Fill

variable {front : CacheEntry T} {rest : List (CacheEntry T)} {offset : Int}

/-- A miss fills the free front node with a record at `offset`, and the index
points there. -/
theorem FrontFree.fill_wellFormed (ff : FrontFree s d front rest) (miss : s.index.lookup offset = none)
    (value : T) (dirty : Bool) (io : RandomAccessStorage T) :
    WellFormed { s with io, cache := { front with offset, value, dirty } :: rest,
                        index := assign s.index offset front.node } := by
  have restWf := ff.restWellFormed
  refine ⟨fun other node => ?_, ?_, ?_, ?_, ?_, ?_, restWf.positive⟩
  · by_cases same : other = offset
    · subst same
      simp only [AeadHandler.lookup_assign_self, Option.some.injEq, keys, List.map_cons,
        List.mem_cons, Prod.mk.injEq, and_true]
      constructor
      · rintro rfl
        exact .inl rfl
      · rintro (rfl | member)
        · rfl
        · exact absurd member (ff.absent miss node)
    · rw [AeadHandler.lookup_assign_of_ne same]
      have before := restWf.indexExact other node
      simp only [keys] at before ⊢
      simp only [List.map_cons, List.mem_cons, Prod.mk.injEq, same, and_false, false_or]
      exact before
  · simp only [keys, List.map_cons, List.map_map, List.nodup_cons]
    refine ⟨by simpa using ff.absentOffset miss, ?_⟩
    simpa [keys, List.map_map] using restWf.offsetsNodup
  · simp only [keys, List.map_cons, List.map_map, List.nodup_cons]
    refine ⟨by simpa using ff.frontNode, ?_⟩
    simpa [keys, List.map_map] using restWf.nodesNodup
  · simp only [keys, List.map_cons, List.mem_cons, forall_eq_or_imp]
    exact ⟨ff.frontFresh, restWf.nodesFresh⟩
  · simp [keys, ff.count]
  · simpa [keys, Nat.succ_le_iff] using ff.room

/-- The filled front node holds `value`, and the store represents `d` with
the record at `offset` set to it. -/
theorem FrontFree.fill_represents (ff : FrontFree s d front rest) (miss : s.index.lookup offset = none)
    (value : T) (dirty : Bool) (io : RandomAccessStorage T) (records : io.records = s.io.records) :
    Represents { s with io, cache := { front with offset, value, dirty } :: rest,
                        index := assign s.index offset front.node } (Function.update d offset value) where
  cached p member := by
    simp only [entries, List.map_cons, List.mem_cons] at member
    rcases member with rfl | later
    · simp
    · obtain ⟨e, inRest, rfl⟩ := List.mem_map.mp later
      have differs : e.offset ≠ offset := fun same => ff.absentOffset miss (same ▸ List.mem_map_of_mem inRest)
      rw [Function.update_of_ne differs]
      exact ff.restRepresents.cached _ (mem_cache_entries (s := { s with cache := rest }) inRest)
  stored other uncached := by
    simp only [entries, List.map_cons, List.mem_cons, not_or] at uncached
    rw [records, Function.update_of_ne uncached.1]
    exact ff.restRepresents.stored other (by simpa [entries] using uncached.2)

end Fill

/-- `Evict()` on a full store: a failed commit leaves it well formed and
representing `d`; otherwise the last entry's node is free at the front, and
the index still has no entry for the offset of the miss. -/
theorem evict_cases (wf : WellFormed s) (rep : Represents s d) (full : s.capacity ≤ s.count)
    {offset : Int} (miss : s.index.lookup offset = none) :
    (∃ status s', s.evict = (.error status, s') ∧ WellFormed s' ∧ Represents s' d) ∨
      (∃ s' front rest, s.evict = (.ok (), s') ∧ FrontFree s' d front rest ∧ s'.index.lookup offset = none) := by
  -- a full cache is not empty
  obtain ⟨last, lastEq⟩ : ∃ last, s.cache.getLast? = some last := by
    have nonempty : s.cache ≠ [] := by
      intro empty
      have count := wf.count
      have positive := wf.positive
      simp only [keys, empty, List.map_nil, List.length_nil] at count
      omega
    exact Option.isSome_iff_exists.mp (List.getLast?_isSome.mpr nonempty)
  have member := List.mem_of_getLast? lastEq
  have cachedOffset := List.mem_map_of_mem (f := (·.1)) (mem_cache_entries member)
  have wf₁ := wf.commit last
  have rep₁ := rep.commit cachedOffset
  have keys₁ := (s.commit_cache last).1
  have index₁ := (s.commit_fields last).1
  have io₁ := (s.commit_fields last).2.2.2.2
  rcases committed : s.commit last with ⟨status | done, s₁⟩
  · have evicted : s.evict = (.error status, s₁) := by
      simp only [evict, lastEq, committed]
    rw [committed] at wf₁ rep₁
    exact .inl ⟨status, s₁, evicted, wf₁, rep₁⟩
  · cases done
    have evicted : s.evict = (.ok (), { s₁ with index := eraseKey s₁.index last.offset }.moveToFront last.node) := by
      simp only [evict, lastEq, committed]
    rw [committed] at wf₁ rep₁ keys₁ index₁ io₁
    dsimp only at wf₁ rep₁ keys₁ index₁ io₁
    right
    -- the committed store still has the last entry's node, with its offset
    obtain ⟨e, inCache, sameKey⟩ := List.mem_map.mp (keys₁ ▸ mem_cache_keys member)
    simp only [Prod.mk.injEq] at sameKey
    obtain ⟨sameNode, sameOffset⟩ := sameKey
    have stored : s₁.io.records e.offset = d e.offset := by
      have written := s.commit_ok (show (s.commit last).1 = .ok () by rw [committed])
      rw [io₁, sameOffset, RandomAccessStorage.write_records_of_ok _ written]
      exact rep.cached _ (mem_cache_entries member)
    have moved := moveToFront_of_mem { s₁ with index := eraseKey s₁.index last.offset } wf₁.nodesNodup inCache
    rw [sameNode] at moved
    rw [moved, ← sameNode, ← sameOffset] at evicted
    refine ⟨_, e, _, evicted, FrontFree.of_mem wf₁ rep₁ inCache stored, ?_⟩
    refine Option.eq_none_iff_forall_ne_some.mpr fun node found => ?_
    have inKeys := ((wf₁.lookup_eraseKey (sameNode ▸ sameOffset ▸ keys₁ ▸ mem_cache_keys member) offset node).mp
      found).1
    rw [keys₁, ← wf.indexExact, miss] at inKeys
    cases inKeys

/-- A hit of `Write(offset, item)` sets the record of the front entry. -/
theorem Represents.setFront (wf : WellFormed s) (rep : Represents s d) {e : CacheEntry T}
    {rest : List (CacheEntry T)} (front : s.cache = e :: rest) (item : T) (dirty : Bool) :
    Represents { s with cache := { e with value := item, dirty } :: rest } (Function.update d e.offset item) where
  cached p member := by
    simp only [entries, List.map_cons, List.mem_cons] at member
    rcases member with rfl | later
    · simp
    · obtain ⟨x, inRest, rfl⟩ := List.mem_map.mp later
      have nodup := wf.offsetsNodup
      simp only [keys_offsets, entries, front, List.map_cons, List.map_map, List.nodup_cons] at nodup
      have differs : x.offset ≠ e.offset := fun same => nodup.1 (List.mem_map.mpr ⟨x, inRest, same⟩)
      rw [Function.update_of_ne differs]
      exact rep.cached _ (mem_cache_entries (front ▸ List.mem_cons_of_mem e inRest))
  stored other uncached := by
    simp only [entries, List.map_cons, List.mem_cons, not_or] at uncached
    rw [Function.update_of_ne uncached.1]
    exact rep.stored other (by simpa [entries, front] using uncached)

/-! ## `Flush` -/

/-- The loop of `Flush()` over cached entries keeps the store well formed,
its entries, and what it represents. -/
theorem flushLoop_spec :
    ∀ (pending : List (CacheEntry T)) {s : RecordStore T}, (∀ e ∈ pending, (e.offset, e.value) ∈ s.entries) →
      WellFormed s → Represents s d →
      WellFormed (flushLoop pending s).2 ∧ Represents (flushLoop pending s).2 d ∧
        (flushLoop pending s).2.entries = s.entries := by
  intro pending
  induction pending with
  | nil => exact fun _ wf rep => ⟨wf, rep, rfl⟩
  | cons e pending ih =>
    intro s cached wf rep
    have offset : e.offset ∈ s.entries.map (·.1) := List.mem_map_of_mem (cached e List.mem_cons_self)
    have entries₁ := (s.commit_cache e).2
    unfold flushLoop
    rcases committed : s.commit e with ⟨_ | done, s₁⟩
    · rw [committed] at entries₁
      refine ⟨?_, ?_, entries₁⟩
      · simpa [committed] using wf.commit e
      · simpa [committed] using rep.commit offset
    · cases done
      rw [committed] at entries₁
      dsimp only at entries₁ ⊢
      have wf₁ : WellFormed s₁ := by simpa [committed] using wf.commit e
      have rep₁ : Represents s₁ d := by simpa [committed] using rep.commit offset
      obtain ⟨wf', rep', sameEntries⟩ :=
        ih (fun x member => entries₁ ▸ cached x (List.mem_cons_of_mem e member)) wf₁ rep₁
      exact ⟨wf', rep', sameEntries.trans entries₁⟩

/-- A loop of `Flush()` that succeeds leaves the record of `d` at every
offset it committed, and at every offset that held it before. -/
theorem flushLoop_records :
    ∀ (pending : List (CacheEntry T)) {s : RecordStore T}, (∀ e ∈ pending, (e.offset, e.value) ∈ s.entries) →
      Represents s d → (flushLoop pending s).1 = .ok () →
      ∀ offset, (s.io.records offset = d offset ∨ offset ∈ pending.map (·.offset)) →
        (flushLoop pending s).2.io.records offset = d offset := by
  intro pending
  induction pending with
  | nil =>
    intro s _ _ _ offset held
    simpa [flushLoop] using held
  | cons e pending ih =>
    intro s cached rep flushed offset held
    have entries₁ := (s.commit_cache e).2
    have io₁ := (s.commit_fields e).2.2.2.2
    have inCache : e.offset ∈ s.entries.map (·.1) := List.mem_map_of_mem (cached e List.mem_cons_self)
    unfold flushLoop at flushed ⊢
    rcases committed : s.commit e with ⟨_ | done, s₁⟩
    · rw [committed] at flushed
      cases flushed
    · cases done
      rw [committed] at flushed entries₁ io₁
      dsimp only at flushed entries₁ io₁ ⊢
      have written := s.commit_ok (show (s.commit e).1 = .ok () by rw [committed])
      have rep₁ : Represents s₁ d := by simpa [committed] using rep.commit inCache
      refine ih (fun x member => entries₁ ▸ cached x (List.mem_cons_of_mem e member)) rep₁ flushed offset ?_
      by_cases same : offset = e.offset
      · -- the commit wrote the cached record there
        left
        rw [io₁, same, RandomAccessStorage.write_records_of_ok _ written]
        exact rep.cached _ (cached e List.mem_cons_self)
      · rw [io₁, RandomAccessStorage.write_records_of_ne _ _ same]
        simpa [same] using held

/-- A `Flush()` that succeeds leaves the records `d` in the storage. -/
theorem flush_records (rep : Represents s d) (flushed : s.flush.1 = .ok ()) : s.flush.2.io.records = d := by
  have cached : ∀ e ∈ s.cache, (e.offset, e.value) ∈ s.entries := fun e member => mem_cache_entries member
  unfold flush at flushed ⊢
  rcases looped : flushLoop s.cache s with ⟨_ | done, s₁⟩
  · rw [looped] at flushed
    cases flushed
  · cases done
    dsimp only
    rw [RandomAccessStorage.sync_records]
    funext offset
    have committed := flushLoop_records s.cache cached rep (by rw [looped]) offset
    rw [looped] at committed
    refine committed ?_
    by_cases inCache : offset ∈ s.cache.map (·.offset)
    · exact .inr inCache
    · exact .inl (rep.stored offset (by simpa [entries] using inCache))

theorem flush_spec (wf : WellFormed s) (rep : Represents s d) :
    WellFormed s.flush.2 ∧ Represents s.flush.2 d := by
  obtain ⟨wf₁, rep₁, -⟩ := flushLoop_spec s.cache (fun e member => mem_cache_entries member) wf rep
  unfold flush
  rcases looped : flushLoop s.cache s with ⟨_ | done, s₁⟩
  · rw [looped] at wf₁ rep₁
    exact ⟨wf₁, rep₁⟩
  · cases done
    rw [looped] at wf₁ rep₁
    dsimp only
    exact ⟨wf₁.of_perm (List.Perm.refl _) rfl rfl rfl le_rfl,
      rep₁.of_perm (List.Perm.refl _) (RandomAccessStorage.sync_records _)⟩

variable [Inhabited T]

/-- Making room for a miss: a failure leaves the store well formed and
representing `d`; a success leaves a free front node, and the index still has
no entry for the offset. -/
theorem makeRoom_cases (wf : WellFormed s) (rep : Represents s d) {offset : Int}
    (miss : s.index.lookup offset = none) :
    (∃ status s', s.makeRoom = (.error status, s') ∧ WellFormed s' ∧ Represents s' d) ∨
      (∃ s' front rest, s.makeRoom = (.ok (), s') ∧ FrontFree s' d front rest ∧
        s'.index.lookup offset = none) := by
  by_cases room : s.count < s.capacity
  · -- a new node from the allocator
    right
    have length : s.count = s.cache.length := by simpa [keys] using wf.count
    have allocated : s.makeRoom =
        (.ok (), { s with cache := ⟨s.nextNode, 0, default, false⟩ :: s.cache, count := s.count + 1,
                          nextNode := s.nextNode + 1 }) := if_pos room
    refine ⟨_, _, s.cache, allocated, ⟨rfl, ?_, ?_, ?_, Nat.lt_succ_self _, ?_, ?_⟩, miss⟩
    · exact wf.of_perm (List.Perm.refl _) rfl length.symm rfl (Nat.le_succ _)
    · exact rep.of_perm (List.Perm.refl _) rfl
    · intro used
      obtain ⟨e, member, same⟩ := List.mem_map.mp used
      have fresh := wf.nodesFresh _ (mem_cache_keys member)
      simp only [same] at fresh
      exact Nat.lt_irrefl _ fresh
    · simp [length]
    · simpa [length] using room
  · have evicted := evict_cases wf rep (Nat.le_of_not_lt room) miss
    simpa only [makeRoom, if_neg room] using evicted

/-- `Read(offset)` keeps the store well formed and representing `d`, and a
read that succeeds returns the record. -/
theorem read_spec (wf : WellFormed s) (rep : Represents s d) (offset : Int) :
    WellFormed (s.read offset).2 ∧ Represents (s.read offset).2 d ∧
      ∀ value, (s.read offset).1 = .ok value → value = d offset := by
  cases hit : s.index.lookup offset with
  | some node =>
    obtain ⟨e, rest, front, rfl, value, wf', rep'⟩ := moveToFront_hit wf rep hit
    have read : s.read e.offset = (.ok e.value, s.moveToFront node) := by
      simp only [read, hit, front]
    rw [read]
    exact ⟨wf', rep', fun _ returned => by cases returned; exact value⟩
  | none =>
    unfold read
    rw [hit]
    dsimp only
    rcases makeRoom_cases wf rep hit with ⟨status, s', room, wf', rep'⟩ | ⟨s', front, rest, room, ff, miss⟩
    · rw [room]
      exact ⟨wf', rep', fun _ returned => by cases returned⟩
    rw [room]
    dsimp only
    rw [ff.cache]
    rcases readResult : s'.io.read offset with ⟨status | value, io⟩
    all_goals
      have records : io.records = s'.io.records := by
        rw [← RandomAccessStorage.read_records s'.io offset, readResult]
    · -- the front node is discarded
      refine ⟨ff.restWellFormed.of_perm (List.Perm.refl _) rfl (by simp [ff.count]) rfl le_rfl,
        ff.restRepresents.of_perm (List.Perm.refl _) records, fun _ returned => by cases returned⟩
    · have isRecord : value = d offset := by
        rw [RandomAccessStorage.read_value s'.io (show (s'.io.read offset).1 = .ok value by rw [readResult])]
        exact ff.restRepresents.stored offset (by simpa [entries] using ff.absentOffset miss)
      have rep' := ff.fill_represents miss value false io records
      rw [isRecord, Function.update_eq_self] at rep'
      rw [isRecord]
      exact ⟨ff.fill_wellFormed miss _ false io, rep', fun _ returned => by cases returned; rfl⟩

/-- `Write(offset, item)` keeps the store well formed; it represents `d` with
the record set when it succeeds, and `d` when it fails. -/
theorem write_spec (wf : WellFormed s) (rep : Represents s d) (offset : Int) (item : T) :
    WellFormed (s.write offset item).2 ∧
      ((s.write offset item).1 = .ok () → Represents (s.write offset item).2 (Function.update d offset item)) ∧
      (∀ status, (s.write offset item).1 = .error status → Represents (s.write offset item).2 d) := by
  unfold write
  cases hit : s.index.lookup offset with
  | some node =>
    obtain ⟨e, rest, front, rfl, -, wf', rep'⟩ := moveToFront_hit wf rep hit
    dsimp only
    rw [front]
    refine ⟨wf'.of_perm (by simp [keys, front]) rfl rfl rfl le_rfl,
      fun _ => rep'.setFront wf' front item true, fun _ failed => by cases failed⟩
  | none =>
    dsimp only
    rcases makeRoom_cases wf rep hit with ⟨status, s', room, wf', rep'⟩ | ⟨s', front, rest, room, ff, miss⟩
    · rw [room]
      exact ⟨wf', fun written => (by cases written), fun _ _ => rep'⟩
    rw [room]
    dsimp only
    rw [ff.cache]
    exact ⟨ff.fill_wellFormed miss item true s'.io, fun _ => ff.fill_represents miss item true s'.io rfl,
      fun _ failed => by cases failed⟩

/-! ## Refinement -/

/-- Every call from a well-formed store that represents `d` answers as direct
access to `d` may, and leaves a well-formed store that represents the records
direct access moves to. -/
theorem step_refines (wf : WellFormed s) (rep : Represents s d) (operation : Operation T) :
    ∃ d', directAccess d operation (s.step operation).2 d' ∧ WellFormed (s.step operation).1 ∧
      Represents (s.step operation).1 d' := by
  cases operation with
  | read offset =>
    obtain ⟨wf', rep', returns⟩ := read_spec wf rep offset
    refine ⟨d, ?_, wf', rep'⟩
    simp only [step]
    rcases result : (s.read offset).1 with status | value
    · rfl
    · exact ⟨by rw [returns value result], rfl⟩
  | write offset item =>
    obtain ⟨wf', written, failed⟩ := write_spec wf rep offset item
    simp only [step]
    rcases result : (s.write offset item).1 with status | done
    · exact ⟨d, rfl, wf', failed status result⟩
    · exact ⟨Function.update d offset item, rfl, wf', written result⟩
  | flush =>
    obtain ⟨wf', rep'⟩ := flush_spec wf rep
    refine ⟨d, ?_, wf', rep'⟩
    show directAccess d .flush (s.flush.1.map fun _ => none) d
    cases s.flush.1 <;> rfl

end RecordStore

/-- A `RecordStore` of any capacity over a storage whose calls may fail at
any point behaves as direct access to the records: along every sequence of
calls, each `Read` that succeeds returns the record of the latest `Write` to
its offset that succeeded, or the stored one; the store stays well formed,
and a `Flush` that succeeds then leaves in the storage the records of direct
access. -/
theorem record_store_refines_direct_access {T : Type} [Inhabited T] (capacity : Nat)
    (io : RandomAccessStorage T) (operations : List (RecordStore.Operation T)) :
    ∃ d, Machine.Accepts RecordStore.directAccess io.records operations
        (Machine.run RecordStore.step (RecordStore.create capacity io) operations).2 d ∧
      RecordStore.WellFormed (Machine.run RecordStore.step (RecordStore.create capacity io) operations).1 ∧
      ((Machine.run RecordStore.step (RecordStore.create capacity io) operations).1.flush.1 = .ok () →
        (Machine.run RecordStore.step (RecordStore.create capacity io) operations).1.flush.2.io.records = d) := by
  obtain ⟨d, accepted, wf, rep⟩ := Machine.run_accepts RecordStore.step RecordStore.directAccess
    (fun s d => RecordStore.WellFormed s ∧ RecordStore.Represents s d)
    (fun _ _ operation related => RecordStore.step_refines related.1 related.2 operation) operations
    ⟨RecordStore.wellFormed_create capacity io, RecordStore.represents_create capacity io⟩
  exact ⟨d, accepted, wf, RecordStore.flush_records rep⟩

/-- One entry: the second `Write` evicts the first, and the next miss fails
to commit the second, leaving garbage at its offset; the entry stays cached,
and a later eviction writes it back. -/
example : (Machine.run RecordStore.step
    (RecordStore.create 1 ⟨fun _ => (0 : Nat), [.ok, .fail ⟨.internal, "disk"⟩ (some 0)]⟩)
    [.write 0 5, .write 8 7, .read 0, .read 8, .read 0]).2 =
      [.ok none, .ok none, .error ⟨.internal, "disk"⟩, .ok (some 7), .ok (some 5)] := by decide

end Asylo
