import Mathlib

/-! The heap that `fork` switches to while it takes and restores a snapshot
(`platform/posix/memory/memory.cc`, and the `realloc` hook of the newlib
patch). `heap_switch(base, size)` points two globals at a region, and until
the heap is switched back `malloc`, `realloc` and `free` go through hooks:
an allocation moves `switched_heap_next` to the next aligned address and
bumps it past the block, `realloc` allocates afresh, and `free` does nothing.

Calls are the hooks themselves, and the caller's own writes to memory are
calls too, so that what `realloc` keeps can be stated. The process also logs
every block handed out since the switch with the size asked for it.

While no request is within an alignment of `SIZE_MAX`, every block handed
out is aligned, lies in the region and overlaps no other, and an allocation
fails exactly when its aligned size does not fit (`Good.run`,
`allocate_eq`). But the shift is added to the request in `size_t`, so a
request near `SIZE_MAX` wraps to a small size and succeeds without moving the
heap; and `realloc` copies nothing (`switched_heap_wraps_and_realloc_loses_data`). -/
namespace Asylo.Memory

/-- `alignof(std::max_align_t)` on x86-64. -/
def kMaxAlign : Nat := 16

/-- `switched_heap_next`, an address with `0` for `nullptr`, and
`switched_heap_remaining`. -/
structure SwitchedHeap where
  switchedHeapNext : Nat
  switchedHeapRemaining : Nat
  deriving DecidableEq, Repr

/-- `heap_switch(base, size)`: a region that is not null nor empty becomes the
heap; anything else clears it (and takes the hooks out). -/
def heapSwitch (base size : Nat) : SwitchedHeap :=
  if base ≠ 0 ∧ size > 0 then ⟨base, size⟩ else ⟨0, 0⟩

/-- `AllocateMemoryOnSwitchedHeap(size, pool)`: the block's address, or
`nullptr`, and the heap after it. The shift to the next aligned address is
added to the `size_t` request, where the sum wraps. -/
def allocateMemoryOnSwitchedHeap (heap : SwitchedHeap) (size : Nat) : Option Nat × SwitchedHeap :=
  let shift := (kMaxAlign - heap.switchedHeapNext % kMaxAlign) % kMaxAlign
  let size := (size + shift) % 2 ^ 64
  if heap.switchedHeapNext = 0 ∨ heap.switchedHeapRemaining < size then (none, heap)
  else
    (some (heap.switchedHeapNext + shift),
      { switchedHeapNext := heap.switchedHeapNext + size
        switchedHeapRemaining := heap.switchedHeapRemaining - size })

/-- What the code running on the switched heap does: the three hooks, and its
own writes to memory. -/
inductive HeapCall
  | malloc (size : Nat)
  | realloc (ptr size : Nat)
  | free (ptr : Nat)
  | store (address : Nat) (value : UInt8)
  deriving DecidableEq, Repr

/-- The heap, the bytes of memory, and the blocks handed out since the switch
with the sizes asked for them, oldest first. -/
structure Process where
  heap : SwitchedHeap
  memory : Nat → UInt8
  handedOut : List (Nat × Nat)

namespace Process

/-- An allocation of `size` bytes through a hook, logged when it succeeds. -/
def allocate (process : Process) (size : Nat) : Option Nat × Process :=
  match allocateMemoryOnSwitchedHeap process.heap size with
  | (none, heap) => (none, { process with heap := heap })
  | (some ptr, heap) => (some ptr, { process with heap := heap, handedOut := process.handedOut ++ [(ptr, size)] })

/-- One call: `MallocHook` and `ReallocHook` both allocate, `ReallocHook`
ignoring the old block; `FreeHook` does nothing. -/
def step (process : Process) : HeapCall → Option Nat × Process
  | .malloc size => process.allocate size
  | .realloc _ size => process.allocate size
  | .free _ => (none, process)
  | .store address value => (none, { process with memory := fun a => if a = address then value else process.memory a })

/-- A run of calls: what each returned, and the process after them. -/
def run (process : Process) : List HeapCall → List (Option Nat) × Process
  | [] => ([], process)
  | call :: calls =>
    let (returned, next) := process.step call
    let (rest, final) := next.run calls
    (returned :: rest, final)

end Process

/-! ## One allocation -/

section Allocate

variable {heap : SwitchedHeap} {size : Nat}

/-- The distance from the next address to an aligned one. -/
def SwitchedHeap.shift (heap : SwitchedHeap) : Nat :=
  (kMaxAlign - heap.switchedHeapNext % kMaxAlign) % kMaxAlign

theorem SwitchedHeap.shift_lt (heap : SwitchedHeap) : heap.shift < kMaxAlign :=
  Nat.mod_lt _ (by decide)

/-- The next address moved by its shift is aligned. -/
theorem SwitchedHeap.aligned_add_shift (heap : SwitchedHeap) : (heap.switchedHeapNext + heap.shift) % kMaxAlign = 0 := by
  unfold SwitchedHeap.shift kMaxAlign
  omega

/-- A request whose aligned size stays below `2^64`, on a heap that is set:
the allocation fails exactly when the aligned size does not fit, and
otherwise hands out the aligned address and bumps the heap past the block. -/
theorem allocate_eq (nonnull : heap.switchedHeapNext ≠ 0) (noWrap : size + kMaxAlign ≤ 2 ^ 64) :
    allocateMemoryOnSwitchedHeap heap size =
      if heap.switchedHeapRemaining < size + heap.shift then (none, heap)
      else
        (some (heap.switchedHeapNext + heap.shift),
          ⟨heap.switchedHeapNext + (size + heap.shift), heap.switchedHeapRemaining - (size + heap.shift)⟩) := by
  have small : (size + heap.shift) % 2 ^ 64 = size + heap.shift := Nat.mod_eq_of_lt (by
    have := heap.shift_lt
    omega)
  have shift : (kMaxAlign - heap.switchedHeapNext % kMaxAlign) % kMaxAlign = heap.shift := rfl
  unfold allocateMemoryOnSwitchedHeap
  simp only [shift, small, nonnull, false_or]

end Allocate

/-! ## Every run whose requests do not wrap -/

/-- What the allocator keeps since `heap_switch(base, size)`: the next
address and the bytes left add up to the region's end, every block handed out
is aligned and lies between the base and the next address, and each ends
before the next one starts. -/
structure Good (base size : Nat) (process : Process) : Prop where
  nonnull : base ≠ 0
  conserved : process.heap.switchedHeapNext + process.heap.switchedHeapRemaining = base + size
  above : base ≤ process.heap.switchedHeapNext
  inside : ∀ block ∈ process.handedOut, base ≤ block.1 ∧ block.1 + block.2 ≤ process.heap.switchedHeapNext
  aligned : ∀ block ∈ process.handedOut, block.1 % kMaxAlign = 0
  ordered : process.handedOut.Pairwise fun block later => block.1 + block.2 ≤ later.1

/-- A request `HeapCall` can make without reaching within an alignment of
`SIZE_MAX`. -/
def HeapCall.NoWrap : HeapCall → Prop
  | .malloc size => size + kMaxAlign ≤ 2 ^ 64
  | .realloc _ size => size + kMaxAlign ≤ 2 ^ 64
  | .free _ => True
  | .store _ _ => True

theorem good_heapSwitch {base size : Nat} (nonnull : base ≠ 0) (nonempty : 0 < size) (memory : Nat → UInt8) :
    Good base size ⟨heapSwitch base size, memory, []⟩ := by
  have switched : heapSwitch base size = ⟨base, size⟩ := if_pos ⟨nonnull, nonempty⟩
  refine ⟨nonnull, ?_, ?_, ?_, ?_, List.Pairwise.nil⟩ <;> simp [switched]

section Step

variable {base size : Nat} {process : Process}

/-- An allocation that does not wrap keeps the invariant, and the block it
hands out is aligned and inside the region. -/
theorem Good.allocate (good : Good base size process) {request : Nat} (noWrap : request + kMaxAlign ≤ 2 ^ 64) :
    Good base size (process.allocate request).2 := by
  have nonnull : process.heap.switchedHeapNext ≠ 0 := by
    have := good.above
    have := good.nonnull
    omega
  unfold Process.allocate
  rw [allocate_eq nonnull noWrap]
  by_cases short : process.heap.switchedHeapRemaining < request + process.heap.shift
  · simp only [short, if_true]
    exact good
  · simp only [short, if_false]
    have conserved := good.conserved
    -- the new block starts at the aligned next address and ends at the new next address
    refine ⟨good.nonnull, by dsimp only; omega, by dsimp only; have := good.above; omega, ?_, ?_, ?_⟩
    · intro block member
      rcases List.mem_append.mp member with earlier | here
      · have := good.inside block earlier
        dsimp only
        omega
      · rw [List.mem_singleton.mp here]
        dsimp only
        have := good.above
        omega
    · intro block member
      rcases List.mem_append.mp member with earlier | here
      · exact good.aligned block earlier
      · rw [List.mem_singleton.mp here]
        exact process.heap.aligned_add_shift
    · refine List.pairwise_append.mpr ⟨good.ordered, List.pairwise_singleton _ _, fun block earlier later here => ?_⟩
      rw [List.mem_singleton.mp here]
      have := good.inside block earlier
      omega

/-- Every call that does not wrap keeps the invariant. -/
theorem Good.step (good : Good base size process) {call : HeapCall} (noWrap : call.NoWrap) :
    Good base size (process.step call).2 := by
  cases call with
  | malloc request => exact good.allocate noWrap
  | realloc _ request => exact good.allocate noWrap
  | free _ => exact good
  | store address value => exact ⟨good.nonnull, good.conserved, good.above, good.inside, good.aligned, good.ordered⟩

/-- Every run whose requests do not wrap keeps the invariant. -/
theorem Good.run (good : Good base size process) {calls : List HeapCall} (noWrap : ∀ call ∈ calls, call.NoWrap) :
    Good base size (process.run calls).2 := by
  induction calls generalizing process with
  | nil => exact good
  | cons call calls ih =>
    exact ih (good.step (noWrap call (List.mem_cons_self ..)))
      fun later member => noWrap later (List.mem_cons_of_mem _ member)

end Step

/-- After `heap_switch(base, size)` on a region that is not null nor empty,
along every run whose requests do not wrap, each block handed out is aligned,
lies with its bytes in `[base, base + size)`, and ends before every later one
starts. -/
theorem handedOut_of_run {base size : Nat} (nonnull : base ≠ 0) (nonempty : 0 < size) (memory : Nat → UInt8)
    {calls : List HeapCall} (noWrap : ∀ call ∈ calls, call.NoWrap) :
    (∀ block ∈ (Process.run ⟨heapSwitch base size, memory, []⟩ calls).2.handedOut,
        block.1 % kMaxAlign = 0 ∧ base ≤ block.1 ∧ block.1 + block.2 ≤ base + size) ∧
      (Process.run ⟨heapSwitch base size, memory, []⟩ calls).2.handedOut.Pairwise
        fun block later => block.1 + block.2 ≤ later.1 := by
  have good := (good_heapSwitch nonnull nonempty memory).run noWrap
  refine ⟨fun block member => ?_, good.ordered⟩
  obtain ⟨atLeast, below⟩ := good.inside block member
  have := good.conserved
  exact ⟨good.aligned block member, atLeast, by omega⟩

/-- Two allocations and a free on a heap of 64 bytes at 4096. -/
theorem handedOut_of_run_two_mallocs :
    (4096 ≠ 0 ∧ 0 < 64 ∧ ∀ call ∈ [HeapCall.malloc 10, .malloc 20, .free 4096], call.NoWrap) ∧
      (∀ block ∈ (Process.run ⟨heapSwitch 4096 64, fun _ => 0, []⟩ [.malloc 10, .malloc 20, .free 4096]).2.handedOut,
          block.1 % kMaxAlign = 0 ∧ 4096 ≤ block.1 ∧ block.1 + block.2 ≤ 4096 + 64) ∧
        (Process.run ⟨heapSwitch 4096 64, fun _ => 0, []⟩ [.malloc 10, .malloc 20, .free 4096]).2.handedOut.Pairwise
          fun block later => block.1 + block.2 ≤ later.1 := by
  have noWrap : ∀ call ∈ [HeapCall.malloc 10, .malloc 20, .free 4096], call.NoWrap := by
    simp [HeapCall.NoWrap, kMaxAlign]
  exact ⟨⟨by decide, by decide, noWrap⟩, handedOut_of_run (by decide) (by decide) _ noWrap⟩

/-- A `realloc` leaves memory as it was: the new block holds whatever the
region held there, not the old block's bytes. -/
theorem realloc_memory (process : Process) (ptr request : Nat) :
    (process.step (.realloc ptr request)).2.memory = process.memory := by
  show (process.allocate request).2.memory = process.memory
  unfold Process.allocate
  split <;> rfl

/-! ## A run that breaks it -/

/-- After `heap_switch(16, 64)` on zeroed memory: `malloc(1)` gives 16 and the
caller writes 7 there; `realloc(16, 1)` gives 32, which still holds 0; with
47 bytes left, `malloc(2^64 - 15)` succeeds at 48, the aligned size having
wrapped to 0, and leaves the heap where it was, so the next `malloc(1)` gives
48 again. -/
theorem switched_heap_wraps_and_realloc_loses_data :
    let switched : Process := ⟨heapSwitch 16 64, fun _ => 0, []⟩
    let calls := [HeapCall.malloc 1, .store 16 7, .realloc 16 1, .malloc (2 ^ 64 - 15), .malloc 1]
    (switched.run calls).1 = [some 16, none, some 32, some 48, some 48] ∧
      (switched.run calls).2.memory 16 = 7 ∧ (switched.run calls).2.memory 32 = 0 ∧
      (switched.run calls).2.heap = ⟨49, 31⟩ := by
  decide

end Asylo.Memory
