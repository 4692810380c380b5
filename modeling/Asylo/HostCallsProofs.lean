import Asylo.HostCalls

/-! What the socket host calls make of a hostile answer.

The property asked of each wrapper is split in two. `readInside` says that an
access reads only what the response holds; `writeWithin` that a write stays
within the caller's buffer. Each wrapper has one lemma (`*_keeps`) that says
which accesses it can make at all, for any property `P` of accesses: the
extents it takes, the scalars it reads, reads inside the extents it took and
writes within the buffers it was given. Both properties follow from it.

Writes always stay within the caller's buffers, and the lengths `recvmsg` and
`recvfrom` return never exceed what was asked for. Reads stay inside the
response only when the host sends as many extents as the wrapper takes and
scalars as wide as it reads: `CheckStatusAndParamCount` asks `recvmsg` for at
least two extents where it then takes five, and no wrapper checks the width of
an extent before `next<T>()` dereferences it. -/
namespace Asylo.HostCallsProofs

open Message HostCalls

/-! ## Reads inside the response, writes within the buffers -/

/-- Whether an access reads only what the response holds: an extent below
`size()`, and bytes below that extent's size. Writes read nothing. -/
def readInside (extents : List Extent) : Access → Bool
  | .extent index => index < extents.length
  | .pastEnd _ => false
  | .bytes index offset length =>
    match extents[index]? with
    | some extent => offset + length ≤ extent.length
    | none => false
  | .null _ => false
  | .write _ _ => true

/-- Whether a write stays within what its buffer can take. -/
def writeWithin (capacity : Buffer → Nat) : Access → Bool
  | .write buffer length => length ≤ capacity buffer
  | _ => true

/-- What the buffers of a `msghdr` can take. -/
def msghdrCapacity (msg : Msghdr) : Buffer → Nat
  | .msgName => msg.msgNamelen
  | .msgIov i => msg.msgIov.getD i 0
  | .msgControl => msg.msgControllen
  | _ => 0

/-- `recvfrom`'s `buf` takes `len` bytes, and `src_addr` takes `*addrlen`. -/
def recvfromCapacity (len : Nat) (addrlen : Option Nat) : Buffer → Nat
  | .buf => len
  | .srcAddr => addrlen.getD 0
  | _ => 0

/-- `getsockopt`'s `optval` takes `*optlen` bytes. -/
def optvalCapacity (optlen : Option Nat) : Buffer → Nat
  | .optval => optlen.getD 0
  | _ => 0

/-- The address of `getsockname`, `accept` and `getpeername` takes `*addrlen`. -/
def addrCapacity (addrlen : Option Nat) : Buffer → Nat
  | .addr => addrlen.getD 0
  | _ => 0

/-- The extent the `index`-th `next()` finds: the response's, or past its end. -/
def found (env : Env) (extents : List Extent) (index : Nat) : Extent :=
  extents.getD index (env.pastEnd index)

/-! ## Steps of the reader -/

namespace Reading

@[simp] theorem next_eq (env : Env) (r : Reading) :
    r.next env = (found env r.reader.extents r.reader.pos, r.reader.pos,
      ⟨⟨r.reader.extents, r.reader.pos + 1⟩, r.log ++ [Reading.indexAccess r.reader]⟩) := rfl

@[simp] theorem nextScalar_eq (env : Env) (width : Nat) (r : Reading) :
    r.nextScalar env width =
      (Reading.scalarValue env (found env r.reader.extents r.reader.pos) width,
        ⟨⟨r.reader.extents, r.reader.pos + 1⟩, r.log ++ [Reading.indexAccess r.reader,
          Reading.objectAccess (found env r.reader.extents r.reader.pos) r.reader.pos width]⟩) := by
  simp [Reading.nextScalar]

@[simp] theorem copy_reader (r : Reading) (index offset length : Nat) (buffer : Buffer) :
    (r.copy index offset length buffer).reader = r.reader := rfl

@[simp] theorem copy_log (r : Reading) (index offset length : Nat) (buffer : Buffer) :
    (r.copy index offset length buffer).log = r.log ++ [.bytes index offset length, .write buffer length] := rfl

end Reading

@[simp] theorem writeWithin_indexAccess (capacity : Buffer → Nat) (reader : MessageReader) :
    writeWithin capacity (Reading.indexAccess reader) = true := by
  unfold Reading.indexAccess
  split <;> rfl

@[simp] theorem writeWithin_objectAccess (capacity : Buffer → Nat) (extent : Extent) (index width : Nat) :
    writeWithin capacity (Reading.objectAccess extent index width) = true := by
  unfold Reading.objectAccess
  split <;> rfl

theorem readInside_indexAccess {extents : List Extent} {index : Nat} (inside : index < extents.length) :
    readInside extents (Reading.indexAccess ⟨extents, index⟩) = true := by
  simp [Reading.indexAccess, MessageReader.size, inside, readInside]

theorem found_of_lt (env : Env) {extents : List Extent} {index : Nat} (inside : index < extents.length) :
    found env extents index = extents[index] := by
  simp [found, List.getD_eq_getElem?_getD, List.getElem?_eq_getElem inside]

theorem readInside_bytes {extents : List Extent} (env : Env) {index offset length : Nat}
    (inside : index < extents.length) (within : offset + length ≤ (found env extents index).length) :
    readInside extents (.bytes index offset length) = true := by
  rw [found_of_lt env inside] at within
  simp [readInside, List.getElem?_eq_getElem inside, within]

theorem readInside_objectAccess {extents : List Extent} (env : Env) {index width : Nat}
    (inside : index < extents.length) (wide : width ≤ (found env extents index).length) :
    readInside extents (Reading.objectAccess (found env extents index) index width) = true := by
  rw [Reading.objectAccess, if_pos wide]
  exact readInside_bytes env inside (by omega)

/-! ## The loop of `recvmsg` and the address conversion -/

section Loop

variable (index total : Nat)

@[simp] theorem scatterIov_reader :
    ∀ (r : Reading) (iovs : List Nat) (i bytesCopied : Nat),
      (scatterIov index total r iovs i bytesCopied).reader = r.reader
  | _, [], _, _ => rfl
  | r, iovLen :: rest, i, bytesCopied => by
    unfold scatterIov
    split_ifs
    · exact (scatterIov_reader _ rest _ _).trans (Reading.copy_reader ..)
    · rfl

/-- Every access the loop adds copies out of the first `total` bytes of its
extent into one iovec, no more than that iovec's length. -/
theorem scatterIov_keeps (P : Access → Prop) :
    ∀ (iovs : List Nat) (r : Reading) (i bytesCopied : Nat),
      (∀ j (inList : j < iovs.length) offset, offset < total →
        P (.bytes index offset (min iovs[j] (total - offset))) ∧
          P (.write (.msgIov (i + j)) (min iovs[j] (total - offset)))) →
      (∀ a ∈ r.log, P a) → ∀ a ∈ (scatterIov index total r iovs i bytesCopied).log, P a := by
  intro iovs
  induction iovs with
  | nil => intro r _ _ _ kept; exact kept
  | cons iovLen rest ih =>
    intro r i bytesCopied copies kept
    unfold scatterIov
    split_ifs with left
    · -- this iovec is copies' `j = 0`; the rest are its `j + 1`
      have first := copies 0 (by simp) bytesCopied left
      simp only [List.getElem_cons_zero, Nat.add_zero] at first
      have later : ∀ j (inRest : j < rest.length) offset, offset < total →
          P (.bytes index offset (min rest[j] (total - offset))) ∧
            P (.write (.msgIov (i + 1 + j)) (min rest[j] (total - offset))) := by
        intro j inRest offset below
        have copied := copies (j + 1) (by simp only [List.length_cons]; omega) offset below
        rw [List.getElem_cons_succ] at copied
        rwa [show i + (j + 1) = i + 1 + j by omega] at copied
      apply ih _ (i + 1) _ later
      simp only [Reading.copy_log, List.mem_append, List.mem_cons, List.not_mem_nil, or_false]
      rintro a (old | rfl | rfl)
      · exact kept a old
      · exact first.1
      · exact first.2
    · exact kept

end Loop

section SockAddr

variable (P : Access → Prop) (r : Reading) (extent : Extent) (index : Nat) (output : Buffer)

theorem copySockaddr_reader (capacity inputSize sourceLen : Nat) :
    (copySockaddr r extent index output capacity inputSize sourceLen).2.2.reader = r.reader := by
  unfold copySockaddr
  split_ifs <;> rfl

/-- A family's branch reads the rest of its input structure, inside the
extent, and writes no more than the buffer takes. -/
theorem copySockaddr_keeps (capacity inputSize sourceLen : Nat) (header : 2 ≤ inputSize)
    (reads : ∀ offset length, offset + length ≤ extent.length → P (.bytes index offset length))
    (writes : ∀ length, length ≤ capacity → P (.write output length))
    (kept : ∀ a ∈ r.log, P a) :
    ∀ a ∈ (copySockaddr r extent index output capacity inputSize sourceLen).2.2.log, P a := by
  unfold copySockaddr
  split_ifs with short
  · exact kept
  · simp only [List.mem_append, List.mem_cons, List.not_mem_nil, or_false]
    rintro a (old | rfl | rfl)
    · exact kept a old
    · exact reads 2 (inputSize - 2) (by omega)
    · exact writes _ (Nat.min_le_left _ _)

@[simp] theorem fromkLinuxSockAddr_reader (outputPresent : Bool) (outputLen : Option Nat) :
    (fromkLinuxSockAddr r extent index output outputPresent outputLen).2.2.reader = r.reader := by
  unfold fromkLinuxSockAddr
  split
  · dsimp only
    split_ifs <;> simp only [copySockaddr_reader]
  · rfl

/-- `FromkLinuxSockAddr` reads inside the extent it is given and writes no
more than `*output_len` into `output`. -/
theorem fromkLinuxSockAddr_keeps (outputPresent : Bool) (outputLen : Option Nat)
    (reads : ∀ offset length, offset + length ≤ extent.length → P (.bytes index offset length))
    (writes : ∀ capacity length, outputLen = some capacity → length ≤ capacity →
      P (.write output length))
    (kept : ∀ a ∈ r.log, P a) {result : Except String Bool} {len : Option Nat} {after : Reading}
    (converted : fromkLinuxSockAddr r extent index output outputPresent outputLen = (result, len, after)) :
    ∀ a ∈ after.log, P a := by
  obtain rfl : after = (fromkLinuxSockAddr r extent index output outputPresent outputLen).2.2 := by
    rw [converted]
  unfold fromkLinuxSockAddr
  split
  · rename_i header capacity whole
    -- `As` gave a header only for a whole `klinux_sockaddr`
    have wide : sizeofKlinuxSockaddr ≤ extent.length := by
      unfold extentAs at whole
      split_ifs at whole with fits
      exact fits
    have family : ∀ a ∈ r.log ++ [.bytes index 0 2], P a := by
      simp only [List.mem_append, List.mem_cons, List.not_mem_nil, or_false]
      rintro a (old | rfl)
      · exact kept a old
      · exact reads 0 2 (by simp only [sizeofKlinuxSockaddr] at wide; omega)
    have branch := fun inputSize sourceLen (header : 2 ≤ inputSize) =>
      copySockaddr_keeps P { r with log := r.log ++ [.bytes index 0 2] } extent index output
        capacity inputSize sourceLen header reads (writes capacity · rfl) family
    dsimp only
    split_ifs
    · exact branch _ _ (by decide)
    · exact branch _ _ (by decide)
    · exact branch _ _ (by decide)
    · exact family
    · exact family
  · exact kept

/-- A family's branch that converts sets `*output_len` to the size of its `sockaddr`. -/
theorem copySockaddr_converted {capacity inputSize sourceLen : Nat} {len : Option Nat}
    {after : Reading}
    (converted : copySockaddr r extent index output capacity inputSize sourceLen = (.ok true, len, after)) :
    len = some sourceLen := by
  unfold copySockaddr at converted
  split_ifs at converted
  · simp at converted
  · simp_all

/-- An address `FromkLinuxSockAddr` converted comes with the size of a
supported family's `sockaddr`, or none for `AF_UNSPEC`. -/
theorem fromkLinuxSockAddr_converted (outputPresent : Bool) (outputLen : Option Nat)
    {len : Option Nat} {after : Reading}
    (converted : fromkLinuxSockAddr r extent index output outputPresent outputLen = (.ok true, len, after)) :
    len ∈ [some 0, some sizeofSockaddrUn, some sizeofSockaddrIn, some sizeofSockaddrIn6] := by
  unfold fromkLinuxSockAddr at converted
  split at converted
  · dsimp only at converted
    split_ifs at converted
    · simp [copySockaddr_converted _ _ _ _ converted]
    · simp [copySockaddr_converted _ _ _ _ converted]
    · simp [copySockaddr_converted _ _ _ _ converted]
    · simp_all
    · simp at converted
  · simp at converted

end SockAddr

/-! ## `CheckStatusAndParamCount` -/

/-- A reader that passes the check came from a host call that succeeded. -/
theorem checkStatusAndParamCount_ok {ok : Bool} {output : MessageReader} {name : String}
    {expectedParams : Nat} {matchExactParams : Bool}
    (passed : checkStatusAndParamCount ok output name expectedParams matchExactParams = none) :
    ok = true := by
  unfold checkStatusAndParamCount at passed
  cases ok <;> simp_all

/-- Past the exact check the reader holds exactly the extents asked for. -/
theorem checkStatusAndParamCount_exact {ok : Bool} {output : MessageReader} {name : String}
    {expectedParams : Nat}
    (passed : checkStatusAndParamCount ok output name expectedParams true = none) :
    output.size = expectedParams := by
  simp only [checkStatusAndParamCount, Bool.not_true, Bool.false_eq_true, if_false] at passed
  split_ifs at passed with failed count
  exact Decidable.of_not_not count

/-- Past the other check it holds at least that many: no more is known of it. -/
theorem checkStatusAndParamCount_atLeast {ok : Bool} {output : MessageReader} {name : String}
    {expectedParams : Nat}
    (passed : checkStatusAndParamCount ok output name expectedParams false = none) :
    expectedParams ≤ output.size := by
  simp only [checkStatusAndParamCount, Bool.not_false, if_true] at passed
  split_ifs at passed with failed count
  exact Nat.le_of_not_lt count

/-! ## What each wrapper can access -/

/-- The length `recvmsg` and `getsockopt` keep for a buffer: the extent's size
when the buffer takes it, else the buffer's. Neither is exceeded. -/
theorem keptLength_le (extentSize capacity : Nat) :
    (if extentSize ≤ capacity then extentSize else capacity) ≤ capacity ∧
      (if extentSize ≤ capacity then extentSize else capacity) ≤ extentSize := by
  split <;> omega

/-- `getsockname`, `accept` and `getpeername` take three extents, read a
four-byte scalar off each of the first two, read inside the third and write no
more than `*addrlen` into the address. -/
theorem receiveSockAddr_keeps (P : Access → Prop) (env : Env) (name : String) (addr : Bool)
    (addrlen : Option Nat) (response : Response)
    (taken : ∀ i < 3, P (Reading.indexAccess ⟨response.extents, i⟩))
    (scalars : P (Reading.objectAccess (found env response.extents 0) 0 4) ∧
      P (Reading.objectAccess (found env response.extents 1) 1 4))
    (reads : ∀ offset length, offset + length ≤ (found env response.extents 2).length →
      P (.bytes 2 offset length))
    (writes : ∀ length, length ≤ addrCapacity addrlen .addr → P (.write .addr length)) :
    ∀ a ∈ (receiveSockAddr env name addr addrlen response).2.2.2, P a := by
  have writesAddr : ∀ capacity length, addrlen = some capacity → length ≤ capacity →
      P (.write .addr length) := by
    intro capacity length given within
    exact writes length (by simpa [addrCapacity, given] using within)
  unfold receiveSockAddr
  simp only [Reading.start, Reading.nextScalar_eq, Reading.next_eq]
  split
  · simp
  · split_ifs
    · simpa using ⟨taken 0 (by decide), scalars.1, taken 1 (by decide), scalars.2⟩
    · -- the address is the third extent taken
      have before := (⟨taken 0 (by decide), scalars.1, taken 1 (by decide), scalars.2, taken 2 (by decide)⟩ : P _ ∧ P _ ∧ P _ ∧ P _ ∧ P _)
      split
      all_goals
        rename_i conversion
        exact fromkLinuxSockAddr_keeps P _ _ _ _ _ _ reads writesAddr (by simpa using before) conversion

/-- `recvmsg` takes five extents, reads an eight-byte and a four-byte scalar off
the first two, reads inside the other three, and writes no more than each
buffer of the `msghdr` takes. -/
theorem encUntrustedRecvmsg_keeps (P : Access → Prop) (env : Env) (msg : Msghdr) (response : Response)
    (taken : ∀ i < 5, P (Reading.indexAccess ⟨response.extents, i⟩))
    (scalars : P (Reading.objectAccess (found env response.extents 0) 0 8) ∧
      P (Reading.objectAccess (found env response.extents 1) 1 4))
    (reads : ∀ i offset length, 2 ≤ i → i < 5 →
      offset + length ≤ (found env response.extents i).length → P (.bytes i offset length))
    (writes : ∀ buffer length, length ≤ msghdrCapacity msg buffer → P (.write buffer length)) :
    ∀ a ∈ (encUntrustedRecvmsg env msg response).2.2, P a := by
  have scalarsRead := (⟨taken 0 (by decide), scalars.1, taken 1 (by decide), scalars.2⟩ :
    P _ ∧ P _ ∧ P _ ∧ P _)
  unfold encUntrustedRecvmsg
  simp only [Reading.start, Reading.nextScalar_eq, Reading.next_eq]
  split
  · simp
  · split
    · simpa using scalarsRead
    · split
      · simpa using scalarsRead
      · -- name, iovecs and control are the third, fourth and fifth extents taken
        have name := keptLength_le (found env response.extents 2).length msg.msgNamelen
        have control := keptLength_le (found env response.extents 4).length msg.msgControllen
        have iovecs : ∀ j (inList : j < msg.msgIov.length) offset,
            offset < (found env response.extents 3).length →
            P (.bytes 3 offset (min msg.msgIov[j] ((found env response.extents 3).length - offset))) ∧
              P (.write (.msgIov (0 + j))
                (min msg.msgIov[j] ((found env response.extents 3).length - offset))) := by
          intro j inList offset below
          refine ⟨reads 3 _ _ (by decide) (by decide) (by omega), writes _ _ ?_⟩
          simp only [msghdrCapacity, Nat.zero_add, List.getD_eq_getElem?_getD,
            List.getElem?_eq_getElem inList, Option.getD_some]
          exact Nat.min_le_left _ _
        simp only [Reading.copy_log, Reading.copy_reader, scatterIov_reader, Nat.zero_add,
          Nat.reduceAdd, List.forall_mem_append, List.forall_mem_cons, List.nil_append,
          List.not_mem_nil, IsEmpty.forall_iff, implies_true, and_true, and_assoc]
        refine ⟨scatterIov_keeps 3 _ P msg.msgIov _ 0 0 iovecs ?_, taken 4 (by decide),
          reads 4 0 _ (by decide) (by decide) (by omega), writes _ _ control.1⟩
        simp only [List.forall_mem_append, List.forall_mem_cons, List.not_mem_nil,
          IsEmpty.forall_iff, implies_true, and_true, and_assoc]
        exact ⟨scalarsRead.1, scalarsRead.2.1, scalarsRead.2.2.1, scalarsRead.2.2.2,
          taken 2 (by decide), reads 2 0 _ (by decide) (by decide) (by omega),
          writes _ _ name.1, taken 3 (by decide)⟩

/-- `recvfrom` takes four extents, or three when it has no address to fill,
reads two four-byte scalars off the first two, reads inside the others, and
writes no more than `len` into `buf` and `*addrlen` into `src_addr`. -/
theorem encUntrustedRecvfrom_keeps (P : Access → Prop) (env : Env) (len : Nat) (flags : Int)
    (srcAddr : Bool) (addrlen : Option Nat) (response : Response)
    (taken : ∀ i < 4, P (Reading.indexAccess ⟨response.extents, i⟩))
    (scalars : P (Reading.objectAccess (found env response.extents 0) 0 4) ∧
      P (Reading.objectAccess (found env response.extents 1) 1 4))
    (reads : ∀ i offset length, 2 ≤ i → i < 4 →
      offset + length ≤ (found env response.extents i).length → P (.bytes i offset length))
    (writes : ∀ buffer length, length ≤ recvfromCapacity len addrlen buffer →
      P (.write buffer length)) :
    ∀ a ∈ (encUntrustedRecvfrom env len flags srcAddr addrlen response).2.2, P a := by
  have scalarsRead := (⟨taken 0 (by decide), scalars.1, taken 1 (by decide), scalars.2⟩ : P _ ∧ P _ ∧ P _ ∧ P _)
  have writesSrc : ∀ capacity length, addrlen = some capacity → length ≤ capacity →
      P (.write .srcAddr length) := by
    intro capacity length given within
    exact writes _ length (by simpa [recvfromCapacity, given] using within)
  unfold encUntrustedRecvfrom
  split
  · simp
  · simp only [Reading.start, Reading.nextScalar_eq, Reading.next_eq]
    split
    · simp
    · split
      · simpa using scalarsRead
      · split
        · simpa using scalarsRead
        · -- the received bytes are the third extent taken, the address the fourth
          have received := (⟨scalarsRead, taken 2 (by decide),
            reads 2 0 (min len (found env response.extents 2).length) (by decide) (by decide)
              (by omega),
            writes .buf (min len (found env response.extents 2).length) (Nat.min_le_left _ _)⟩ :
            _ ∧ P _ ∧ P _ ∧ P _)
          split
          · have before := (⟨received, taken 3 (by decide)⟩ : _ ∧ P _)
            split
            all_goals
              rename_i conversion
              exact fromkLinuxSockAddr_keeps P _ _ _ _ _ _ (reads 3 · · (by decide) (by decide))
                writesSrc (by simpa [and_assoc] using before) conversion
          · simpa [and_assoc] using received

/-- `getsockopt` takes three extents, reads two four-byte scalars off the first
two, reads inside the third, and writes no more than `*optlen` into `optval`. -/
theorem encUntrustedGetsockopt_keeps (P : Access → Prop) (env : Env) (level optname : Int)
    (optval : Bool) (optlen : Option Nat) (response : Response)
    (taken : ∀ i < 3, P (Reading.indexAccess ⟨response.extents, i⟩))
    (scalars : P (Reading.objectAccess (found env response.extents 0) 0 4) ∧
      P (Reading.objectAccess (found env response.extents 1) 1 4))
    (reads : ∀ offset length, offset + length ≤ (found env response.extents 2).length →
      P (.bytes 2 offset length))
    (writes : ∀ length, length ≤ optvalCapacity optlen .optval → P (.write .optval length)) :
    ∀ a ∈ (encUntrustedGetsockopt env level optname optval optlen response).2.2, P a := by
  -- the option's extent is taken before the result is looked at
  have taken3 := (⟨taken 0 (by decide), scalars.1, taken 1 (by decide), scalars.2, taken 2 (by decide)⟩ : P _ ∧ P _ ∧ P _ ∧ P _ ∧ P _)
  unfold encUntrustedGetsockopt
  split
  next _ _ _ _ capacity _ =>
    split
    · simp
    · simp only [Reading.start, Reading.nextScalar_eq, Reading.next_eq]
      split
      · simp
      · split
        · simpa using taken3
        · have kept := keptLength_le (found env response.extents 2).length capacity
          simpa [and_assoc] using (⟨taken3, reads 0 _ (by omega),
            writes _ (by simpa [optvalCapacity] using kept.1)⟩ : _ ∧ P _ ∧ P _)
  · simp

/-! ## Writes stay within the caller's buffers -/

/-- `writeWithin` holds of every access the wrappers take as given: taking an
extent and reading a scalar write nothing, and reads write nothing. -/
theorem writeWithin_bytes (capacity : Buffer → Nat) (index offset length : Nat) :
    writeWithin capacity (.bytes index offset length) = true := rfl

theorem writeWithin_write {capacity : Buffer → Nat} {buffer : Buffer} {length : Nat}
    (within : length ≤ capacity buffer) : writeWithin capacity (.write buffer length) = true := by
  simp [writeWithin, within]

theorem recvmsg_writes_within (env : Env) (msg : Msghdr) (response : Response) :
    ∀ a ∈ (encUntrustedRecvmsg env msg response).2.2, writeWithin (msghdrCapacity msg) a = true :=
  encUntrustedRecvmsg_keeps _ env msg response (fun _ _ => writeWithin_indexAccess ..)
    ⟨writeWithin_objectAccess .., writeWithin_objectAccess ..⟩
    (fun _ _ _ _ _ _ => writeWithin_bytes ..) (fun _ _ within => writeWithin_write within)

/-- Translations that keep every value, and nothing past the end of a response. -/
def plainEnv : Env := ⟨id, some, fun _ optname => some optname, fun _ => [], []⟩

/-- Four bytes received into a single iovec of four. -/
theorem recvmsg_writes_within_one_iovec :
    Access.write (.msgIov 0) 4 ∈
        (encUntrustedRecvmsg plainEnv ⟨0, [4], 0⟩ ⟨true, [[4, 0, 0, 0, 0, 0, 0, 0], [0, 0, 0, 0], [], [1, 2, 3, 4], []]⟩).2.2 ∧
      writeWithin (msghdrCapacity ⟨0, [4], 0⟩) (.write (.msgIov 0) 4) = true :=
  ⟨by decide, recvmsg_writes_within plainEnv ⟨0, [4], 0⟩
    ⟨true, [[4, 0, 0, 0, 0, 0, 0, 0], [0, 0, 0, 0], [], [1, 2, 3, 4], []]⟩ _ (by decide)⟩

theorem recvfrom_writes_within (env : Env) (len : Nat) (flags : Int) (srcAddr : Bool)
    (addrlen : Option Nat) (response : Response) :
    ∀ a ∈ (encUntrustedRecvfrom env len flags srcAddr addrlen response).2.2,
      writeWithin (recvfromCapacity len addrlen) a = true :=
  encUntrustedRecvfrom_keeps _ env len flags srcAddr addrlen response
    (fun _ _ => writeWithin_indexAccess ..) ⟨writeWithin_objectAccess .., writeWithin_objectAccess ..⟩
    (fun _ _ _ _ _ _ => writeWithin_bytes ..) (fun _ _ within => writeWithin_write within)

/-- Four bytes received into a buffer of four, without a source address. -/
theorem recvfrom_writes_within_four_bytes :
    Access.write .buf 4 ∈
        (encUntrustedRecvfrom plainEnv 4 0 false none ⟨true, [[4, 0, 0, 0, 0, 0, 0, 0], [0, 0, 0, 0], [1, 2, 3, 4], []]⟩).2.2 ∧
      writeWithin (recvfromCapacity 4 none) (.write .buf 4) = true :=
  ⟨by decide, recvfrom_writes_within plainEnv 4 0 false none
    ⟨true, [[4, 0, 0, 0, 0, 0, 0, 0], [0, 0, 0, 0], [1, 2, 3, 4], []]⟩ _ (by decide)⟩

theorem getsockopt_writes_within (env : Env) (level optname : Int) (optval : Bool)
    (optlen : Option Nat) (response : Response) :
    ∀ a ∈ (encUntrustedGetsockopt env level optname optval optlen response).2.2,
      writeWithin (optvalCapacity optlen) a = true :=
  encUntrustedGetsockopt_keeps _ env level optname optval optlen response
    (fun _ _ => writeWithin_indexAccess ..) ⟨writeWithin_objectAccess .., writeWithin_objectAccess ..⟩
    (fun _ _ _ => writeWithin_bytes ..) (fun _ within => writeWithin_write within)

/-- A four-byte option value. -/
theorem getsockopt_writes_within_four_bytes :
    Access.write .optval 4 ∈
        (encUntrustedGetsockopt plainEnv 1 1 true (some 4) ⟨true, [[0, 0, 0, 0], [0, 0, 0, 0], [1, 0, 0, 0]]⟩).2.2 ∧
      writeWithin (optvalCapacity (some 4)) (.write .optval 4) = true :=
  ⟨by decide, getsockopt_writes_within plainEnv 1 1 true (some 4)
    ⟨true, [[0, 0, 0, 0], [0, 0, 0, 0], [1, 0, 0, 0]]⟩ _ (by decide)⟩

theorem receiveSockAddr_writes_within (env : Env) (name : String) (addr : Bool)
    (addrlen : Option Nat) (response : Response) :
    ∀ a ∈ (receiveSockAddr env name addr addrlen response).2.2.2,
      writeWithin (addrCapacity addrlen) a = true :=
  receiveSockAddr_keeps _ env name addr addrlen response
    (fun _ _ => writeWithin_indexAccess ..) ⟨writeWithin_objectAccess .., writeWithin_objectAccess ..⟩
    (fun _ _ _ => writeWithin_bytes ..) (fun _ within => writeWithin_write within)

/-- The address calls make the accesses of `receiveSockAddr`, or none when
`getsockname` turns its arguments down. -/
theorem getsockname_log (env : Env) (addr : Bool) (addrlen : Option Nat) (response : Response) :
    (encUntrustedGetsockname env addr addrlen response).2.2 = [] ∨
      (encUntrustedGetsockname env addr addrlen response).2.2 =
        (receiveSockAddr env "enc_untrusted_getsockname" addr addrlen response).2.2.2 := by
  unfold encUntrustedGetsockname
  split
  · split_ifs
    · exact Or.inl rfl
    · right
      split <;> simp_all
  · exact Or.inl rfl

theorem getpeername_log (env : Env) (addr : Bool) (addrlen : Option Nat) (response : Response) :
    (encUntrustedGetpeername env addr addrlen response).2.2 = [] ∨
      (encUntrustedGetpeername env addr addrlen response).2.2 =
        (receiveSockAddr env "enc_untrusted_getpeername" addr addrlen response).2.2.2 := by
  unfold encUntrustedGetpeername
  split
  · split_ifs
    · exact Or.inl rfl
    · exact Or.inr rfl
  · exact Or.inl rfl

theorem accept_log (env : Env) (addr : Bool) (addrlen : Option Nat) (response : Response) :
    (encUntrustedAccept env addr addrlen response).2.2 =
      (receiveSockAddr env "enc_untrusted_accept" addr addrlen response).2.2.2 := rfl

/-- The writes of `getsockname`, `accept` and `getpeername` stay within
`*addrlen`. -/
theorem sockaddr_calls_write_within (env : Env) (addr : Bool) (addrlen : Option Nat)
    (response : Response) :
    (∀ a ∈ (encUntrustedGetsockname env addr addrlen response).2.2,
      writeWithin (addrCapacity addrlen) a = true) ∧
    (∀ a ∈ (encUntrustedAccept env addr addrlen response).2.2,
      writeWithin (addrCapacity addrlen) a = true) ∧
    (∀ a ∈ (encUntrustedGetpeername env addr addrlen response).2.2,
      writeWithin (addrCapacity addrlen) a = true) := by
  refine ⟨?_, receiveSockAddr_writes_within env _ addr addrlen response, ?_⟩
  · rcases getsockname_log env addr addrlen response with none | same
    · simp [none]
    · rw [same]
      exact receiveSockAddr_writes_within env _ addr addrlen response
  · rcases getpeername_log env addr addrlen response with none | same
    · simp [none]
    · rw [same]
      exact receiveSockAddr_writes_within env _ addr addrlen response

/-! ## Reads stay inside a response of the expected shape -/

theorem found_wide (env : Env) {extents : List Extent} {index width : Nat}
    (inside : index < extents.length) (wide : width ≤ (extents.getD index []).length) :
    width ≤ (found env extents index).length := by
  simpa [found, List.getD_eq_getElem?_getD, List.getElem?_eq_getElem inside] using wide

/-- Whenever `recvfrom` reads anything, the host sent the four extents it asks for. -/
theorem recvfrom_count (env : Env) (len : Nat) (flags : Int) (srcAddr : Bool)
    (addrlen : Option Nat) (response : Response)
    (touched : (encUntrustedRecvfrom env len flags srcAddr addrlen response).2.2 ≠ []) :
    response.extents.length = 4 := by
  unfold encUntrustedRecvfrom at touched
  split at touched
  · simp at touched
  · cases passed : checkStatusAndParamCount response.ok ⟨response.extents, 0⟩
        "enc_untrusted_recvfrom" 4 true with
    | some message => simp [passed] at touched
    | none => exact checkStatusAndParamCount_exact passed

theorem getsockopt_count (env : Env) (level optname : Int) (optval : Bool) (optlen : Option Nat)
    (response : Response)
    (touched : (encUntrustedGetsockopt env level optname optval optlen response).2.2 ≠ []) :
    response.extents.length = 3 := by
  unfold encUntrustedGetsockopt at touched
  split at touched
  · split at touched
    · simp at touched
    · cases passed : checkStatusAndParamCount response.ok ⟨response.extents, 0⟩
          "enc_untrusted_getsockopt" 3 true with
      | some message => simp [passed] at touched
      | none => exact checkStatusAndParamCount_exact passed
  · simp at touched

theorem receiveSockAddr_count (env : Env) (name : String) (addr : Bool) (addrlen : Option Nat)
    (response : Response)
    (touched : (receiveSockAddr env name addr addrlen response).2.2.2 ≠ []) :
    response.extents.length = 3 := by
  unfold receiveSockAddr at touched
  cases passed : checkStatusAndParamCount response.ok ⟨response.extents, 0⟩ name 3 true with
  | some message => simp [passed] at touched
  | none => exact checkStatusAndParamCount_exact passed

/-- When the host sends the five extents `recvmsg` takes, with a result and an
errno as wide as `ssize_t` and `int`, `recvmsg` reads only what it sent. -/
theorem recvmsg_reads_inside (env : Env) (msg : Msghdr) (response : Response)
    (enough : 5 ≤ response.extents.length)
    (wide : 8 ≤ (response.extents.getD 0 []).length ∧ 4 ≤ (response.extents.getD 1 []).length) :
    ∀ a ∈ (encUntrustedRecvmsg env msg response).2.2, readInside response.extents a = true :=
  encUntrustedRecvmsg_keeps _ env msg response (fun _ taken => readInside_indexAccess (by omega))
    ⟨readInside_objectAccess env (by omega) (found_wide env (by omega) wide.1),
      readInside_objectAccess env (by omega) (found_wide env (by omega) wide.2)⟩
    (fun _ _ _ _ taken within => readInside_bytes env (by omega) within) (fun _ _ _ => rfl)

/-- The other wrappers check the count themselves: when the result and the errno
are as wide as an `int`, they read only what the host sent. -/
theorem recvfrom_reads_inside (env : Env) (len : Nat) (flags : Int) (srcAddr : Bool)
    (addrlen : Option Nat) (response : Response)
    (wide : 4 ≤ (response.extents.getD 0 []).length ∧ 4 ≤ (response.extents.getD 1 []).length) :
    ∀ a ∈ (encUntrustedRecvfrom env len flags srcAddr addrlen response).2.2,
      readInside response.extents a = true := by
  by_cases touched : (encUntrustedRecvfrom env len flags srcAddr addrlen response).2.2 = []
  · simp [touched]
  have four := recvfrom_count env len flags srcAddr addrlen response touched
  exact encUntrustedRecvfrom_keeps _ env len flags srcAddr addrlen response
    (fun _ taken => readInside_indexAccess (by omega))
    ⟨readInside_objectAccess env (by omega) (found_wide env (by omega) wide.1),
      readInside_objectAccess env (by omega) (found_wide env (by omega) wide.2)⟩
    (fun _ _ _ _ taken within => readInside_bytes env (by omega) within) (fun _ _ _ => rfl)

theorem getsockopt_reads_inside (env : Env) (level optname : Int) (optval : Bool)
    (optlen : Option Nat) (response : Response)
    (wide : 4 ≤ (response.extents.getD 0 []).length ∧ 4 ≤ (response.extents.getD 1 []).length) :
    ∀ a ∈ (encUntrustedGetsockopt env level optname optval optlen response).2.2,
      readInside response.extents a = true := by
  by_cases touched : (encUntrustedGetsockopt env level optname optval optlen response).2.2 = []
  · simp [touched]
  have three := getsockopt_count env level optname optval optlen response touched
  exact encUntrustedGetsockopt_keeps _ env level optname optval optlen response
    (fun _ taken => readInside_indexAccess (by omega))
    ⟨readInside_objectAccess env (by omega) (found_wide env (by omega) wide.1),
      readInside_objectAccess env (by omega) (found_wide env (by omega) wide.2)⟩
    (fun _ _ within => readInside_bytes env (by omega) within) (fun _ _ => rfl)

theorem receiveSockAddr_reads_inside (env : Env) (name : String) (addr : Bool)
    (addrlen : Option Nat) (response : Response)
    (wide : 4 ≤ (response.extents.getD 0 []).length ∧ 4 ≤ (response.extents.getD 1 []).length) :
    ∀ a ∈ (receiveSockAddr env name addr addrlen response).2.2.2,
      readInside response.extents a = true := by
  by_cases touched : (receiveSockAddr env name addr addrlen response).2.2.2 = []
  · simp [touched]
  have three := receiveSockAddr_count env name addr addrlen response touched
  exact receiveSockAddr_keeps _ env name addr addrlen response
    (fun _ taken => readInside_indexAccess (by omega))
    ⟨readInside_objectAccess env (by omega) (found_wide env (by omega) wide.1),
      readInside_objectAccess env (by omega) (found_wide env (by omega) wide.2)⟩
    (fun _ _ within => readInside_bytes env (by omega) within) (fun _ _ => rfl)

/-- `getsockname`, `accept` and `getpeername` read only what the host sent when
the result and the errno are as wide as an `int`. -/
theorem sockaddr_calls_read_inside (env : Env) (addr : Bool) (addrlen : Option Nat)
    (response : Response)
    (wide : 4 ≤ (response.extents.getD 0 []).length ∧ 4 ≤ (response.extents.getD 1 []).length) :
    (∀ a ∈ (encUntrustedGetsockname env addr addrlen response).2.2,
      readInside response.extents a = true) ∧
    (∀ a ∈ (encUntrustedAccept env addr addrlen response).2.2,
      readInside response.extents a = true) ∧
    (∀ a ∈ (encUntrustedGetpeername env addr addrlen response).2.2,
      readInside response.extents a = true) := by
  refine ⟨?_, receiveSockAddr_reads_inside env _ addr addrlen response wide, ?_⟩
  · rcases getsockname_log env addr addrlen response with none | same
    · simp [none]
    · rw [same]
      exact receiveSockAddr_reads_inside env _ addr addrlen response wide
  · rcases getpeername_log env addr addrlen response with none | same
    · simp [none]
    · rw [same]
      exact receiveSockAddr_reads_inside env _ addr addrlen response wide

/-! ## A host that sends too little -/

/-- Translations that leave values as they are; past the end of the reader's
vector lie sixteen bytes `0xAA`, and nothing at the null pointer. -/
def sampleEnv : Env := ⟨id, some, fun _ optname => some optname, fun _ => List.replicate 16 0xAA, []⟩

/-- `recvmsg` accepts an answer of only a result (5) and an errno, then copies
the name and the received data from past the end of the reader into the
caller's buffers. `accept` accepts three empty extents and reads its result and
errno through null pointers. Both return normally. -/
theorem socket_host_calls_read_outside_response :
    encUntrustedRecvmsg sampleEnv ⟨16, [16], 0⟩
        ⟨true, [LittleEndian.encode 8 5, LittleEndian.encode 4 0]⟩ =
      (.returned 5, ⟨16, [16], 0⟩,
        [.extent 0, .bytes 0 0 8, .extent 1, .bytes 1 0 4,
          .pastEnd 2, .bytes 2 0 16, .write .msgName 16,
          .pastEnd 3, .bytes 3 0 16, .write (.msgIov 0) 16,
          .pastEnd 4, .bytes 4 0 0, .write .msgControl 0]) ∧
    encUntrustedAccept sampleEnv true (some 16) ⟨true, [[], [], []]⟩ =
      (.returned 0, some 16, [.extent 0, .null 4, .extent 1, .null 4, .extent 2]) := by
  decide +kernel

/-! ## The lengths returned -/

theorem scalarValue_lt (env : Env) (extent : Extent) (width : Nat) :
    Reading.scalarValue env extent width < 2 ^ (8 * width) := by
  have short : ∀ bytes : List UInt8, bytes.length ≤ width →
      LittleEndian.decode bytes < 2 ^ (8 * width) := by
    intro bytes within
    calc LittleEndian.decode bytes < 256 ^ bytes.length := LittleEndian.decode_lt bytes
      _ ≤ 256 ^ width := Nat.pow_le_pow_right (by decide) within
      _ = 2 ^ (8 * width) := by rw [Nat.pow_mul]
  unfold Reading.scalarValue extentAs
  split
  · rename_i bytes taken
    split_ifs at taken
    cases taken
    exact short _ (List.length_take_le _ _)
  · exact short _ (List.length_take_le _ _)

theorem toSigned_lt {width value : Nat} (small : value < 2 ^ (8 * width)) :
    toSigned width value < 2 ^ (8 * width) := by
  have cast : (value : Int) < 2 ^ (8 * width) := by exact_mod_cast small
  unfold toSigned
  generalize (2 : Int) ^ (8 * width) = bound at cast ⊢
  split <;> omega

/-- A result that passes `result > requested`, compared as a `size_t`, is at most
what was requested. -/
theorem le_of_not_lt_size {result : Int} (small : result < 2 ^ 64) {requested : Nat}
    (passed : ¬ requested < (result % 2 ^ 64).toNat) : result ≤ requested := by
  by_cases negative : result < 0
  · omega
  · rw [Int.emod_eq_of_lt (by omega) small] at passed
    omega

/-- `recvmsg` never returns more than the iovecs can take. -/
theorem recvmsg_result_le (env : Env) (msg : Msghdr) (response : Response) {result : Int}
    (returned : (encUntrustedRecvmsg env msg response).1 = .returned result) :
    result ≤ calculateTotalMessageSize msg := by
  unfold encUntrustedRecvmsg at returned
  simp only [Reading.start, Reading.nextScalar_eq] at returned
  split at returned
  · simp at returned
  · set value := toSigned 8 (Reading.scalarValue env (found env response.extents 0) 8)
    by_cases failed : value = -1
    · simp [failed] at returned
    by_cases exceeds : calculateTotalMessageSize msg < (value % 2 ^ 64).toNat
    · rw [if_neg failed, if_pos exceeds] at returned
      simp at returned
    -- what follows the two checks returns `result` as it was read
    simp only [if_neg failed, if_neg exceeds, Reading.next_eq, Outcome.returned.injEq] at returned
    have small := toSigned_lt (scalarValue_lt env (found env response.extents 0) 8)
    rw [← returned]
    exact le_of_not_lt_size (by omega) exceeds

/-- `recvfrom` never returns more than `len`. -/
theorem recvfrom_result_le (env : Env) (len : Nat) (flags : Int) (srcAddr : Bool)
    (addrlen : Option Nat) (response : Response) {result : Int}
    (returned : (encUntrustedRecvfrom env len flags srcAddr addrlen response).1 = .returned result) :
    result ≤ len := by
  unfold encUntrustedRecvfrom at returned
  simp only [Reading.start, Reading.nextScalar_eq] at returned
  split at returned
  · simp at returned
  · split at returned
    · simp at returned
    · set value := toSigned 4 (Reading.scalarValue env (found env response.extents 0) 4)
      by_cases failed : value = -1
      · simp [failed] at returned
      by_cases exceeds : len < (value % 2 ^ 64).toNat
      · rw [if_neg failed, if_pos exceeds] at returned
        simp at returned
      have small := toSigned_lt (scalarValue_lt env (found env response.extents 0) 4)
      have bound : value ≤ len := le_of_not_lt_size (by omega) exceeds
      rw [if_neg failed, if_neg exceeds] at returned
      simp only [Reading.next_eq] at returned
      -- with or without an address to fill, what returns is `result` as it was read
      split at returned
      · split at returned
        · simp at returned
        · rw [← Outcome.returned.inj returned]
          exact bound
      · rw [← Outcome.returned.inj returned]
        exact bound

/-! ## Where `getsockname` and `getpeername` differ -/

/-- `receiveSockAddr` returns normally with a converted address only when
`FromkLinuxSockAddr` converted one. -/
theorem receiveSockAddr_converted (env : Env) (name : String) (addr : Bool) (addrlen : Option Nat)
    (response : Response) {result : Int} {len : Option Nat} {log : List Access}
    (returned : receiveSockAddr env name addr addrlen response = (.returned result, true, len, log)) :
    len ∈ [some 0, some sizeofSockaddrUn, some sizeofSockaddrIn, some sizeofSockaddrIn6] := by
  unfold receiveSockAddr at returned
  simp only [Reading.start, Reading.nextScalar_eq, Reading.next_eq] at returned
  split at returned
  · simp at returned
  · split_ifs at returned
    · simp at returned
    · split at returned
      · simp at returned
      next converted =>
        simp only [Prod.mk.injEq] at returned
        obtain ⟨-, rfl, rfl, -⟩ := returned
        exact fromkLinuxSockAddr_converted _ _ _ _ _ _ converted

/-- `getsockname` returns normally only with an address it converted, so
`*addrlen` is then the size of a supported family's `sockaddr`, or zero.
`getpeername` and `accept` return the host's result whether or not the address
converted. -/
theorem getsockname_returns_converted (env : Env) (addr : Bool) (addrlen : Option Nat)
    (response : Response) {result : Int}
    (returned : (encUntrustedGetsockname env addr addrlen response).1 = .returned result) :
    (encUntrustedGetsockname env addr addrlen response).2.1 ∈
      [some 0, some sizeofSockaddrUn, some sizeofSockaddrIn, some sizeofSockaddrIn6] := by
  -- the arguments that `getsockname` turns down end in `EFAULT` or `EINVAL`
  obtain ⟨rfl, capacity, rfl, guard⟩ :
      addr = true ∧ ∃ capacity, addrlen = some capacity ∧ ¬ (capacity = 0 ∨ INT32_MAX < capacity) := by
    unfold encUntrustedGetsockname at returned
    split at returned
    · split_ifs at returned with guard
      exact ⟨rfl, _, rfl, guard⟩
    · simp at returned
  simp only [encUntrustedGetsockname, if_neg guard] at returned ⊢
  rcases received : receiveSockAddr env "enc_untrusted_getsockname" true (some capacity) response with
    ⟨outcome, converted, len, log⟩
  rw [received] at returned
  cases outcome <;> cases converted <;> simp only [Outcome.returned.injEq, reduceCtorEq] at returned
  exact receiveSockAddr_converted _ _ _ _ _ received

/-- A host whose address extent is empty: `getpeername` returns its result,
`getsockname` fails with `EFAULT`. -/
example :
    let env : Env := ⟨id, some, fun _ optname => some optname, fun _ => [], []⟩
    let response : Response := ⟨true, [LittleEndian.encode 4 0, LittleEndian.encode 4 0, []]⟩
    (encUntrustedGetpeername env true (some 16) response).1 = .returned 0 ∧
      (encUntrustedGetsockname env true (some 16) response).1 = .failed EFAULT := by
  decide +kernel

end Asylo.HostCallsProofs
