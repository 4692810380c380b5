import Asylo.Message

/-! The socket host calls of the trusted runtime
(`platform/host_call/trusted/host_calls.cc`) after the host has answered:
`enc_untrusted_recvmsg`, `enc_untrusted_recvfrom`, `enc_untrusted_getsockopt`,
`enc_untrusted_getsockname`, `enc_untrusted_accept` and
`enc_untrusted_getpeername`, with `CheckStatusAndParamCount` and the address
conversion `FromkLinuxSockAddr` of
`platform/system_call/type_conversions/manual_types_functions.cc`.

Each wrapper hands its request to the host and gets back a status and a
`MessageReader` of extents, every one of them of the host's choosing. The model
starts from that answer (`Response`) and follows the wrapper through it: the
extents it takes off the reader, the bytes it reads in them, the bytes it
writes into the caller's buffers, and how it ends (`Outcome`). What the wrapper
touches is returned as a log of `Access`es, so that it can be compared with
what the response holds and with what the caller's buffers can take.

Two reads have no defined result in C++: `extents_[pos_]` past the end of the
reader's vector, and `*As<T>()` on an extent shorter than `T`, which is the null
pointer. The model lets them find what `Env` says and logs them as such. -/
namespace Asylo.HostCalls

open Message

/-- The caller's buffers that the socket host calls fill. -/
inductive Buffer
  | msgName
  | msgIov (index : Nat)
  | msgControl
  | buf
  | srcAddr
  | addr
  | optval
  deriving DecidableEq, Repr

/-- What a wrapper does with the host's answer, in order. -/
inductive Access
  /-- `extents_[index]` of the reader, below its size. -/
  | extent (index : Nat)
  /-- `extents_[index]` past the end of the reader's vector. -/
  | pastEnd (index : Nat)
  /-- `length` bytes at `offset` of the extent taken as the `index`-th. -/
  | bytes (index offset length : Nat)
  /-- `length` bytes read through the null pointer of `As<T>`. -/
  | null (length : Nat)
  /-- `length` bytes written into the caller's `buffer`. -/
  | write (buffer : Buffer) (length : Nat)
  deriving DecidableEq, Repr

/-- What `NonSystemCallDispatcher` hands back: whether the host call succeeded,
and the extents of the output reader. -/
structure Response where
  ok : Bool
  extents : List Extent
  deriving DecidableEq, Repr

/-- What the wrappers rest on besides the response: the translations of errno
values, flags and option names that the type conversions generate from the
Linux headers, and what the undefined reads find, past the end of the reader's
vector and at the null pointer. -/
structure Env where
  fromkLinuxErrno : Int → Int
  tokLinuxRecvSendFlag : Int → Option Int
  tokLinuxOptionName : Int → Int → Option Int
  pastEnd : Nat → Extent
  nullBytes : List UInt8

/-- How a wrapper ends. -/
inductive Outcome
  /-- `BestEffortAbort` with this message. -/
  | aborted (message : String)
  /-- `-1` returned, with `errno` set to this value. -/
  | failed (errno : Int)
  | returned (result : Int)
  deriving DecidableEq, Repr

/-- The enclave's `EFAULT`. -/
def EFAULT : Int := 14

/-- The enclave's `EINVAL`. -/
def EINVAL : Int := 22

def INT32_MAX : Nat := 2147483647

/-- The value of a `width`-byte two's complement word. -/
def toSigned (width value : Nat) : Int :=
  if value < 2 ^ (8 * width - 1) then value else (value : Int) - 2 ^ (8 * width)

/-- `CheckStatusAndParamCount`: the message of the `BestEffortAbort` it calls,
if it calls one. -/
def checkStatusAndParamCount (ok : Bool) (output : MessageReader) (name : String)
    (expectedParams : Nat) (matchExactParams : Bool) : Option String :=
  let found := output.size
  if !ok then some s!"Host call \x27{name}\x27 failed."
  else if !matchExactParams then
    if found < expectedParams then
      some s!"Host call \x27{name}\x27: Expected at least {expectedParams} parameters on the MessageReader, found {found}"
    else none
  else if found ≠ expectedParams then
    some s!"Host call \x27{name}\x27: Expected {expectedParams} parameters on the MessageReader, found {found}"
  else none

/-! ## Walking the output reader -/

/-- The output reader as a wrapper walks it, with its accesses so far. -/
structure Reading where
  reader : MessageReader
  log : List Access

namespace Reading

/-- The reader as the dispatcher fills it, before anything is read. -/
def start (output : MessageReader) : Reading := ⟨output, []⟩

/-- The access of `extents_[pos_]`. -/
def indexAccess (reader : MessageReader) : Access :=
  if reader.pos < reader.size then .extent reader.pos else .pastEnd reader.pos

/-- The access of `*As<T>()` for a `T` of `width` bytes on the extent taken as
the `index`-th. -/
def objectAccess (extent : Extent) (index width : Nat) : Access :=
  if width ≤ extent.length then .bytes index 0 width else .null width

/-- `output.next()`: the extent, the index it was taken at, and the reading after. -/
def next (env : Env) (r : Reading) : Extent × Nat × Reading :=
  let (extent, reader) := r.reader.next env.pastEnd
  (extent, r.reader.pos, ⟨reader, r.log ++ [indexAccess r.reader]⟩)

/-- `*As<T>()` for a `T` of `width` bytes: the object at the start of the
extent, or what lies at the null pointer when the extent is shorter than `T`. -/
def scalarValue (env : Env) (extent : Extent) (width : Nat) : Nat :=
  match extentAs extent width with
  | some bytes => LittleEndian.decode bytes
  | none => LittleEndian.decode (env.nullBytes.take width)

/-- `output.next<T>()` for a `T` of `width` bytes: `*As<T>()` of the next extent. -/
def nextScalar (env : Env) (width : Nat) (r : Reading) : Nat × Reading :=
  let (extent, index, r) := r.next env
  (scalarValue env extent width, { r with log := r.log ++ [objectAccess extent index width] })

/-- `memcpy(buffer, extent + offset, length)` from the extent taken as the
`index`-th. -/
def copy (r : Reading) (index offset length : Nat) (buffer : Buffer) : Reading :=
  { r with log := r.log ++ [.bytes index offset length, .write buffer length] }

end Reading

/-! ## `FromkLinuxSockAddr` -/

def kLinuxAfUnspec : Int := 0
def kLinuxAfUnix : Int := 1
def kLinuxAfInet : Int := 2
def kLinuxAfInet6 : Int := 10

def sizeofKlinuxSockaddr : Nat := 16
def sizeofKlinuxSockaddrUn : Nat := 110
def sizeofKlinuxSockaddrIn : Nat := 16
def sizeofKlinuxSockaddrIn6 : Nat := 28
def sizeofSockaddrUn : Nat := 110
def sizeofSockaddrIn : Nat := 16
def sizeofSockaddrIn6 : Nat := 28

/-- One family's branch of `FromkLinuxSockAddr`: an input that must hold
`inputSize` bytes, converted into a `sockaddr` of `sourceLen` bytes and handed
to `CopySockaddr`, which copies `min(*output_len, source_len)` bytes into
`output` and sets `*output_len` to `source_len`. -/
def copySockaddr (r : Reading) (extent : Extent) (index : Nat) (output : Buffer)
    (capacity inputSize sourceLen : Nat) : Except String Bool × Option Nat × Reading :=
  if extent.length < inputSize then (.ok false, some capacity, r)
  else
    (.ok true, some sourceLen,
      { r with log := r.log ++ [.bytes index 2 (inputSize - 2), .write output (min capacity sourceLen)] })

/-- `FromkLinuxSockAddr(buf.As<klinux_sockaddr>(), buf.size(), output, output_len,
BestEffortAbort)` for the extent `buf` taken as the `index`-th: whether it
converted the address (or the message it aborts with), and `*output_len` after
it (`none` for a null `output_len`). `outputPresent` says whether `output` is
non-null. -/
def fromkLinuxSockAddr (r : Reading) (extent : Extent) (index : Nat) (output : Buffer)
    (outputPresent : Bool) (outputLen : Option Nat) : Except String Bool × Option Nat × Reading :=
  -- a null input, a null output or an empty input converts nothing; `As` gives
  -- a non-null input only for a whole `klinux_sockaddr`
  match extentAs extent sizeofKlinuxSockaddr, outputPresent, outputLen with
  | some header, true, some capacity =>
    let klinuxFamily := toSigned 2 (LittleEndian.decode (header.take 2))
    let r := { r with log := r.log ++ [.bytes index 0 2] }
    if klinuxFamily = kLinuxAfUnix then
      copySockaddr r extent index output capacity sizeofKlinuxSockaddrUn sizeofSockaddrUn
    else if klinuxFamily = kLinuxAfInet then
      copySockaddr r extent index output capacity sizeofKlinuxSockaddrIn sizeofSockaddrIn
    else if klinuxFamily = kLinuxAfInet6 then
      copySockaddr r extent index output capacity sizeofKlinuxSockaddrIn6 sizeofSockaddrIn6
    else if klinuxFamily = kLinuxAfUnspec then (.ok true, some 0, r)
    else (.error s!"Type conversion error - Unsupported AF family: {klinuxFamily}", outputLen, r)
  | _, _, _ => (.ok false, outputLen, r)

/-! ## The wrappers -/

/-- The fields of the caller's `msghdr` that `enc_untrusted_recvmsg` reads back
into: `msg_namelen`, the `iov_len` of each iovec, and `msg_controllen`. -/
structure Msghdr where
  msgNamelen : Nat
  msgIov : List Nat
  msgControllen : Nat
  deriving DecidableEq, Repr

/-- `CalculateTotalMessageSize`: the sum of the `iov_len`s, as a `size_t`. -/
def calculateTotalMessageSize (msg : Msghdr) : Nat := msg.msgIov.sum % 2 ^ 64

/-- The loop of `enc_untrusted_recvmsg` that scatters the `total` bytes of the
extent taken as the `index`-th over the iovecs, from iovec `i` on with
`bytesCopied` bytes copied. -/
def scatterIov (index total : Nat) : Reading → List Nat → Nat → Nat → Reading
  | r, [], _, _ => r
  | r, iovLen :: rest, i, bytesCopied =>
    if bytesCopied < total then
      let bytesToCopy := min iovLen (total - bytesCopied)
      scatterIov index total (r.copy index bytesCopied bytesToCopy (.msgIov i)) rest (i + 1)
        (bytesCopied + bytesToCopy)
    else r

/-- `enc_untrusted_recvmsg(sockfd, msg, flags)` on the host's `response`: how it
ends, the caller's `msghdr` after it, and its accesses. -/
def encUntrustedRecvmsg (env : Env) (msg : Msghdr) (response : Response) :
    Outcome × Msghdr × List Access :=
  let totalBufferSize := calculateTotalMessageSize msg
  let output : MessageReader := ⟨response.extents, 0⟩
  match checkStatusAndParamCount response.ok output "enc_untrusted_recvmsg" 2 false with
  | some message => (.aborted message, msg, [])
  | none =>
    let (result, r) := (Reading.start output).nextScalar env 8
    let (klinuxErrno, r) := r.nextScalar env 4
    let result := toSigned 8 result
    if result = -1 then (.failed (env.fromkLinuxErrno (toSigned 4 klinuxErrno)), msg, r.log)
    -- `result > total_buffer_size` compares `result` as a `size_t`
    else if totalBufferSize < (result % 2 ^ 64).toNat then
      (.aborted "enc_untrusted_recvmsg: result exceeds requested", msg, r.log)
    else
      let (msgNameExtent, nameIndex, r) := r.next env
      let msgNamelen :=
        if msgNameExtent.length ≤ msg.msgNamelen then msgNameExtent.length else msg.msgNamelen
      let r := r.copy nameIndex 0 msgNamelen .msgName
      let (msgIovExtent, iovIndex, r) := r.next env
      let r := scatterIov iovIndex msgIovExtent.length r msg.msgIov 0 0
      let (msgControlExtent, controlIndex, r) := r.next env
      let msgControllen :=
        if msgControlExtent.length ≤ msg.msgControllen then msgControlExtent.length
        else msg.msgControllen
      let r := r.copy controlIndex 0 msgControllen .msgControl
      (.returned result, { msg with msgNamelen := msgNamelen, msgControllen := msgControllen }, r.log)

/-- `enc_untrusted_recvfrom(sockfd, buf, len, flags, src_addr, addrlen)` on the
host's `response`: how it ends, `*addrlen` after it, and its accesses.
`srcAddr` says whether `src_addr` is non-null. -/
def encUntrustedRecvfrom (env : Env) (len : Nat) (flags : Int) (srcAddr : Bool)
    (addrlen : Option Nat) (response : Response) : Outcome × Option Nat × List Access :=
  match env.tokLinuxRecvSendFlag flags with
  | none => (.failed EINVAL, addrlen, [])
  | some _ =>
    let output : MessageReader := ⟨response.extents, 0⟩
    match checkStatusAndParamCount response.ok output "enc_untrusted_recvfrom" 4 true with
    | some message => (.aborted message, addrlen, [])
    | none =>
      let (result, r) := (Reading.start output).nextScalar env 4
      let (klinuxErrno, r) := r.nextScalar env 4
      let result := toSigned 4 result
      if result = -1 then (.failed (env.fromkLinuxErrno (toSigned 4 klinuxErrno)), addrlen, r.log)
      -- `result > len` compares `result` as a `size_t`
      else if len < (result % 2 ^ 64).toNat then
        (.aborted "enc_untrusted_recvfrom: result exceeds requested", addrlen, r.log)
      else
        let (bufferReceived, bufferIndex, r) := r.next env
        let r := r.copy bufferIndex 0 (min len bufferReceived.length) .buf
        if srcAddr && addrlen.isSome then
          let (klinuxSockaddrBuf, sockaddrIndex, r) := r.next env
          match fromkLinuxSockAddr r klinuxSockaddrBuf sockaddrIndex .srcAddr srcAddr addrlen with
          | (.error message, _, r) => (.aborted message, addrlen, r.log)
          | (.ok _, addrlen, r) => (.returned result, addrlen, r.log)
        else (.returned result, addrlen, r.log)

/-- `enc_untrusted_getsockopt(sockfd, level, optname, optval, optlen)` on the
host's `response`: how it ends, `*optlen` after it, and its accesses. `optval`
says whether `optval` is non-null. -/
def encUntrustedGetsockopt (env : Env) (level optname : Int) (optval : Bool)
    (optlen : Option Nat) (response : Response) : Outcome × Option Nat × List Access :=
  match env.tokLinuxOptionName level optname, optval, optlen with
  | some _, true, some capacity =>
    if capacity = 0 then (.failed EINVAL, optlen, [])
    else
      let output : MessageReader := ⟨response.extents, 0⟩
      match checkStatusAndParamCount response.ok output "enc_untrusted_getsockopt" 3 true with
      | some message => (.aborted message, optlen, [])
      | none =>
        let (result, r) := (Reading.start output).nextScalar env 4
        let (klinuxErrno, r) := r.nextScalar env 4
        -- the option's extent is taken before the result is looked at
        let (optReceived, optIndex, r) := r.next env
        if toSigned 4 result = -1 then
          (.failed (env.fromkLinuxErrno (toSigned 4 klinuxErrno)), optlen, r.log)
        else
          let optlen := if optReceived.length ≤ capacity then optReceived.length else capacity
          let r := r.copy optIndex 0 optlen .optval
          (.returned (toSigned 4 result), some optlen, r.log)
  | _, _, _ => (.failed EINVAL, optlen, [])

/-- What `enc_untrusted_getsockname`, `enc_untrusted_accept` and
`enc_untrusted_getpeername` do alike once the host has answered the host call
`name`: check for three extents, take the result and errno, and convert the
address into `addr`. Besides the outcome, `*addrlen` and the accesses, it
returns whether `FromkLinuxSockAddr` converted the address. -/
def receiveSockAddr (env : Env) (name : String) (addr : Bool) (addrlen : Option Nat)
    (response : Response) : Outcome × Bool × Option Nat × List Access :=
  let output : MessageReader := ⟨response.extents, 0⟩
  match checkStatusAndParamCount response.ok output name 3 true with
  | some message => (.aborted message, false, addrlen, [])
  | none =>
    let (result, r) := (Reading.start output).nextScalar env 4
    let (klinuxErrno, r) := r.nextScalar env 4
    let result := toSigned 4 result
    if result = -1 then
      (.failed (env.fromkLinuxErrno (toSigned 4 klinuxErrno)), false, addrlen, r.log)
    else
      let (klinuxSockaddrBuf, index, r) := r.next env
      match fromkLinuxSockAddr r klinuxSockaddrBuf index .addr addr addrlen with
      | (.error message, _, r) => (.aborted message, false, addrlen, r.log)
      | (.ok converted, addrlen, r) => (.returned result, converted, addrlen, r.log)

/-- `enc_untrusted_getsockname(sockfd, addr, addrlen)`: unlike the other two, it
fails with `EFAULT` when the address does not convert. -/
def encUntrustedGetsockname (env : Env) (addr : Bool) (addrlen : Option Nat)
    (response : Response) : Outcome × Option Nat × List Access :=
  match addr, addrlen with
  | true, some capacity =>
    -- guards against -1 passed as the unsigned `*addrlen`
    if capacity = 0 ∨ INT32_MAX < capacity then (.failed EINVAL, addrlen, [])
    else
      match receiveSockAddr env "enc_untrusted_getsockname" addr addrlen response with
      | (.returned _, false, addrlen, log) => (.failed EFAULT, addrlen, log)
      | (outcome, _, addrlen, log) => (outcome, addrlen, log)
  | _, _ => (.failed EFAULT, addrlen, [])

/-- `enc_untrusted_accept(sockfd, addr, addrlen)`: no checks of its arguments,
and the conversion's result is ignored. -/
def encUntrustedAccept (env : Env) (addr : Bool) (addrlen : Option Nat)
    (response : Response) : Outcome × Option Nat × List Access :=
  let (outcome, _, addrlen, log) :=
    receiveSockAddr env "enc_untrusted_accept" addr addrlen response
  (outcome, addrlen, log)

/-- `enc_untrusted_getpeername(sockfd, addr, addrlen)`: the checks of
`enc_untrusted_getsockname`, and the conversion's result ignored. -/
def encUntrustedGetpeername (env : Env) (addr : Bool) (addrlen : Option Nat)
    (response : Response) : Outcome × Option Nat × List Access :=
  match addr, addrlen with
  | true, some capacity =>
    if capacity = 0 ∨ INT32_MAX < capacity then (.failed EINVAL, addrlen, [])
    else
      let (outcome, _, addrlen, log) :=
        receiveSockAddr env "enc_untrusted_getpeername" addr addrlen response
      (outcome, addrlen, log)
  | _, _ => (.failed EFAULT, addrlen, [])

end Asylo.HostCalls
