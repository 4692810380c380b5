import Asylo.TypeConversions
import Asylo.SgxBoundary

/-! The serializers of `struct addrinfo` and `struct ifaddrs` lists that the
host calls `getaddrinfo` and `getifaddrs` use
(`platform/host_call/serializer_functions.cc`). The host pushes the list it
got on a `MessageWriter` with `SerializeAddrInfo` or `SerializeIfAddrs`; the
enclave rebuilds it from the `MessageReader` it receives with
`DeserializeAddrinfo` or `DeserializeIfAddrs`.

A list is pushed as its count, an 8-byte word, then six extents for each
`addrinfo` (its flags, family, socket type and protocol, its address, its
canonical name) or five for each supported `ifaddrs` (its name, its flags,
its address, netmask and destination address). The deserializers walk the
reader as `HostCalls.Reading` does, with each access logged, since the
extents and the count are of the host's choosing. Besides the reads, the
model follows what `*out` holds when a deserializer returns and whether its
rollback freed it.

A C object is its value: integer fields are `Int32` and `UInt32`, an address
the bytes of its `sockaddr`, a string the bytes before its NUL. The
translations of flags and families between the enclave's values and Linux's
are generated from the two systems' headers, which the repository does not
hold, so they are parameters (`Tables`); so are the bytes `strdup` finds past
an extent that holds no NUL. -/
namespace Asylo.SerializerFunctions

open Message HostCalls TypeConversions SgxBoundary

/-! ## The lists -/

/-- A node of a native `struct addrinfo` list, without `ai_next`. `aiAddr` is
the `ai_addrlen` bytes at `ai_addr`, empty for a null `ai_addr`. -/
structure Addrinfo where
  aiFlags : Int32
  aiFamily : Int32
  aiSocktype : Int32
  aiProtocol : Int32
  aiAddr : List UInt8
  aiCanonname : Option (List UInt8)
  deriving DecidableEq, Repr

/-- A node of a native `struct ifaddrs` list, without `ifa_next` and the
unsupported `ifa_data`; `none` is a null pointer. -/
structure Ifaddrs where
  ifaName : Option (List UInt8)
  ifaFlags : UInt32
  ifaAddr : Option (List UInt8)
  ifaNetmask : Option (List UInt8)
  ifaDstaddr : Option (List UInt8)
  deriving DecidableEq, Repr

/-- The conversions of `type_conversions/types_functions.h` that the
serializers call, and what the enclave's heap holds after the extent taken as
the `index`-th, up to the first NUL. `tokLinuxIffFlag` is
`TokLinuxIffFlag(flags, /*ignore_unexpected_bits=*/true)`, the only way it is
called here. -/
structure Tables where
  tokLinuxAddressInfoFlag : Int32 → Option Int32
  fromkLinuxAddressInfoFlag : Int32 → Option Int32
  tokLinuxAfFamily : Int32 → Option Int32
  fromkLinuxAfFamily : Int32 → Option Int32
  tokLinuxSocketType : Int32 → Option Int32
  fromkLinuxSocketType : Int32 → Option Int32
  tokLinuxIffFlag : UInt32 → Option UInt32
  fromkLinuxIffFlag : UInt32 → Option UInt32
  afterExtent : Nat → List UInt8

/-- How a serializer fails: a status, or a call of `abort_handler`. -/
inductive Failure where
  | failed (status : PrimitiveStatus)
  | aborted (message : String)
  deriving DecidableEq, Repr

/-! ## Serializing -/

/-- `Push<int>(value)`. -/
def pushInt (value : Int32) : Extent := LittleEndian.encode 4 value.toUInt32.toNat

/-- `Push<uint32_t>(value)`. -/
def pushUnsigned (value : UInt32) : Extent := LittleEndian.encode 4 value.toNat

/-- `Push<uint64_t>(value)`. -/
def pushUint64 (value : Nat) : Extent := LittleEndian.encode 8 value

/-- `PushString(s)` of a `char *`: the string and its NUL, nothing for a null
pointer. -/
def pushString : Option (List UInt8) → Extent
  | some s => s ++ [0]
  | none => []

/-- `sizeof(struct sockaddr_storage)`. -/
def sizeofSockaddrStorage : Nat := 128

/-- `std::max` of the sizes of the three `klinux_sockaddr` structures. -/
def klinuxSockLen : Nat := max (max sizeofKlinuxSockaddrUn sizeofKlinuxSockaddrIn) sizeofKlinuxSockaddrIn6

/-- `TokLinuxSockAddr(sock, socklen, klinux_sock, &klinux_sock_len,
abort_handler)` into a zeroed buffer of `klinux_sock_len` bytes, and the
extent of the converted structure that is pushed after it. `message` is the
status of a failed conversion. -/
def klinuxSockExtent (sock : List UInt8) (socklen : Nat) (message : String) : Except Failure Extent :=
  match tokLinuxSockAddr sock socklen (List.replicate klinuxSockLen 0) klinuxSockLen with
  | .converted klinuxSock len => .ok (klinuxSock.take len)
  | .failed => .error (.failed ⟨AbslStatusCode.kInvalidArgument, message⟩)
  | .aborted abortMessage => .error (.aborted abortMessage)

/-- The six extents `SerializeAddrInfo` pushes for one node. Without
`explicit_klinux_conversion` the address is pushed as it is. -/
def serializeAddrInfoNode (tables : Tables) (explicitKlinuxConversion : Bool) (addr : Addrinfo) :
    Except Failure (List Extent) :=
  match tables.tokLinuxAddressInfoFlag addr.aiFlags, tables.tokLinuxAfFamily addr.aiFamily,
      tables.tokLinuxSocketType addr.aiSocktype with
  | some aiFlags, some aiFamily, some aiSocktype => do
    let sock ← if !explicitKlinuxConversion then pure addr.aiAddr
      else
        klinuxSockExtent addr.aiAddr addr.aiAddr.length
          "SerializeAddrInfo: Couldn\x27t convert sockaddr to klinux_sockaddr"
    pure [pushInt aiFlags, pushInt aiFamily, pushInt aiSocktype, pushInt addr.aiProtocol, sock,
      pushString addr.aiCanonname]
  | _, _, _ =>
    .error (.failed ⟨AbslStatusCode.kInvalidArgument,
      "SerializeAddrInfo: Couldn\x27t convert addrinfo fields to klinux values"⟩)

/-- The loop of `SerializeAddrInfo` over the nodes. -/
def serializeAddrInfoLoop (tables : Tables) (explicitKlinuxConversion : Bool) :
    List Addrinfo → Except Failure (List Extent)
  | [] => .ok []
  | addr :: rest => do
    let node ← serializeAddrInfoNode tables explicitKlinuxConversion addr
    let rest ← serializeAddrInfoLoop tables explicitKlinuxConversion rest
    pure (node ++ rest)

/-- `SerializeAddrInfo(writer, addrs, abort_handler, explicit_klinux_conversion)`:
the extents it pushes on an empty writer. -/
def serializeAddrInfo (tables : Tables) (addrs : List Addrinfo) (explicitKlinuxConversion : Bool) :
    Except Failure (List Extent) := do
  let nodes ← serializeAddrInfoLoop tables explicitKlinuxConversion addrs
  pure (pushUint64 addrs.length :: nodes)

/-- `IpCompliant(addr)`: `sa_family` is `AF_INET` or `AF_INET6`. -/
def ipCompliant (addr : List UInt8) : Bool := load addr 0 2 = AF_INET || load addr 0 2 = AF_INET6

/-- `IsIfAddrSupported(entry)`: every address present is IPv4 or IPv6, and the
flags convert. -/
def isIfAddrSupported (tables : Tables) (entry : Ifaddrs) : Bool :=
  entry.ifaAddr.all ipCompliant && entry.ifaNetmask.all ipCompliant && entry.ifaDstaddr.all ipCompliant &&
    (tables.tokLinuxIffFlag entry.ifaFlags).isSome

/-- `GetNumIfAddrs(addrs)`: the supported nodes. -/
def getNumIfAddrs (tables : Tables) (addrs : List Ifaddrs) : Nat :=
  (addrs.filter (isIfAddrSupported tables)).length

/-- `MessageWriter::PushSockAddr(sock)`: the structure of its family as it is. -/
def pushSockAddr : Option (List UInt8) → Except Failure Extent
  | none => .ok []
  | some sock =>
    if load sock 0 2 = AF_UNIX then .ok (sock.take sizeofSockaddrUn)
    else if load sock 0 2 = AF_INET then .ok (sock.take sizeofSockaddrIn)
    else if load sock 0 2 = AF_INET6 then .ok (sock.take sizeofSockaddrIn6)
    else .error (.failed ⟨AbslStatusCode.kInvalidArgument, "PushSockAddr: Unsupported sa_family encountered."⟩)

/-- `GetSocklen(sock, abort_handler)` of a non-null `sock`. -/
def getSocklen (sock : List UInt8) : Except Failure Nat :=
  if load sock 0 2 = AF_UNIX then .ok sizeofSockaddrUn
  else if load sock 0 2 = AF_INET then .ok sizeofSockaddrIn
  else if load sock 0 2 = AF_INET6 then .ok sizeofSockaddrIn6
  else .error (.aborted "GetSocklen: Unsupported sa_family encountered.")

/-- `PushkLinuxSockAddrToWriter(writer, sock, abort_handler)`: the structure
converted to its `klinux_sockaddr`. -/
def pushkLinuxSockAddrToWriter : Option (List UInt8) → Except Failure Extent
  | none => .ok []
  | some sock => do
    let socklen ← getSocklen sock
    klinuxSockExtent sock socklen "TestGetAddrInfo: Couldn\x27t convert sockaddr to klinux_sockaddr"

/-- The five extents `SerializeIfAddrs` pushes for a supported node, whose
flags convert to `flags`. -/
def serializeIfAddrsNode (explicitKlinuxConversion : Bool) (addr : Ifaddrs) (flags : UInt32) :
    Except Failure (List Extent) := do
  let push := if !explicitKlinuxConversion then pushSockAddr else pushkLinuxSockAddrToWriter
  let ifaAddr ← push addr.ifaAddr
  let ifaNetmask ← push addr.ifaNetmask
  let ifaDstaddr ← push addr.ifaDstaddr
  pure [pushString addr.ifaName, pushUnsigned flags, ifaAddr, ifaNetmask, ifaDstaddr]

/-- The loop of `SerializeIfAddrs`, which skips the nodes it does not support. -/
def serializeIfAddrsLoop (tables : Tables) (explicitKlinuxConversion : Bool) :
    List Ifaddrs → Except Failure (List Extent)
  | [] => .ok []
  | addr :: rest => do
    -- `*TokLinuxIffFlag(...)`: `IsIfAddrSupported` has checked that it converts
    let node ← if isIfAddrSupported tables addr then
        serializeIfAddrsNode explicitKlinuxConversion addr ((tables.tokLinuxIffFlag addr.ifaFlags).getD 0)
      else pure []
    let rest ← serializeIfAddrsLoop tables explicitKlinuxConversion rest
    pure (node ++ rest)

/-- `SerializeIfAddrs(writer, ifaddr_list, abort_handler,
explicit_klinux_conversion)`: the extents it pushes on an empty writer. An
empty list is the null pointer, which it refuses. -/
def serializeIfAddrs (tables : Tables) (ifaddrList : List Ifaddrs) (explicitKlinuxConversion : Bool) :
    Except Failure (List Extent) :=
  if ifaddrList = [] then
    .error (.failed ⟨AbslStatusCode.kInvalidArgument, "SerializeIfAddrs: NULL MessageWriter or ifaddrs provided."⟩)
  else do
    let nodes ← serializeIfAddrsLoop tables explicitKlinuxConversion ifaddrList
    pure (pushUint64 (getNumIfAddrs tables ifaddrList) :: nodes)

/-! ## Deserializing -/

/-- `in->next<int>()`. -/
def nextInt (env : Env) (r : Reading) : Int32 × Reading :=
  let (value, r) := r.nextScalar env 4
  ((UInt32.ofNat value).toInt32, r)

/-- `in->next<unsigned int>()`. -/
def nextUnsigned (env : Env) (r : Reading) : UInt32 × Reading :=
  let (value, r) := r.nextScalar env 4
  (UInt32.ofNat value, r)

/-- `strdup(extent.As<char>())` for the extent taken as the `index`-th: the
string up to the first NUL, and the bytes it reads. `As<char>` of an empty
extent is the null pointer; an extent with no NUL is read past its end. -/
def strdup (env : Env) (tables : Tables) (extent : Extent) (index : Nat) : List UInt8 × Access :=
  if extent = [] then (env.nullBytes.takeWhile (· != 0), .null 1)
  else
    match extent.findIdx? (· == 0) with
    | some nul => (extent.take nul, .bytes index 0 (nul + 1))
    | none => (extent ++ tables.afterExtent index, .bytes index 0 (extent.length + 1))

/-- A step of a deserializer that either gives a value, rolls back
(`.error none`) or calls `abort_handler` (`.error (some message)`). -/
abbrev Step := Except (Option String)

/-- `FromkLinuxSockAddr(buf.As<klinux_sockaddr>(), buf.size(), &sock,
&socklen, abort_handler)` into a zeroed `sockaddr_storage`, then
`MallocAndCopy(&sock, socklen)`. `As` is null for an extent shorter than a
`klinux_sockaddr`, and the conversion then fails. -/
def convertSockaddr (buf : Extent) : Step (List UInt8) :=
  match extentAs buf sizeofKlinuxSockaddr with
  | none => .error none
  | some _ =>
    match fromkLinuxSockAddr buf buf.length (List.replicate sizeofSockaddrStorage 0) sizeofSockaddrStorage with
    | .converted sock socklen => .ok (sock.take socklen)
    | .failed => .error none
    | .aborted message => .error (some message)

/-- An optional address of an `ifaddrs` node: null for an empty extent. -/
def optionalSockaddr (buf : Extent) : Step (Option (List UInt8)) :=
  if buf = [] then .ok none else some <$> convertSockaddr buf

/-- One round of the loop of `DeserializeAddrinfo`: six extents taken, then
the node built from them. -/
def deserializeAddrinfoNode (env : Env) (tables : Tables) (r : Reading) : Step Addrinfo × Reading :=
  let (klinuxFlags, r) := nextInt env r
  let (klinuxFamily, r) := nextInt env r
  let (klinuxSocktype, r) := nextInt env r
  let (aiProtocol, r) := nextInt env r
  let (klinuxSockaddrBuf, _, r) := r.next env
  let (aiCanonnameBuf, nameIndex, r) := r.next env
  match tables.fromkLinuxAddressInfoFlag klinuxFlags, tables.fromkLinuxAfFamily klinuxFamily,
      tables.fromkLinuxSocketType klinuxSocktype with
  | some aiFlags, some aiFamily, some aiSocktype =>
    -- an empty extent is a null `ai_addr` with `ai_addrlen` zero
    match (if klinuxSockaddrBuf = [] then .ok [] else convertSockaddr klinuxSockaddrBuf : Step (List UInt8)) with
    | .error failure => (.error failure, r)
    | .ok aiAddr =>
      if aiCanonnameBuf = [] then (.ok ⟨aiFlags, aiFamily, aiSocktype, aiProtocol, aiAddr, none⟩, r)
      else
        let (aiCanonname, nameRead) := strdup env tables aiCanonnameBuf nameIndex
        (.ok ⟨aiFlags, aiFamily, aiSocktype, aiProtocol, aiAddr, some aiCanonname⟩,
          { r with log := r.log ++ [nameRead] })
  | _, _, _ => (.error none, r)

/-- One round of the loop of `DeserializeIfAddrs`: five extents taken, then
the node built from them. -/
def deserializeIfAddrsNode (env : Env) (tables : Tables) (r : Reading) : Step Ifaddrs × Reading :=
  let (ifaNameBuf, nameIndex, r) := r.next env
  let (klinuxFlags, r) := nextUnsigned env r
  let (klinuxIfaAddrBuf, _, r) := r.next env
  let (klinuxIfaNetmaskBuf, _, r) := r.next env
  let (klinuxIfaDstaddrBuf, _, r) := r.next env
  match tables.fromkLinuxIffFlag klinuxFlags with
  | none => (.error none, r)
  | some ifaFlags =>
    -- the name is copied before any address is converted, with no check of its extent
    let (ifaName, nameRead) := strdup env tables ifaNameBuf nameIndex
    ((do
      let ifaAddr ← optionalSockaddr klinuxIfaAddrBuf
      let ifaNetmask ← optionalSockaddr klinuxIfaNetmaskBuf
      let ifaDstaddr ← optionalSockaddr klinuxIfaDstaddrBuf
      pure ⟨some ifaName, ifaFlags, ifaAddr, ifaNetmask, ifaDstaddr⟩),
      { r with log := r.log ++ [nameRead] })

/-- What `*out` holds. -/
inductive OutPointer (α : Type) where
  /-- What the caller left there: never written. -/
  | unwritten
  /-- The first node of a list of these nodes, `nullptr` for none. -/
  | list (nodes : List α)
  deriving DecidableEq, Repr

/-- How a deserializer ends. -/
inductive Ending where
  | returned (ok : Bool)
  /-- `abort_handler` called with this message. -/
  | aborted (message : String)
  deriving DecidableEq, Repr

/-- A run of a deserializer: how it ends, what `*out` holds then, whether its
rollback called `freeaddrinfo(*out)` (or `freeifaddrs(*out)`), and the reader
with its accesses. -/
structure Deserialized (α : Type) where
  ending : Ending
  out : OutPointer α
  freedOut : Bool
  reading : Reading

/-- `*out` once the nodes `built` are linked: the first node is the one
assigned to `*out`. -/
def linked {α : Type} : List α → OutPointer α
  | [] => .unwritten
  | nodes => .list nodes

/-- The loop shared by `DeserializeAddrinfo` and `DeserializeIfAddrs`: `count`
more rounds of `node`, each linked after the nodes `built` so far. A round that
fails frees its node and `*out` and returns false. -/
def deserializeList {α : Type} (node : Reading → Step α × Reading) : Nat → List α → Reading → Deserialized α
  | 0, built, r => ⟨.returned true, linked built, false, r⟩
  | count + 1, built, r =>
    match node r with
    | (.ok info, r) => deserializeList node count (built ++ [info]) r
    | (.error none, r) => ⟨.returned false, linked built, true, r⟩
    | (.error (some message), r) => ⟨.aborted message, linked built, false, r⟩

/-- The start shared by both deserializers, `perNode` being the extents one
node takes: false for an empty reader; then the count; true with `*out =
nullptr` for a count of zero; false where the reader holds fewer than
`count * perNode` extents, a product in `size_t`; else the loop. -/
def deserializeCounted {α : Type} (env : Env) (perNode : Nat) (node : Reading → Step α × Reading) (r : Reading) :
    Deserialized α :=
  if r.reader.size = 0 then ⟨.returned false, .unwritten, false, r⟩
  else
    let (count, r) := r.nextScalar env 8
    if count = 0 then ⟨.returned true, .list [], false, r⟩
    else if r.reader.size < count * perNode % 2 ^ 64 then ⟨.returned false, .unwritten, false, r⟩
    else deserializeList node count [] r

/-- `DeserializeAddrinfo(in, out, abort_handler)`. -/
def deserializeAddrinfo (env : Env) (tables : Tables) (r : Reading) : Deserialized Addrinfo :=
  deserializeCounted env 6 (deserializeAddrinfoNode env tables) r

/-- `DeserializeIfAddrs(in, out, abort_handler)`. -/
def deserializeIfAddrs (env : Env) (tables : Tables) (r : Reading) : Deserialized Ifaddrs :=
  deserializeCounted env 5 (deserializeIfAddrsNode env tables) r

/-! ## Inotify events -/

/-- A `struct inotify_event` with its name: `len` is the length of `name`,
NUL padding included. -/
structure InotifyEvent where
  wd : Int32
  mask : UInt32
  cookie : UInt32
  name : List UInt8
  deriving DecidableEq, Repr

/-- `sizeof(struct inotify_event)`, the name not counted. -/
def sizeofInotifyEvent : Nat := 16

/-- The bytes of an event in memory: `wd`, `mask`, `cookie` and `len`, then the
name. -/
def InotifyEvent.record (event : InotifyEvent) : List UInt8 :=
  pushInt event.wd ++ pushUnsigned event.mask ++ pushUnsigned event.cookie ++
    LittleEndian.encode 4 event.name.length ++ event.name

/-- The loop of `SerializenotifyEvents` over the kernel's buffer `buf`, from
the event at `offset`: the four extents of each event whose mask converts. The
event is read at its offset whatever is left of the buffer, and the next one
starts after its name. -/
def serializenotifyEventsLoop (tokLinuxInotifyEventMask : UInt32 → Option UInt32) (buf : List UInt8) :
    Nat → Nat → List Extent
  | 0, _ => []
  | fuel + 1, offset =>
    if offset < buf.length then
      let len := load buf (offset + 12) 4
      let pushed := match tokLinuxInotifyEventMask (UInt32.ofNat (load buf (offset + 4) 4)) with
        | some mask =>
          [pushInt (UInt32.ofNat (load buf offset 4)).toInt32, pushUnsigned mask,
            pushUnsigned (UInt32.ofNat (load buf (offset + 8) 4)), slice buf (offset + sizeofInotifyEvent) len]
        | none => []
      pushed ++ serializenotifyEventsLoop tokLinuxInotifyEventMask buf fuel (offset + sizeofInotifyEvent + len)
    else []

/-- `SerializenotifyEvents(buf, buf_len, &out, &len)`: the serialized
message it writes to `*out`. Every round moves past at least
`sizeof(struct inotify_event)` bytes, so `buf_len` rounds are enough. -/
def serializenotifyEvents (tokLinuxInotifyEventMask : UInt32 → Option UInt32) (buf : List UInt8) : List UInt8 :=
  (MessageWriter.mk (serializenotifyEventsLoop tokLinuxInotifyEventMask buf buf.length 0)).serialize

/-- The rounds of the loop of `DeserializeInotifyEvents` that are left: four
extents taken, and an event pushed when its mask converts, its name copied
out of its extent. -/
def deserializeInotifyEventsLoop (env : Env) (fromkLinuxInotifyEventMask : UInt32 → Option UInt32) :
    Nat → Reading → List InotifyEvent × Reading
  | 0, r => ([], r)
  | rounds + 1, r =>
    let (wd, r) := nextInt env r
    let (klinuxMask, r) := nextUnsigned env r
    let (cookie, r) := nextUnsigned env r
    let (nameBuf, nameIndex, r) := r.next env
    match fromkLinuxInotifyEventMask klinuxMask with
    | some mask =>
      let r := if nameBuf = [] then r else { r with log := r.log ++ [.bytes nameIndex 0 nameBuf.length] }
      let (events, r) := deserializeInotifyEventsLoop env fromkLinuxInotifyEventMask rounds r
      (⟨wd, mask, cookie, nameBuf⟩ :: events, r)
    | none => deserializeInotifyEventsLoop env fromkLinuxInotifyEventMask rounds r

/-- `DeserializeInotifyEvents(buf, buf_len, events)` of the enclave's copy
`buf` of the host's message, past whose end lie the bytes `beyond`: the
offsets and lengths of the reads of `MessageReader::Deserialize`, then `none`
where it calls `abort()`, or whether it returns true, the events it pushes and
its walk of the reader. -/
def deserializeInotifyEvents (env : Env) (beyond : Nat → UInt8)
    (fromkLinuxInotifyEventMask : UInt32 → Option UInt32) (buf : List UInt8) :
    List (Nat × Nat) × Option (Bool × List InotifyEvent × Reading) :=
  let (extents, reads) := deserialize (bufferSource buf beyond) buf.length
  (reads, extents.map fun extents =>
    -- four items per event
    if extents.length % 4 ≠ 0 then (false, [], Reading.start ⟨extents, 0⟩)
    else
      let (events, r) := deserializeInotifyEventsLoop env fromkLinuxInotifyEventMask (extents.length / 4)
        (Reading.start ⟨extents, 0⟩)
      (true, events, r))

end Asylo.SerializerFunctions
