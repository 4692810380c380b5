import Asylo.SerializerFunctions
import Asylo.HostCallsProofs
import Asylo.TypeConversionsProofs
import Asylo.ExceptLemmas

/-! What the deserializers of `serializer_functions.cc` make of what the
serializers write, and of a reader of the host's choosing.

A reader is walked `Clean`ly while every access so far is inside it
(`HostCallsProofs.readInside`). One lemma per node says that a node the
serializer wrote is read back as it was, cleanly, wherever it lies in the
reader (`ReadsBack`); the loop then reads back a list of such nodes one after
another (`deserializeList_readsBack`). That gives the round trips
`deserializeAddrinfo_serializeAddrInfo` and
`deserializeIfAddrs_serializeIfAddrs`, for nodes whose fields the generated
conversions carry to Linux's values and back, whose addresses are Linux
`sockaddr` structures of a known family and whose strings hold no NUL.

The guard before each loop compares `in->size()` with the count times the
extents of a node, leaving out the extent of the count: a serialization that
has lost its last extent passes it, and the last round takes the extent at
index `size()`, past the end of the reader. -/
namespace Asylo.SerializerFunctions

open Message HostCalls HostCallsProofs TypeConversions

/-! ## Walking a reader cleanly -/

/-- A reading of the reader `extents` whose accesses were all inside it. -/
def Clean (extents : List Extent) (r : Reading) : Prop :=
  r.reader.extents = extents ∧ ∀ access ∈ r.log, readInside extents access = true

theorem clean_start (extents : List Extent) : Clean extents (Reading.start ⟨extents, 0⟩) :=
  ⟨rfl, by simp [Reading.start]⟩

section Steps

variable {extents : List Extent} {r : Reading} (env : Env)

theorem Clean.append {accesses : List Access} (clean : Clean extents r)
    (inside : ∀ access ∈ accesses, readInside extents access = true) (reader : MessageReader)
    (same : reader.extents = extents) : Clean extents ⟨reader, r.log ++ accesses⟩ := by
  refine ⟨same, fun access member => ?_⟩
  rcases List.mem_append.mp member with old | new
  · exact clean.2 access old
  · exact inside access new

theorem Clean.push {access : Access} (clean : Clean extents r) (inside : readInside extents access = true)
    (reader : MessageReader) (same : reader.extents = extents) : Clean extents ⟨reader, r.log ++ [access]⟩ :=
  clean.append (by simpa using inside) reader same

/-- Taking an extent that is there. -/
theorem Clean.next {extent : Extent} (clean : Clean extents r) (found : extents[r.reader.pos]? = some extent) :
    ∃ r', r.next env = (extent, r.reader.pos, r') ∧ Clean extents r' ∧ r'.reader.pos = r.reader.pos + 1 := by
  have inside : r.reader.pos < extents.length := (List.getElem?_eq_some_iff.mp found).1
  have taken : readInside extents (Reading.indexAccess r.reader) = true := by
    rw [show r.reader = ⟨extents, r.reader.pos⟩ from by rw [← clean.1]]
    exact readInside_indexAccess inside
  refine ⟨⟨⟨r.reader.extents, r.reader.pos + 1⟩, r.log ++ [Reading.indexAccess r.reader]⟩, ?_,
    clean.push taken _ clean.1, rfl⟩
  rw [Reading.next_eq, HostCallsProofs.found, clean.1, List.getD_eq_getElem?_getD, found, Option.getD_some]

/-- `next<T>()` of an extent that is there and holds a whole `T`. -/
theorem Clean.nextScalar {extent : Extent} {width : Nat} (clean : Clean extents r)
    (found : extents[r.reader.pos]? = some extent) (wide : width ≤ extent.length) :
    ∃ r', r.nextScalar env width = (LittleEndian.decode (extent.take width), r') ∧ Clean extents r' ∧
      r'.reader.pos = r.reader.pos + 1 := by
  obtain ⟨taken, next, takenClean, takenPos⟩ := clean.next env found
  have inside : r.reader.pos < extents.length := (List.getElem?_eq_some_iff.mp found).1
  refine ⟨{ taken with log := taken.log ++ [Reading.objectAccess extent r.reader.pos width] }, ?_,
    takenClean.push ?_ taken.reader takenClean.1, takenPos⟩
  · simp only [Reading.nextScalar, next, Reading.scalarValue, extentAs, if_pos wide]
  · simp [Reading.objectAccess, wide, readInside, found]

end Steps

/-! ## What the writer pushes, read back -/

@[simp] theorem length_pushInt (value : Int32) : (pushInt value).length = 4 := LittleEndian.length_encode 4 _

@[simp] theorem length_pushUnsigned (value : UInt32) : (pushUnsigned value).length = 4 :=
  LittleEndian.length_encode 4 _

@[simp] theorem length_pushUint64 (value : Nat) : (pushUint64 value).length = 8 := LittleEndian.length_encode 8 _

theorem decode_pushInt (value : Int32) :
    (UInt32.ofNat (LittleEndian.decode ((pushInt value).take 4))).toInt32 = value := by
  have small : value.toUInt32.toNat < 256 ^ 4 := by simpa using value.toUInt32.toNat_lt
  rw [← length_pushInt value, List.take_length, pushInt, LittleEndian.decode_encode_of_lt small]
  simp

theorem decode_pushUnsigned (value : UInt32) :
    UInt32.ofNat (LittleEndian.decode ((pushUnsigned value).take 4)) = value := by
  have small : value.toNat < 256 ^ 4 := by simpa using value.toNat_lt
  rw [← length_pushUnsigned value, List.take_length, pushUnsigned, LittleEndian.decode_encode_of_lt small]
  simp

theorem decode_pushUint64 (value : Nat) : LittleEndian.decode ((pushUint64 value).take 8) = value % 2 ^ 64 := by
  rw [← length_pushUint64 value, List.take_length, pushUint64, LittleEndian.decode_encode,
    show (256 : Nat) ^ 8 = 2 ^ 64 by decide]

section Scalars

variable {extents : List Extent} {r : Reading} (env : Env)

theorem Clean.nextInt {value : Int32} (clean : Clean extents r)
    (found : extents[r.reader.pos]? = some (pushInt value)) :
    ∃ r', nextInt env r = (value, r') ∧ Clean extents r' ∧ r'.reader.pos = r.reader.pos + 1 := by
  obtain ⟨r', read, cleanAfter, pos⟩ := clean.nextScalar env found (show 4 ≤ (pushInt value).length by simp)
  exact ⟨r', by simp only [SerializerFunctions.nextInt, read, decode_pushInt], cleanAfter, pos⟩

theorem Clean.nextUnsigned {value : UInt32} (clean : Clean extents r)
    (found : extents[r.reader.pos]? = some (pushUnsigned value)) :
    ∃ r', nextUnsigned env r = (value, r') ∧ Clean extents r' ∧ r'.reader.pos = r.reader.pos + 1 := by
  obtain ⟨r', read, cleanAfter, pos⟩ := clean.nextScalar env found (show 4 ≤ (pushUnsigned value).length by simp)
  exact ⟨r', by simp only [SerializerFunctions.nextUnsigned, read, decode_pushUnsigned], cleanAfter, pos⟩

end Scalars

/-- `strdup` of a pushed string gives the string back, reading its extent to
the NUL and no further. -/
theorem strdup_pushString (env : Env) (tables : Tables) {name : List UInt8} (index : Nat) (noNul : 0 ∉ name) :
    strdup env tables (pushString (some name)) index = (name, .bytes index 0 (name.length + 1)) := by
  have firstNul : (name ++ [0]).findIdx? (· == 0) = some name.length := by
    have noneBefore : name.findIdx? (· == 0) = none :=
      List.findIdx?_eq_none_iff.mpr fun x member => beq_eq_false_iff_ne.mpr fun zero => noNul (zero ▸ member)
    simp [List.findIdx?_append, noneBefore]
  simp [strdup, pushString, firstNul]

/-! ## Addresses -/

/-- The `sockaddr` structures of Linux that the deserializers convert back
to the same bytes: the host's own, of a family the conversion knows, with its
family in Linux's numbering. -/
inductive KlinuxSockaddr : List UInt8 → Prop
  | un (path : UnsafeBytes 108) : KlinuxSockaddr (sockaddrUn kLinuxAfUnix.toNat path.1)
  | inet (port : UInt16) (addr : UInt32) (zero : UnsafeBytes 8) :
    KlinuxSockaddr (sockaddrIn kLinuxAfInet.toNat port.toNat addr.toNat zero.1)
  | inet6 (port : UInt16) (flowinfo scopeId : UInt32) (addr : UnsafeBytes 16) :
    KlinuxSockaddr (sockaddrIn6 kLinuxAfInet6.toNat port.toNat flowinfo.toNat addr.1 scopeId.toNat)

/-- A conversion that gives back the structure it was handed, into the start
of the zeroed storage. -/
theorem convertSockaddr_of_converted {sock : List UInt8} (wide : sizeofKlinuxSockaddr ≤ sock.length)
    (converted : fromkLinuxSockAddr sock sock.length (List.replicate sizeofSockaddrStorage 0) sizeofSockaddrStorage =
      .converted (sock ++ (List.replicate sizeofSockaddrStorage 0).drop sock.length) sock.length) :
    convertSockaddr sock = .ok sock := by
  simp only [convertSockaddr, extentAs, if_pos wide, converted, List.take_left']

theorem convertSockaddr_of_klinux {sock : List UInt8} (klinux : KlinuxSockaddr sock) :
    convertSockaddr sock = .ok sock := by
  cases klinux with
  | un path =>
    have sized : (sockaddrUn kLinuxAfUnix.toNat path.1).length = sizeofKlinuxSockaddrUn := by
      simp [sockaddrUn, path.2, sizeofKlinuxSockaddrUn]
    have converted := fromkLinuxSockAddr_sockaddrUn path [] (List.replicate sizeofSockaddrStorage 0)
      (show sizeofSockaddrUn ≤ sizeofSockaddrStorage by decide)
    rw [List.append_nil, show AF_UNIX = kLinuxAfUnix.toNat from rfl,
      show sizeofSockaddrUn = sizeofKlinuxSockaddrUn from rfl] at converted
    apply convertSockaddr_of_converted (by rw [sized]; decide)
    rw [sized]
    exact converted
  | inet port addr zero =>
    have sized : (sockaddrIn kLinuxAfInet.toNat port.toNat addr.toNat zero.1).length = sizeofKlinuxSockaddrIn := by
      simp [sockaddrIn, zero.2, sizeofKlinuxSockaddrIn]
    have converted := fromkLinuxSockAddr_sockaddrIn port addr zero [] (List.replicate sizeofSockaddrStorage 0)
      (show sizeofSockaddrIn ≤ sizeofSockaddrStorage by decide)
    rw [List.append_nil, show AF_INET = kLinuxAfInet.toNat from rfl,
      show sizeofSockaddrIn = sizeofKlinuxSockaddrIn from rfl] at converted
    apply convertSockaddr_of_converted (by rw [sized]; decide)
    rw [sized]
    exact converted
  | inet6 port flowinfo scopeId addr =>
    have sized : (sockaddrIn6 kLinuxAfInet6.toNat port.toNat flowinfo.toNat addr.1 scopeId.toNat).length =
        sizeofKlinuxSockaddrIn6 := by
      simp [sockaddrIn6, addr.2, sizeofKlinuxSockaddrIn6]
    have converted := fromkLinuxSockAddr_sockaddrIn6 port flowinfo scopeId addr [] (List.replicate sizeofSockaddrStorage 0)
      (show sizeofSockaddrIn6 ≤ sizeofSockaddrStorage by decide)
    rw [List.append_nil, show AF_INET6 = kLinuxAfInet6.toNat from rfl,
      show sizeofSockaddrIn6 = sizeofKlinuxSockaddrIn6 from rfl] at converted
    apply convertSockaddr_of_converted (by rw [sized]; decide)
    rw [sized]
    exact converted

theorem KlinuxSockaddr.ne_nil {sock : List UInt8} (klinux : KlinuxSockaddr sock) : sock ≠ [] := by
  cases klinux <;> simp [sockaddrUn, sockaddrIn, sockaddrIn6, LittleEndian.encode]

/-- The address of an `addrinfo` node read back: empty, or converted to
itself. -/
theorem addrinfoAddress_restored {addr : List UInt8} (restorable : addr = [] ∨ KlinuxSockaddr addr) :
    (if addr = [] then .ok [] else convertSockaddr addr : Step (List UInt8)) = .ok addr := by
  rcases restorable with empty | klinux
  · simp [empty]
  · simp [klinux.ne_nil, convertSockaddr_of_klinux klinux]

/-! ## Reading back one node -/

/-- `node` reads `info` back from the extents `encoded`, cleanly, wherever
they lie in a reader. -/
def ReadsBack {α : Type} (node : Reading → Step α × Reading) (info : α) (encoded : List Extent) : Prop :=
  ∀ (pre post : List Extent) (r : Reading), Clean (pre ++ encoded ++ post) r → r.reader.pos = pre.length →
    ∃ r', node r = (.ok info, r') ∧ Clean (pre ++ encoded ++ post) r' ∧ r'.reader.pos = pre.length + encoded.length

theorem getElem?_middle (pre encoded post : List Extent) (i : Nat) (inside : i < encoded.length) :
    (pre ++ encoded ++ post)[pre.length + i]? = encoded[i]? := by
  rw [List.append_assoc, List.getElem?_append_right (by omega), Nat.add_sub_cancel_left,
    List.getElem?_append_left inside]

/-- An `addrinfo` node whose flags, family and socket type the conversions
carry to Linux's values and back, whose address is empty or a Linux structure
of a family the conversion knows, and whose canonical name holds no NUL. -/
structure Addrinfo.Restorable (tables : Tables) (info : Addrinfo) : Prop where
  flags : ∀ k, tables.tokLinuxAddressInfoFlag info.aiFlags = some k →
    tables.fromkLinuxAddressInfoFlag k = some info.aiFlags
  family : ∀ k, tables.tokLinuxAfFamily info.aiFamily = some k → tables.fromkLinuxAfFamily k = some info.aiFamily
  socktype : ∀ k, tables.tokLinuxSocketType info.aiSocktype = some k →
    tables.fromkLinuxSocketType k = some info.aiSocktype
  addr : info.aiAddr = [] ∨ KlinuxSockaddr info.aiAddr
  canonname : ∀ name, info.aiCanonname = some name → 0 ∉ name

/-- What `SerializeAddrInfo` pushes for a node, without the explicit
conversion of its address. -/
theorem serializeAddrInfoNode_eq_ok {tables : Tables} {info : Addrinfo} {encoded : List Extent}
    (serialized : serializeAddrInfoNode tables false info = .ok encoded) :
    ∃ flags family socktype, tables.tokLinuxAddressInfoFlag info.aiFlags = some flags ∧
      tables.tokLinuxAfFamily info.aiFamily = some family ∧ tables.tokLinuxSocketType info.aiSocktype = some socktype ∧
      encoded = [pushInt flags, pushInt family, pushInt socktype, pushInt info.aiProtocol, info.aiAddr,
        pushString info.aiCanonname] := by
  unfold serializeAddrInfoNode at serialized
  split at serialized
  · rename_i flags family socktype convertedFlags convertedFamily convertedSocktype
    simp only [Bool.not_false, if_true, pure, Except.pure, bind, Except.bind, Except.ok.injEq] at serialized
    exact ⟨flags, family, socktype, convertedFlags, convertedFamily, convertedSocktype, serialized.symm⟩
  · cases serialized

theorem readsBack_addrinfo (env : Env) {tables : Tables} {info : Addrinfo} (restorable : info.Restorable tables)
    {encoded : List Extent} (serialized : serializeAddrInfoNode tables false info = .ok encoded) :
    ReadsBack (deserializeAddrinfoNode env tables) info encoded := by
  obtain ⟨flags, family, socktype, toFlags, toFamily, toSocktype, rfl⟩ := serializeAddrInfoNode_eq_ok serialized
  obtain ⟨aiFlags, aiFamily, aiSocktype, aiProtocol, aiAddr, aiCanonname⟩ := info
  intro pre post r clean pos
  -- the six extents of the node, at the positions the reader takes them
  have found (i : Nat) (inside : i < 6) {q : Nat} (atPos : q = pre.length + i) :
      (pre ++ [pushInt flags, pushInt family, pushInt socktype, pushInt aiProtocol, aiAddr,
        pushString aiCanonname] ++ post)[q]? =
      [pushInt flags, pushInt family, pushInt socktype, pushInt aiProtocol, aiAddr, pushString aiCanonname][i]? := by
    rw [atPos, getElem?_middle _ _ _ i (by simpa using inside)]
  obtain ⟨r1, read1, clean1, pos1⟩ := clean.nextInt env (found 0 (by decide) (by omega))
  obtain ⟨r2, read2, clean2, pos2⟩ := clean1.nextInt env (found 1 (by decide) (by omega))
  obtain ⟨r3, read3, clean3, pos3⟩ := clean2.nextInt env (found 2 (by decide) (by omega))
  obtain ⟨r4, read4, clean4, pos4⟩ := clean3.nextInt env (found 3 (by decide) (by omega))
  obtain ⟨r5, read5, clean5, pos5⟩ := clean4.next env (found 4 (by decide) (by omega))
  obtain ⟨r6, read6, clean6, pos6⟩ := clean5.next env (found 5 (by decide) (by omega))
  have endPos : r6.reader.pos = pre.length + 6 := by omega
  simp only [deserializeAddrinfoNode, read1, read2, read3, read4, read5, read6, restorable.flags _ toFlags,
    restorable.family _ toFamily, restorable.socktype _ toSocktype, addrinfoAddress_restored restorable.addr]
  cases aiCanonname with
  | none => exact ⟨r6, by simp [pushString], clean6, by simp [endPos]⟩
  | some name =>
    have noNul := restorable.canonname name rfl
    have nameExtent := found 5 (by decide) (show r5.reader.pos = pre.length + 5 by omega)
    refine ⟨{ r6 with log := r6.log ++ [.bytes r5.reader.pos 0 (name.length + 1)] }, ?_,
      clean6.push ?_ r6.reader clean6.1, by simp [endPos]⟩
    · rw [if_neg (by simp [pushString]), strdup_pushString env tables _ noNul]
    · simp only [readInside]
      rw [nameExtent]
      simp [pushString]

/-- A supported `ifaddrs` node whose flags the conversions carry to Linux's
values and back, whose name is a string with no NUL, and whose addresses are
Linux structures of a family the conversion knows. -/
structure Ifaddrs.Restorable (tables : Tables) (entry : Ifaddrs) : Prop where
  flags : ∀ k, tables.tokLinuxIffFlag entry.ifaFlags = some k → tables.fromkLinuxIffFlag k = some entry.ifaFlags
  name : ∃ name, entry.ifaName = some name ∧ 0 ∉ name
  addr : ∀ sock, entry.ifaAddr = some sock → KlinuxSockaddr sock
  netmask : ∀ sock, entry.ifaNetmask = some sock → KlinuxSockaddr sock
  dstaddr : ∀ sock, entry.ifaDstaddr = some sock → KlinuxSockaddr sock

/-- The host's own structure is pushed as it is: its family, read in the
enclave's numbering, is the same. -/
theorem pushSockAddr_of_klinux {sock : List UInt8} (klinux : KlinuxSockaddr sock) :
    pushSockAddr (some sock) = .ok sock := by
  cases klinux with
  | un path =>
    have family := (sockaddrUn_fields kLinuxAfUnix.toNat [] path.2).1
    rw [List.append_nil] at family
    have sized : (sockaddrUn kLinuxAfUnix.toNat path.1).length = sizeofSockaddrUn := by
      simp [sockaddrUn, path.2, sizeofSockaddrUn]
    rw [pushSockAddr, if_pos (by rw [family]; rfl), ← sized, List.take_length]
  | inet port addr zero =>
    have family := (sockaddrIn_fields kLinuxAfInet.toNat port.toNat addr.toNat [] zero.2).1
    rw [List.append_nil] at family
    have sized : (sockaddrIn kLinuxAfInet.toNat port.toNat addr.toNat zero.1).length = sizeofSockaddrIn := by
      simp [sockaddrIn, zero.2, sizeofSockaddrIn]
    rw [pushSockAddr, if_neg (by rw [family]; decide), if_pos (by rw [family]; rfl), ← sized, List.take_length]
  | inet6 port flowinfo scopeId addr =>
    have family := (sockaddrIn6_fields kLinuxAfInet6.toNat port.toNat flowinfo.toNat scopeId.toNat [] addr.2).1
    rw [List.append_nil] at family
    have sized : (sockaddrIn6 kLinuxAfInet6.toNat port.toNat flowinfo.toNat addr.1 scopeId.toNat).length =
        sizeofSockaddrIn6 := by
      simp [sockaddrIn6, addr.2, sizeofSockaddrIn6]
    rw [pushSockAddr, if_neg (by rw [family]; decide), if_neg (by rw [family]; decide), if_pos (by rw [family]; rfl),
      ← sized, List.take_length]

/-- An optional address pushed and read back. -/
theorem optionalSockaddr_restored {sock : Option (List UInt8)} (restorable : ∀ s, sock = some s → KlinuxSockaddr s) :
    ∃ extent, pushSockAddr sock = .ok extent ∧ optionalSockaddr extent = .ok sock := by
  cases sock with
  | none => exact ⟨[], rfl, rfl⟩
  | some s =>
    have klinux := restorable s rfl
    refine ⟨s, pushSockAddr_of_klinux klinux, ?_⟩
    simp [optionalSockaddr, klinux.ne_nil, convertSockaddr_of_klinux klinux]

/-- What `SerializeIfAddrs` pushes for a supported node, without the explicit
conversion of its addresses. -/
theorem serializeIfAddrsNode_eq_ok {entry : Ifaddrs} {flags : UInt32} {encoded : List Extent}
    (serialized : serializeIfAddrsNode false entry flags = .ok encoded) :
    ∃ addr netmask dstaddr, pushSockAddr entry.ifaAddr = .ok addr ∧ pushSockAddr entry.ifaNetmask = .ok netmask ∧
      pushSockAddr entry.ifaDstaddr = .ok dstaddr ∧
      encoded = [pushString entry.ifaName, pushUnsigned flags, addr, netmask, dstaddr] := by
  simp only [serializeIfAddrsNode, Bool.not_false, if_true, bind, Except.bind, pure, Except.pure] at serialized
  split at serialized
  · cases serialized
  · rename_i addr pushedAddr
    split at serialized
    · cases serialized
    · rename_i netmask pushedNetmask
      split at serialized
      · cases serialized
      · rename_i dstaddr pushedDstaddr
        exact ⟨addr, netmask, dstaddr, pushedAddr, pushedNetmask, pushedDstaddr, (Except.ok.inj serialized).symm⟩

theorem readsBack_ifaddrs (env : Env) {tables : Tables} {entry : Ifaddrs} (restorable : entry.Restorable tables)
    {flags : UInt32} (toFlags : tables.tokLinuxIffFlag entry.ifaFlags = some flags) {encoded : List Extent}
    (serialized : serializeIfAddrsNode false entry flags = .ok encoded) :
    ReadsBack (deserializeIfAddrsNode env tables) entry encoded := by
  obtain ⟨addr, netmask, dstaddr, pushedAddr, pushedNetmask, pushedDstaddr, rfl⟩ := serializeIfAddrsNode_eq_ok serialized
  obtain ⟨addr', pushedAddr', restoredAddr⟩ := optionalSockaddr_restored restorable.addr
  obtain ⟨netmask', pushedNetmask', restoredNetmask⟩ := optionalSockaddr_restored restorable.netmask
  obtain ⟨dstaddr', pushedDstaddr', restoredDstaddr⟩ := optionalSockaddr_restored restorable.dstaddr
  rw [pushedAddr, Except.ok.injEq] at pushedAddr'
  rw [pushedNetmask, Except.ok.injEq] at pushedNetmask'
  rw [pushedDstaddr, Except.ok.injEq] at pushedDstaddr'
  subst pushedAddr' pushedNetmask' pushedDstaddr'
  obtain ⟨name, named, noNul⟩ := restorable.name
  have fromFlags := restorable.flags _ toFlags
  obtain ⟨ifaName, ifaFlags, ifaAddr, ifaNetmask, ifaDstaddr⟩ := entry
  simp only at named fromFlags restoredAddr restoredNetmask restoredDstaddr
  subst named
  intro pre post r clean pos
  -- the five extents of the node, at the positions the reader takes them
  have found (i : Nat) (inside : i < 5) {q : Nat} (atPos : q = pre.length + i) :
      (pre ++ [pushString (some name), pushUnsigned flags, addr, netmask, dstaddr] ++ post)[q]? =
      [pushString (some name), pushUnsigned flags, addr, netmask, dstaddr][i]? := by
    rw [atPos, getElem?_middle _ _ _ i (by simpa using inside)]
  obtain ⟨r1, read1, clean1, pos1⟩ := clean.next env (found 0 (by decide) (by omega))
  obtain ⟨r2, read2, clean2, pos2⟩ := clean1.nextUnsigned env (found 1 (by decide) (by omega))
  obtain ⟨r3, read3, clean3, pos3⟩ := clean2.next env (found 2 (by decide) (by omega))
  obtain ⟨r4, read4, clean4, pos4⟩ := clean3.next env (found 3 (by decide) (by omega))
  obtain ⟨r5, read5, clean5, pos5⟩ := clean4.next env (found 4 (by decide) (by omega))
  have nameExtent := found 0 (by decide) (show r.reader.pos = pre.length + 0 by omega)
  refine ⟨{ r5 with log := r5.log ++ [.bytes r.reader.pos 0 (name.length + 1)] }, ?_,
    clean5.push ?_ r5.reader clean5.1, by simp only [List.length_cons, List.length_nil]; omega⟩
  · simp only [deserializeIfAddrsNode, read1, read2, read3, read4, read5, fromFlags,
      strdup_pushString env tables _ noNul, restoredAddr, restoredNetmask, restoredDstaddr]
    rfl
  · simp only [readInside]
    rw [nameExtent]
    simp [pushString]

/-! ## Reading back a list -/

section Loop

variable {α : Type} {node : Reading → Step α × Reading}

/-- The loop reads back, one after another, nodes each of which it reads back
alone, and then goes on from the extent after them. -/
theorem deserializeList_readsBack :
    ∀ (nodes : List (α × List Extent)), (∀ p ∈ nodes, ReadsBack node p.1 p.2) →
      ∀ (pre post : List Extent) (r : Reading) (count : Nat) (built : List α),
        Clean (pre ++ (nodes.map Prod.snd).flatten ++ post) r → r.reader.pos = pre.length →
        ∃ r', Clean (pre ++ (nodes.map Prod.snd).flatten ++ post) r' ∧
          r'.reader.pos = pre.length + (nodes.map Prod.snd).flatten.length ∧
          deserializeList node (nodes.length + count) built r =
            deserializeList node count (built ++ nodes.map Prod.fst) r'
  | [], _, pre, post, r, count, built, clean, pos => ⟨r, clean, by simp [pos], by simp⟩
  | (info, encoded) :: rest, reads, pre, post, r, count, built, clean, pos => by
    -- the first node lies between `pre` and the rest of the list
    have layout : pre ++ (((info, encoded) :: rest).map Prod.snd).flatten ++ post =
        pre ++ encoded ++ ((rest.map Prod.snd).flatten ++ post) := by
      simp
    rw [layout] at clean ⊢
    obtain ⟨r1, first, clean1, pos1⟩ := reads (info, encoded) (by simp) pre _ r clean pos
    have restLayout : pre ++ encoded ++ ((rest.map Prod.snd).flatten ++ post) =
        (pre ++ encoded) ++ (rest.map Prod.snd).flatten ++ post := by
      simp
    rw [restLayout] at clean1 ⊢
    obtain ⟨r', cleanEnd, posEnd, run⟩ := deserializeList_readsBack rest
      (fun p member => reads p (List.mem_cons_of_mem _ member)) (pre ++ encoded) post r1 count
      (built ++ [info]) clean1 (by simp [pos1])
    refine ⟨r', cleanEnd, by simp [posEnd, Nat.add_assoc], ?_⟩
    rw [show ((info, encoded) :: rest).length + count = (rest.length + count) + 1 by simp; omega,
      deserializeList, first]
    simpa using run

/-- A last round that ends the loop, however it goes, leaves the reading the
node left. -/
theorem deserializeList_one_reading (built : List α) (r : Reading) :
    (deserializeList node 1 built r).reading = (node r).2 := by
  simp only [deserializeList]
  split <;> rename_i taken <;> simp [taken]

end Loop

/-! ## What the serializers push -/

/-- `SerializeAddrInfo`'s loop pushes the nodes one after another. -/
theorem serializeAddrInfoLoop_eq_ok {tables : Tables} :
    ∀ {addrs : List Addrinfo} {extents : List Extent}, serializeAddrInfoLoop tables false addrs = .ok extents →
      ∃ nodes : List (Addrinfo × List Extent), nodes.map Prod.fst = addrs ∧ (nodes.map Prod.snd).flatten = extents ∧
        ∀ p ∈ nodes, serializeAddrInfoNode tables false p.1 = .ok p.2
  | [], extents, serialized => by
    simp only [serializeAddrInfoLoop, Except.ok.injEq] at serialized
    exact ⟨[], rfl, by simp [serialized], by simp⟩
  | addr :: rest, extents, serialized => by
    simp only [serializeAddrInfoLoop, Except.bind_eq_ok, pure, Except.pure, Except.ok.injEq] at serialized
    obtain ⟨encoded, first, restExtents, restSerialized, rfl⟩ := serialized
    obtain ⟨nodes, addrsOf, extentsOf, each⟩ := serializeAddrInfoLoop_eq_ok restSerialized
    refine ⟨(addr, encoded) :: nodes, by simp [addrsOf], by simp [extentsOf], ?_⟩
    intro p member
    rcases List.mem_cons.mp member with rfl | member
    · exact first
    · exact each p member

/-- `SerializeIfAddrs`'s loop pushes the supported nodes one after another,
each with its converted flags. -/
theorem serializeIfAddrsLoop_eq_ok {tables : Tables} :
    ∀ {addrs : List Ifaddrs} {extents : List Extent}, serializeIfAddrsLoop tables false addrs = .ok extents →
      ∃ nodes : List (Ifaddrs × List Extent), nodes.map Prod.fst = addrs.filter (isIfAddrSupported tables) ∧
        (nodes.map Prod.snd).flatten = extents ∧
        ∀ p ∈ nodes, ∃ flags, tables.tokLinuxIffFlag p.1.ifaFlags = some flags ∧
          serializeIfAddrsNode false p.1 flags = .ok p.2
  | [], extents, serialized => by
    simp only [serializeIfAddrsLoop, Except.ok.injEq] at serialized
    exact ⟨[], rfl, by simp [serialized], by simp⟩
  | addr :: rest, extents, serialized => by
    unfold serializeIfAddrsLoop at serialized
    by_cases supported : isIfAddrSupported tables addr = true
    · -- a supported node: its flags convert, and its extents come first
      obtain ⟨flags, toFlags⟩ := Option.isSome_iff_exists.mp (by simp [isIfAddrSupported] at supported; exact supported.2)
      simp only [if_pos supported, toFlags, Option.getD_some, Except.bind_eq_ok, pure, Except.pure,
        Except.ok.injEq] at serialized
      obtain ⟨encoded, first, restExtents, restSerialized, rfl⟩ := serialized
      obtain ⟨nodes, addrsOf, extentsOf, each⟩ := serializeIfAddrsLoop_eq_ok restSerialized
      refine ⟨(addr, encoded) :: nodes, by simp [addrsOf, supported], by simp [extentsOf], ?_⟩
      intro p member
      rcases List.mem_cons.mp member with rfl | member
      · exact ⟨flags, toFlags, first⟩
      · exact each p member
    · -- an unsupported node is skipped
      simp only [if_neg supported, Except.bind_eq_ok, pure, Except.pure, Except.ok.injEq] at serialized
      obtain ⟨_, rfl, restExtents, restSerialized, rfl⟩ := serialized
      obtain ⟨nodes, addrsOf, extentsOf, each⟩ := serializeIfAddrsLoop_eq_ok restSerialized
      exact ⟨nodes, by simp [addrsOf, supported], by simp [extentsOf], each⟩

/-! ## The count and the loop -/

theorem linked_of_ne_nil {α : Type} {nodes : List α} (nonempty : nodes ≠ []) : linked nodes = .list nodes := by
  cases nodes with
  | nil => exact absurd rfl nonempty
  | cons _ _ => rfl

section Counted

variable {α : Type} {perNode : Nat} {node : Reading → Step α × Reading}

theorem length_flatten_of_sized :
    ∀ (nodes : List (α × List Extent)), (∀ p ∈ nodes, p.2.length = perNode) →
      (nodes.map Prod.snd).flatten.length = nodes.length * perNode
  | [], _ => by simp
  | p :: rest, sized => by
    have restLength := length_flatten_of_sized rest fun q member => sized q (List.mem_cons_of_mem _ member)
    simp only [List.map_cons, List.flatten_cons, List.length_append, restLength, sized p (by simp),
      List.length_cons, Nat.succ_mul]
    omega

/-- The count read cleanly from the first extent of a reader that starts with
it. -/
theorem start_count (env : Env) (count : Nat) (rest : List Extent) :
    ∃ r, (Reading.start ⟨pushUint64 count :: rest, 0⟩).nextScalar env 8 = (count % 2 ^ 64, r) ∧
      Clean (pushUint64 count :: rest) r ∧ r.reader.pos = 1 := by
  obtain ⟨r, read, clean, pos⟩ := (clean_start (pushUint64 count :: rest)).nextScalar env
    (show (pushUint64 count :: rest)[(Reading.start ⟨pushUint64 count :: rest, 0⟩).reader.pos]? =
      some (pushUint64 count) from rfl) (show 8 ≤ (pushUint64 count).length by simp)
  exact ⟨r, by rw [read, decode_pushUint64], clean, pos⟩

/-- A reader that holds the count of its nodes and then the nodes, each of
which the loop reads back alone, is read back whole and cleanly. -/
theorem deserializeCounted_readsBack (env : Env) (nodes : List (α × List Extent))
    (reads : ∀ p ∈ nodes, ReadsBack node p.1 p.2) (sized : ∀ p ∈ nodes, p.2.length = perNode)
    (fewer : nodes.length < 2 ^ 64) :
    let extents := pushUint64 nodes.length :: (nodes.map Prod.snd).flatten
    let d := deserializeCounted env perNode node (Reading.start ⟨extents, 0⟩)
    d.ending = .returned true ∧ d.out = .list (nodes.map Prod.fst) ∧ d.freedOut = false ∧ Clean extents d.reading := by
  intro extents d
  obtain ⟨r1, read1, clean1, pos1⟩ := start_count env nodes.length (nodes.map Prod.snd).flatten
  have size1 : r1.reader.size = 1 + nodes.length * perNode := by
    simp [MessageReader.size, clean1.1, length_flatten_of_sized nodes sized, Nat.add_comm]
  have counted : d = if nodes.length = 0 then ⟨.returned true, .list [], false, r1⟩
      else if r1.reader.size < nodes.length * perNode % 2 ^ 64 then ⟨.returned false, .unwritten, false, r1⟩
      else deserializeList node nodes.length [] r1 := by
    simp only [d, extents, deserializeCounted, read1, Nat.mod_eq_of_lt fewer]
    rfl
  by_cases empty : nodes = []
  · subst empty
    rw [counted, if_pos List.length_nil]
    exact ⟨rfl, rfl, rfl, clean1⟩
  -- the guard counts the extents of the nodes against all of the reader's
  have passes : ¬ r1.reader.size < nodes.length * perNode % 2 ^ 64 := by
    have := Nat.mod_le (nodes.length * perNode) (2 ^ 64)
    omega
  have clean1' : Clean ([pushUint64 nodes.length] ++ (nodes.map Prod.snd).flatten ++ []) r1 := by
    simpa using clean1
  obtain ⟨r', cleanEnd, -, run⟩ := deserializeList_readsBack nodes reads _ _ r1 0 [] clean1' (by simpa using pos1)
  rw [Nat.add_zero] at run
  rw [counted, if_neg (by simpa using empty), if_neg passes, run]
  rw [deserializeList, List.nil_append]
  exact ⟨rfl, linked_of_ne_nil (by simpa using empty), rfl, by simpa using cleanEnd⟩

end Counted

/-! ## Where each round takes its last extent -/

theorem deserializeAddrinfoNode_takes_last (env : Env) (tables : Tables) (r : Reading) :
    Reading.indexAccess ⟨r.reader.extents, r.reader.pos + 5⟩ ∈ (deserializeAddrinfoNode env tables r).2.log := by
  simp only [deserializeAddrinfoNode, SerializerFunctions.nextInt, Reading.nextScalar_eq, Reading.next_eq]
  -- whether the fields convert, the address converts and the name is copied,
  -- the six extents have been taken
  split
  · split
    · simp
    · split <;> simp
  · simp

theorem deserializeIfAddrsNode_takes_last (env : Env) (tables : Tables) (r : Reading) :
    Reading.indexAccess ⟨r.reader.extents, r.reader.pos + 4⟩ ∈ (deserializeIfAddrsNode env tables r).2.log := by
  simp only [deserializeIfAddrsNode, SerializerFunctions.nextUnsigned, Reading.nextScalar_eq, Reading.next_eq]
  split <;> simp

section PastEnd

variable {α : Type} {perNode : Nat} {node : Reading → Step α × Reading}

/-- A reader whose count is one more than the nodes it holds whole, followed
by all but the last extent of one more node, passes the guard: its last round
takes the extent at index `size()`, past the end of the reader. -/
theorem deserializeCounted_reads_past_end (env : Env) (nodes : List (α × List Extent)) {last : List Extent}
    (reads : ∀ p ∈ nodes, ReadsBack node p.1 p.2) (sized : ∀ p ∈ nodes, p.2.length = perNode)
    (lastSized : last.length = perNode) (nonempty : last ≠ []) (takesLast : ∀ r : Reading,
      Reading.indexAccess ⟨r.reader.extents, r.reader.pos + (perNode - 1)⟩ ∈ (node r).2.log)
    (fewer : nodes.length + 1 < 2 ^ 64) :
    let extents := pushUint64 (nodes.length + 1) :: ((nodes.map Prod.snd).flatten ++ last.dropLast)
    Access.pastEnd extents.length ∈ (deserializeCounted env perNode node (Reading.start ⟨extents, 0⟩)).reading.log := by
  intro extents
  have perNodePos : 0 < perNode := lastSized ▸ List.length_pos_iff.mpr nonempty
  have size : extents.length = (nodes.length + 1) * perNode := by
    simp only [extents, List.length_cons, List.length_append, length_flatten_of_sized nodes sized,
      List.length_dropLast, lastSized, Nat.succ_mul]
    generalize nodes.length * perNode = body
    omega
  obtain ⟨r1, read1, clean1, pos1⟩ := start_count env (nodes.length + 1) ((nodes.map Prod.snd).flatten ++ last.dropLast)
  -- the guard compares the `size()` of the reader, count included, with the extents of the nodes
  have passes : ¬ r1.reader.size < (nodes.length + 1) * perNode % 2 ^ 64 := by
    have := Nat.mod_le ((nodes.length + 1) * perNode) (2 ^ 64)
    simp only [MessageReader.size, clean1.1]
    change ¬ extents.length < _
    omega
  have counted : deserializeCounted env perNode node (Reading.start ⟨extents, 0⟩) =
      deserializeList node (nodes.length + 1) [] r1 := by
    simp only [deserializeCounted, extents, read1, Nat.mod_eq_of_lt fewer]
    rw [if_neg (by simp [Reading.start, MessageReader.size]), if_neg (Nat.succ_ne_zero _), if_neg passes]
  have clean1' : Clean ([pushUint64 (nodes.length + 1)] ++ (nodes.map Prod.snd).flatten ++ last.dropLast) r1 := by
    simpa using clean1
  obtain ⟨r', cleanEnd, posEnd, run⟩ := deserializeList_readsBack nodes reads _ _ r1 1 [] clean1' (by simpa using pos1)
  rw [counted, run, deserializeList_one_reading]
  have atEnd : r'.reader.pos + (perNode - 1) = extents.length := by
    rw [posEnd, size, length_flatten_of_sized nodes sized, Nat.succ_mul]
    simp only [List.length_singleton]
    generalize nodes.length * perNode = body
    omega
  have taken := takesLast r'
  rw [cleanEnd.1, atEnd] at taken
  simpa [Reading.indexAccess, MessageReader.size, extents] using taken

end PastEnd

/-! ## The round trips and the guard -/

/-- What `SerializeAddrInfo` pushes for a node of six extents. -/
theorem serializeAddrInfoNode_length {tables : Tables} {info : Addrinfo} {encoded : List Extent}
    (serialized : serializeAddrInfoNode tables false info = .ok encoded) : encoded.length = 6 := by
  obtain ⟨_, _, _, _, _, _, rfl⟩ := serializeAddrInfoNode_eq_ok serialized
  rfl

theorem serializeIfAddrsNode_length {entry : Ifaddrs} {flags : UInt32} {encoded : List Extent}
    (serialized : serializeIfAddrsNode false entry flags = .ok encoded) : encoded.length = 5 := by
  obtain ⟨_, _, _, _, _, _, rfl⟩ := serializeIfAddrsNode_eq_ok serialized
  rfl

/-- The nodes `SerializeAddrInfo` pushes for a list whose nodes are
restorable, each of which the loop of `DeserializeAddrinfo` reads back. -/
theorem serializeAddrInfo_nodes {tables : Tables} {addrs : List Addrinfo} {extents : List Extent} (env : Env)
    (restorable : ∀ info ∈ addrs, info.Restorable tables)
    (serialized : serializeAddrInfo tables addrs false = .ok extents) :
    ∃ nodes : List (Addrinfo × List Extent), nodes.map Prod.fst = addrs ∧
      extents = pushUint64 nodes.length :: (nodes.map Prod.snd).flatten ∧
      (∀ p ∈ nodes, ReadsBack (deserializeAddrinfoNode env tables) p.1 p.2) ∧ ∀ p ∈ nodes, p.2.length = 6 := by
  simp only [serializeAddrInfo, Except.bind_eq_ok, pure, Except.pure, Except.ok.injEq] at serialized
  obtain ⟨body, loop, rfl⟩ := serialized
  obtain ⟨nodes, addrsOf, rfl, each⟩ := serializeAddrInfoLoop_eq_ok loop
  subst addrsOf
  exact ⟨nodes, rfl, by simp,
    fun p member => readsBack_addrinfo env (restorable _ (List.mem_map_of_mem member)) (each p member),
    fun p member => serializeAddrInfoNode_length (each p member)⟩

/-- The supported nodes `SerializeIfAddrs` pushes, each of which the loop of
`DeserializeIfAddrs` reads back. -/
theorem serializeIfAddrs_nodes {tables : Tables} {ifaddrs : List Ifaddrs} {extents : List Extent} (env : Env)
    (restorable : ∀ entry ∈ ifaddrs, isIfAddrSupported tables entry = true → entry.Restorable tables)
    (serialized : serializeIfAddrs tables ifaddrs false = .ok extents) :
    ∃ nodes : List (Ifaddrs × List Extent), nodes.map Prod.fst = ifaddrs.filter (isIfAddrSupported tables) ∧
      extents = pushUint64 nodes.length :: (nodes.map Prod.snd).flatten ∧
      (∀ p ∈ nodes, ReadsBack (deserializeIfAddrsNode env tables) p.1 p.2) ∧ ∀ p ∈ nodes, p.2.length = 5 := by
  unfold serializeIfAddrs at serialized
  split at serialized
  · cases serialized
  simp only [Except.bind_eq_ok, pure, Except.pure, Except.ok.injEq] at serialized
  obtain ⟨body, loop, rfl⟩ := serialized
  obtain ⟨nodes, entriesOf, rfl, each⟩ := serializeIfAddrsLoop_eq_ok loop
  have counted : getNumIfAddrs tables ifaddrs = nodes.length := by
    rw [getNumIfAddrs, ← entriesOf, List.length_map]
  refine ⟨nodes, entriesOf, by rw [counted], fun p member => ?_, fun p member => ?_⟩
  · obtain ⟨flags, toFlags, node⟩ := each p member
    have kept : p.1 ∈ ifaddrs.filter (isIfAddrSupported tables) := entriesOf ▸ List.mem_map_of_mem member
    rw [List.mem_filter] at kept
    exact readsBack_ifaddrs env (restorable _ kept.1 kept.2) toFlags node
  · obtain ⟨flags, -, node⟩ := each p member
    exact serializeIfAddrsNode_length node

/-- `DeserializeAddrinfo` reads back what `SerializeAddrInfo` pushed: the
same list, cleanly, with nothing freed. -/
theorem deserializeAddrinfo_serializeAddrInfo (env : Env) {tables : Tables} {addrs : List Addrinfo}
    (restorable : ∀ info ∈ addrs, info.Restorable tables) (fewer : addrs.length < 2 ^ 64)
    {extents : List Extent} (serialized : serializeAddrInfo tables addrs false = .ok extents) :
    let d := deserializeAddrinfo env tables (Reading.start ⟨extents, 0⟩)
    d.ending = .returned true ∧ d.out = .list addrs ∧ d.freedOut = false ∧ Clean extents d.reading := by
  obtain ⟨nodes, rfl, rfl, reads, sized⟩ := serializeAddrInfo_nodes env restorable serialized
  exact deserializeCounted_readsBack env nodes reads sized (by simpa using fewer)

/-- `DeserializeIfAddrs` reads back what `SerializeIfAddrs` pushed: the
supported nodes, cleanly, with nothing freed. -/
theorem deserializeIfAddrs_serializeIfAddrs (env : Env) {tables : Tables} {ifaddrs : List Ifaddrs}
    (restorable : ∀ entry ∈ ifaddrs, isIfAddrSupported tables entry = true → entry.Restorable tables)
    (fewer : ifaddrs.length < 2 ^ 64) {extents : List Extent}
    (serialized : serializeIfAddrs tables ifaddrs false = .ok extents) :
    let d := deserializeIfAddrs env tables (Reading.start ⟨extents, 0⟩)
    d.ending = .returned true ∧ d.out = .list (ifaddrs.filter (isIfAddrSupported tables)) ∧ d.freedOut = false ∧
      Clean extents d.reading := by
  obtain ⟨nodes, entriesOf, rfl, reads, sized⟩ := serializeIfAddrs_nodes env restorable serialized
  have shorter : nodes.length ≤ ifaddrs.length := by
    rw [← List.length_map Prod.fst, entriesOf]
    exact List.length_filter_le _ _
  rw [← entriesOf]
  exact deserializeCounted_readsBack env nodes reads sized (by omega)

/-- The nodes pushed for a nonempty list, split at the last. -/
theorem nodes_split_last {α : Type} {nodes : List (α × List Extent)} {perNode : Nat} (nonempty : nodes ≠ [])
    (sized : ∀ p ∈ nodes, p.2.length = perNode) (perNodePos : 0 < perNode) :
    ∃ init last, nodes = init ++ [last] ∧ last.2 ≠ [] ∧
      (pushUint64 nodes.length :: (nodes.map Prod.snd).flatten).dropLast =
        pushUint64 (init.length + 1) :: ((init.map Prod.snd).flatten ++ last.2.dropLast) := by
  obtain ⟨init, last, rfl⟩ := (List.eq_nil_or_concat' nodes).resolve_left nonempty
  have lastNonempty : last.2 ≠ [] := by
    rw [← List.length_pos_iff, sized last (by simp)]
    exact perNodePos
  refine ⟨init, last, rfl, lastNonempty, ?_⟩
  rw [List.dropLast_cons_of_ne_nil (by simp [lastNonempty])]
  simp [List.dropLast_append_of_ne_nil lastNonempty]

/-- `SerializeAddrInfo`'s extents without the last: `DeserializeAddrinfo`
takes the extent at index `size()`. -/
theorem deserializeAddrinfo_reads_past_end (env : Env) {tables : Tables} {addrs : List Addrinfo}
    {extents : List Extent} (nonempty : addrs ≠ []) (restorable : ∀ info ∈ addrs, info.Restorable tables)
    (fewer : addrs.length < 2 ^ 64) (serialized : serializeAddrInfo tables addrs false = .ok extents) :
    Access.pastEnd extents.dropLast.length ∈
      (deserializeAddrinfo env tables (Reading.start ⟨extents.dropLast, 0⟩)).reading.log := by
  obtain ⟨nodes, rfl, rfl, reads, sized⟩ := serializeAddrInfo_nodes env restorable serialized
  obtain ⟨init, last, rfl, lastNonempty, dropped⟩ :=
    nodes_split_last (by simpa using nonempty) sized (by decide)
  have count : init.length + 1 < 2 ^ 64 := by simpa using fewer
  rw [dropped, deserializeAddrinfo]
  exact @deserializeCounted_reads_past_end Addrinfo 6 (deserializeAddrinfoNode env tables) env init last.2
    (fun p member => reads p (by simp [member])) (fun p member => sized p (by simp [member]))
    (sized last (by simp)) lastNonempty (deserializeAddrinfoNode_takes_last env tables) count

/-- `SerializeIfAddrs`'s extents without the last: `DeserializeIfAddrs`
takes the extent at index `size()`. -/
theorem deserializeIfAddrs_reads_past_end (env : Env) {tables : Tables} {ifaddrs : List Ifaddrs}
    {extents : List Extent} (nonempty : ifaddrs.filter (isIfAddrSupported tables) ≠ [])
    (restorable : ∀ entry ∈ ifaddrs, isIfAddrSupported tables entry = true → entry.Restorable tables)
    (fewer : ifaddrs.length < 2 ^ 64) (serialized : serializeIfAddrs tables ifaddrs false = .ok extents) :
    Access.pastEnd extents.dropLast.length ∈
      (deserializeIfAddrs env tables (Reading.start ⟨extents.dropLast, 0⟩)).reading.log := by
  obtain ⟨nodes, entriesOf, rfl, reads, sized⟩ := serializeIfAddrs_nodes env restorable serialized
  have shorter : nodes.length ≤ ifaddrs.length := by
    rw [← List.length_map Prod.fst, entriesOf]
    exact List.length_filter_le _ _
  obtain ⟨init, last, rfl, lastNonempty, dropped⟩ :=
    nodes_split_last (by rw [← entriesOf] at nonempty; simpa using nonempty) sized (by decide)
  have count : init.length + 1 < 2 ^ 64 := by
    simp only [List.length_append, List.length_singleton] at shorter
    omega
  rw [dropped, deserializeIfAddrs]
  exact @deserializeCounted_reads_past_end Ifaddrs 5 (deserializeIfAddrsNode env tables) env init last.2
    (fun p member => reads p (by simp [member])) (fun p member => sized p (by simp [member]))
    (sized last (by simp)) lastNonempty (deserializeIfAddrsNode_takes_last env tables) count

theorem deserializers_read_past_end (env : Env) (tables : Tables)
    {addrs : List Addrinfo} {addrExtents : List Extent} (someAddrs : addrs ≠ [])
    (restorable : ∀ info ∈ addrs, info.Restorable tables) (fewer : addrs.length < 2 ^ 64)
    (serialized : serializeAddrInfo tables addrs false = .ok addrExtents)
    {ifaddrs : List Ifaddrs} {ifExtents : List Extent} (someSupported : ifaddrs.filter (isIfAddrSupported tables) ≠ [])
    (ifRestorable : ∀ entry ∈ ifaddrs, isIfAddrSupported tables entry = true → entry.Restorable tables)
    (ifFewer : ifaddrs.length < 2 ^ 64) (ifSerialized : serializeIfAddrs tables ifaddrs false = .ok ifExtents) :
    Access.pastEnd addrExtents.dropLast.length ∈
        (deserializeAddrinfo env tables (Reading.start ⟨addrExtents.dropLast, 0⟩)).reading.log ∧
      Access.pastEnd ifExtents.dropLast.length ∈
        (deserializeIfAddrs env tables (Reading.start ⟨ifExtents.dropLast, 0⟩)).reading.log :=
  ⟨deserializeAddrinfo_reads_past_end env someAddrs restorable fewer serialized,
    deserializeIfAddrs_reads_past_end env someSupported ifRestorable ifFewer ifSerialized⟩

/-- Conversions that keep every value. -/
def keepingTables : Tables := ⟨some, some, some, some, some, some, some, some, fun _ => []⟩

/-- Undefined reads that find nothing. -/
def emptyEnv : Env := ⟨id, fun _ => none, fun _ _ => none, fun _ => [], []⟩

/-- A stream socket's `addrinfo` with no address and no name, and the
loopback interface with flags `IFF_UP | IFF_LOOPBACK | IFF_RUNNING` and no
addresses. -/
def streamAddrinfo : Addrinfo := ⟨0, 2, 1, 6, [], none⟩

def loopbackIfaddrs : Ifaddrs := ⟨some [0x6c, 0x6f], 0x49, none, none, none⟩

theorem deserializers_read_past_end_of_loopback :
    Access.pastEnd ([pushUint64 1, pushInt 0, pushInt 2, pushInt 1, pushInt 6, [], []].dropLast).length ∈
        (deserializeAddrinfo emptyEnv keepingTables
          (Reading.start ⟨[pushUint64 1, pushInt 0, pushInt 2, pushInt 1, pushInt 6, [], []].dropLast, 0⟩)).reading.log ∧
      Access.pastEnd ([pushUint64 1, pushString (some [0x6c, 0x6f]), pushUnsigned 0x49, [], [], []].dropLast).length ∈
        (deserializeIfAddrs emptyEnv keepingTables
          (Reading.start ⟨[pushUint64 1, pushString (some [0x6c, 0x6f]), pushUnsigned 0x49, [], [], []].dropLast,
            0⟩)).reading.log :=
  @deserializers_read_past_end emptyEnv keepingTables [streamAddrinfo] _ (by simp)
    (fun info member => by
      rw [List.mem_singleton] at member
      subst member
      exact ⟨fun _ kept => kept.symm, fun _ kept => kept.symm, fun _ kept => kept.symm, .inl rfl,
        fun _ named => by cases named⟩)
    (by decide) rfl [loopbackIfaddrs] _ (by decide)
    (fun entry member _ => by
      rw [List.mem_singleton] at member
      subst member
      exact ⟨fun _ kept => kept.symm, ⟨[0x6c, 0x6f], rfl, by decide⟩, (fun _ present => by cases present),
        (fun _ present => by cases present), (fun _ present => by cases present)⟩)
    (by decide) rfl

end Asylo.SerializerFunctions
