import Asylo.TypeConversions
import Asylo.Util

/-! What the sockaddr conversions give back on a round trip of an enclave
`sockaddr`.

Each `SockaddrTokLinuxSockaddr…` copies the fields of its structure into the
`klinux_` one. Through the generic `TokLinuxSockAddr` and `FromkLinuxSockAddr`,
a `sockaddr_un`, `sockaddr_in` or `sockaddr_in6` then comes back as it was,
into any buffers large enough (`fromkLinuxSockAddr_tokLinuxSockAddr_un` and its
`_in` and `_in6` forms). Through the conversions of one family, `sockaddr_un`
comes back as it was, but `FromkLinuxSockAddrIn` copies the port into the
address, and `FromkLinuxSockAddrIn6` also writes the family `AF_INET`
(`perFamily_converters_lose_address`). -/
namespace Asylo.TypeConversions

open Message HostCalls

/-! ## Reading fields of a layout

A structure followed by anything is a right-nested append of its fields, so
`slice_append_of_le` steps over the fields before an offset and `slice_prefix`
reads the field found there. -/

theorem slice_prefix {segment : List UInt8} (after : List UInt8) {width : Nat} (sized : segment.length = width) :
    slice (segment ++ after) 0 width = segment := by
  subst sized
  exact bufferSource_segment [] segment after _ 0

theorem slice_append_of_le {before : List UInt8} (bytes : List UInt8) {offset : Nat} (width : Nat)
    (past : before.length ≤ offset) :
    slice (before ++ bytes) offset width = slice bytes (offset - before.length) width := by
  simp only [slice, bufferSource]
  apply List.map_congr_left
  intro j _
  rw [List.getD_eq_getElem?_getD, List.getElem?_append_right (by omega), List.getD_eq_getElem?_getD]
  congr 3
  omega

/-- A copy of a whole source of the field's size. -/
theorem reinterpretCopy_of_length {size maxLen : Nat} {source : List UInt8} (sized : source.length = size)
    (within : size ≤ maxLen) : reinterpretCopy size source maxLen = source := by
  subst sized
  simp [reinterpretCopy, Nat.min_eq_right within]

/-- The two bytes of a port copied into a field of `size ≥ 2` bytes. -/
theorem reinterpretCopy_port {size : Nat} (port : Nat) (large : 2 ≤ size) :
    reinterpretCopy size (LittleEndian.encode 2 port) size = LittleEndian.encode 2 port ++ List.replicate (size - 2) 0 := by
  simp [reinterpretCopy, Nat.min_eq_right large, List.take_of_length_le]

theorem decode_replicate_zero (count : Nat) : LittleEndian.decode (List.replicate count 0) = 0 := by
  induction count with
  | zero => rfl
  | succ count ih => simp [List.replicate_succ, LittleEndian.decode, ih]

theorem decode_append_zeros (bytes : List UInt8) (count : Nat) :
    LittleEndian.decode (bytes ++ List.replicate count 0) = LittleEndian.decode bytes := by
  induction bytes with
  | nil => simp [LittleEndian.decode, decode_replicate_zero]
  | cons byte rest ih => simp [LittleEndian.decode, ih]

@[simp] theorem port_mod (port : UInt16) : port.toNat % 256 ^ 2 = port.toNat := Nat.mod_eq_of_lt port.toNat_lt

@[simp] theorem word_mod (word : UInt32) : word.toNat % 256 ^ 4 = word.toNat := Nat.mod_eq_of_lt word.toNat_lt

/-- `CopySockaddr` into a buffer that has room for the whole source. -/
theorem copySockaddr_of_room {source : List UInt8} {sourceLen : Nat} (dest : List UInt8) {destLen : Nat}
    (sized : source.length = sourceLen) (room : sourceLen ≤ destLen) :
    copySockaddr source sourceLen dest destLen = .converted (source ++ dest.drop sourceLen) sourceLen := by
  subst sized
  simp [copySockaddr, Nat.min_eq_right room]

/-! ## The fields of each structure, at the start of a buffer -/

section Fields

variable (family port addr flowinfo scopeId : Nat) (rest : List UInt8) {zero path addr6 : List UInt8}

theorem sockaddrUn_fields (sized : path.length = 108) :
    load (sockaddrUn family path ++ rest) 0 2 = family % 256 ^ 2 ∧ slice (sockaddrUn family path ++ rest) 2 108 = path := by
  simp [sockaddrUn, load, slice_prefix, slice_append_of_le, sized, LittleEndian.decode_encode]

theorem sockaddrIn_fields (sized : zero.length = 8) :
    load (sockaddrIn family port addr zero ++ rest) 0 2 = family % 256 ^ 2 ∧
      load (sockaddrIn family port addr zero ++ rest) 2 2 = port % 256 ^ 2 ∧
      slice (sockaddrIn family port addr zero ++ rest) 2 2 = LittleEndian.encode 2 port ∧
      slice (sockaddrIn family port addr zero ++ rest) 4 4 = LittleEndian.encode 4 addr ∧
      slice (sockaddrIn family port addr zero ++ rest) 8 8 = zero := by
  simp [sockaddrIn, load, slice_prefix, slice_append_of_le, sized, LittleEndian.decode_encode]

theorem sockaddrIn6_fields (sized : addr6.length = 16) :
    load (sockaddrIn6 family port flowinfo addr6 scopeId ++ rest) 0 2 = family % 256 ^ 2 ∧
      load (sockaddrIn6 family port flowinfo addr6 scopeId ++ rest) 2 2 = port % 256 ^ 2 ∧
      slice (sockaddrIn6 family port flowinfo addr6 scopeId ++ rest) 2 2 = LittleEndian.encode 2 port ∧
      load (sockaddrIn6 family port flowinfo addr6 scopeId ++ rest) 4 4 = flowinfo % 256 ^ 4 ∧
      slice (sockaddrIn6 family port flowinfo addr6 scopeId ++ rest) 8 16 = addr6 ∧
      load (sockaddrIn6 family port flowinfo addr6 scopeId ++ rest) 24 4 = scopeId % 256 ^ 4 := by
  simp [sockaddrIn6, load, slice_prefix, slice_append_of_le, sized, LittleEndian.decode_encode]

end Fields

/-! ## The conversions of one family -/

section PerFamily

variable (port : UInt16) (addr flowinfo scopeId : UInt32) (zero : UnsafeBytes 8) (path : UnsafeBytes 108)
  (addr6 : UnsafeBytes 16)

theorem sockaddrTokLinuxSockaddrUn_sockaddrUn :
    sockaddrTokLinuxSockaddrUn (sockaddrUn AF_UNIX path.1) sizeofSockaddrUn =
      some (sockaddrUn kLinuxAfUnix.toNat path.1) := by
  obtain ⟨family, pathAt⟩ := sockaddrUn_fields AF_UNIX [] path.2
  simp only [List.append_nil] at family pathAt
  rw [sockaddrTokLinuxSockaddrUn, family, pathAt, reinterpretCopy_of_length path.2 (by decide)]
  simp [AF_UNIX, sizeofSockaddrUn]

theorem sockaddrTokLinuxSockaddrIn_sockaddrIn :
    sockaddrTokLinuxSockaddrIn (sockaddrIn AF_INET port.toNat addr.toNat zero.1) sizeofSockaddrIn =
      some (sockaddrIn kLinuxAfInet.toNat port.toNat addr.toNat zero.1) := by
  obtain ⟨family, portAt, -, addrAt, zeroAt⟩ := sockaddrIn_fields AF_INET port.toNat addr.toNat [] zero.2
  simp only [List.append_nil] at family portAt addrAt zeroAt
  rw [sockaddrTokLinuxSockaddrIn, family, portAt, addrAt, zeroAt,
    reinterpretCopy_of_length (LittleEndian.length_encode 4 _) (Nat.le_refl _), reinterpretCopy_of_length zero.2 (Nat.le_refl _),
    LittleEndian.decode_encode, port_mod, word_mod]
  simp [AF_INET, sizeofSockaddrIn]

theorem sockaddrTokLinuxSockaddrIn6_sockaddrIn6 :
    sockaddrTokLinuxSockaddrIn6 (sockaddrIn6 AF_INET6 port.toNat flowinfo.toNat addr6.1 scopeId.toNat)
        sizeofSockaddrIn6 =
      some (sockaddrIn6 kLinuxAfInet6.toNat port.toNat flowinfo.toNat addr6.1 scopeId.toNat) := by
  obtain ⟨family, portAt, -, flowAt, addrAt, scopeAt⟩ :=
    sockaddrIn6_fields AF_INET6 port.toNat flowinfo.toNat scopeId.toNat [] addr6.2
  simp only [List.append_nil] at family portAt flowAt addrAt scopeAt
  rw [sockaddrTokLinuxSockaddrIn6, family, portAt, flowAt, addrAt, scopeAt, reinterpretCopy_of_length addr6.2 (Nat.le_refl _),
    port_mod, word_mod, word_mod]
  simp [AF_INET6, sizeofSockaddrIn6]

/-- `FromkLinuxSockAddrUn` gives back the path, whatever the family. -/
theorem fromkLinuxSockAddrUn_sockaddrUn (family : Nat) :
    fromkLinuxSockAddrUn (sockaddrUn family path.1) = sockaddrUn AF_UNIX path.1 := by
  have pathAt := (sockaddrUn_fields family [] path.2).2
  simp only [List.append_nil] at pathAt
  rw [fromkLinuxSockAddrUn, pathAt, reinterpretCopy_of_length path.2 (by decide)]

/-- `FromkLinuxSockAddrIn` writes the port as the address, whatever the
address was. -/
theorem fromkLinuxSockAddrIn_sockaddrIn (family addr : Nat) :
    fromkLinuxSockAddrIn (sockaddrIn family port.toNat addr zero.1) = sockaddrIn AF_INET port.toNat port.toNat zero.1 := by
  obtain ⟨-, portAt, portBytes, -, zeroAt⟩ := sockaddrIn_fields family port.toNat addr [] zero.2
  simp only [List.append_nil] at portAt portBytes zeroAt
  -- the address field is filled from the two bytes at the port's offset
  rw [fromkLinuxSockAddrIn, portAt, portBytes, zeroAt, reinterpretCopy_port _ (by decide), decode_append_zeros,
    LittleEndian.decode_encode, reinterpretCopy_of_length zero.2 (Nat.le_refl _), port_mod]

/-- `FromkLinuxSockAddrIn6` writes the family `AF_INET` and the port, then
zeros, as the address. -/
theorem fromkLinuxSockAddrIn6_sockaddrIn6 (family : Nat) :
    fromkLinuxSockAddrIn6 (sockaddrIn6 family port.toNat flowinfo.toNat addr6.1 scopeId.toNat) =
      sockaddrIn6 AF_INET port.toNat flowinfo.toNat (LittleEndian.encode 2 port.toNat ++ List.replicate 14 0)
        scopeId.toNat := by
  obtain ⟨-, portAt, portBytes, flowAt, -, scopeAt⟩ :=
    sockaddrIn6_fields family port.toNat flowinfo.toNat scopeId.toNat [] addr6.2
  simp only [List.append_nil] at portAt portBytes flowAt scopeAt
  rw [fromkLinuxSockAddrIn6, portAt, portBytes, flowAt, scopeAt, reinterpretCopy_port _ (by decide), port_mod, word_mod,
    word_mod]

theorem perFamily_converters_lose_address :
    (sockaddrTokLinuxSockaddrUn (sockaddrUn AF_UNIX path.1) sizeofSockaddrUn).map fromkLinuxSockAddrUn =
        some (sockaddrUn AF_UNIX path.1) ∧
      (sockaddrTokLinuxSockaddrIn (sockaddrIn AF_INET port.toNat addr.toNat zero.1) sizeofSockaddrIn).map
          fromkLinuxSockAddrIn =
        some (sockaddrIn AF_INET port.toNat port.toNat zero.1) ∧
      (sockaddrTokLinuxSockaddrIn6 (sockaddrIn6 AF_INET6 port.toNat flowinfo.toNat addr6.1 scopeId.toNat)
          sizeofSockaddrIn6).map fromkLinuxSockAddrIn6 =
        some (sockaddrIn6 AF_INET port.toNat flowinfo.toNat (LittleEndian.encode 2 port.toNat ++ List.replicate 14 0)
          scopeId.toNat) := by
  refine ⟨?un, ?inet, ?inet6⟩
  case un => rw [sockaddrTokLinuxSockaddrUn_sockaddrUn, Option.map_some, fromkLinuxSockAddrUn_sockaddrUn]
  case inet => rw [sockaddrTokLinuxSockaddrIn_sockaddrIn, Option.map_some, fromkLinuxSockAddrIn_sockaddrIn]
  case inet6 => rw [sockaddrTokLinuxSockaddrIn6_sockaddrIn6, Option.map_some, fromkLinuxSockAddrIn6_sockaddrIn6]

/-- `127.0.0.1` on port 80 comes back from `FromkLinuxSockAddrIn` as the
address `80.0.0.0`. -/
theorem perFamily_converters_lose_address_of_loopback :
    (sockaddrTokLinuxSockaddrIn (sockaddrIn AF_INET 80 0x0100007f (List.replicate 8 0)) sizeofSockaddrIn).map
        fromkLinuxSockAddrIn =
      some (sockaddrIn AF_INET 80 80 (List.replicate 8 0)) ∧
    sockaddrIn AF_INET 80 80 (List.replicate 8 0) ≠ sockaddrIn AF_INET 80 0x0100007f (List.replicate 8 0) :=
  ⟨(perFamily_converters_lose_address 80 0x0100007f 0 0 ⟨List.replicate 8 0, rfl⟩ ⟨List.replicate 108 0, rfl⟩
    ⟨List.replicate 16 0, rfl⟩).2.1, by decide⟩

end PerFamily

/-! ## The generic conversions -/

section Generic

variable (port : UInt16) (addr flowinfo scopeId : UInt32) (zero : UnsafeBytes 8) (path : UnsafeBytes 108)
  (addr6 : UnsafeBytes 16) (klinuxBuffer rest output : List UInt8) {klinuxLen outputLen : Nat}

theorem tokLinuxSockAddr_sockaddrUn (room : sizeofKlinuxSockaddrUn ≤ klinuxLen) :
    tokLinuxSockAddr (sockaddrUn AF_UNIX path.1) sizeofSockaddrUn klinuxBuffer klinuxLen =
      .converted (sockaddrUn kLinuxAfUnix.toNat path.1 ++ klinuxBuffer.drop sizeofKlinuxSockaddrUn)
        sizeofKlinuxSockaddrUn := by
  have family := (sockaddrUn_fields AF_UNIX [] path.2).1
  simp only [List.append_nil] at family
  simp only [tokLinuxSockAddr, family, sockaddrTokLinuxSockaddrUn_sockaddrUn]
  rw [copySockaddr_of_room _ (by simp [sockaddrUn, path.2, sizeofKlinuxSockaddrUn]) room]
  simp [AF_UNIX, sizeofSockaddrUn]

theorem tokLinuxSockAddr_sockaddrIn (room : sizeofKlinuxSockaddrIn ≤ klinuxLen) :
    tokLinuxSockAddr (sockaddrIn AF_INET port.toNat addr.toNat zero.1) sizeofSockaddrIn klinuxBuffer klinuxLen =
      .converted (sockaddrIn kLinuxAfInet.toNat port.toNat addr.toNat zero.1 ++ klinuxBuffer.drop sizeofKlinuxSockaddrIn)
        sizeofKlinuxSockaddrIn := by
  have family := (sockaddrIn_fields AF_INET port.toNat addr.toNat [] zero.2).1
  simp only [List.append_nil] at family
  simp only [tokLinuxSockAddr, family, sockaddrTokLinuxSockaddrIn_sockaddrIn]
  rw [copySockaddr_of_room _ (by simp [sockaddrIn, zero.2, sizeofKlinuxSockaddrIn]) room]
  simp [AF_UNIX, AF_INET, sizeofSockaddrIn]

theorem tokLinuxSockAddr_sockaddrIn6 (room : sizeofKlinuxSockaddrIn6 ≤ klinuxLen) :
    tokLinuxSockAddr (sockaddrIn6 AF_INET6 port.toNat flowinfo.toNat addr6.1 scopeId.toNat) sizeofSockaddrIn6
        klinuxBuffer klinuxLen =
      .converted (sockaddrIn6 kLinuxAfInet6.toNat port.toNat flowinfo.toNat addr6.1 scopeId.toNat ++
        klinuxBuffer.drop sizeofKlinuxSockaddrIn6) sizeofKlinuxSockaddrIn6 := by
  have family := (sockaddrIn6_fields AF_INET6 port.toNat flowinfo.toNat scopeId.toNat [] addr6.2).1
  simp only [List.append_nil] at family
  simp only [tokLinuxSockAddr, family, sockaddrTokLinuxSockaddrIn6_sockaddrIn6]
  rw [copySockaddr_of_room _ (by simp [sockaddrIn6, addr6.2, sizeofKlinuxSockaddrIn6]) room]
  simp [AF_UNIX, AF_INET, AF_INET6, sizeofSockaddrIn6]

/-- `FromkLinuxSockAddr` of a `klinux_sockaddr_un` at the start of its buffer,
whatever follows it. -/
theorem fromkLinuxSockAddr_sockaddrUn (room : sizeofSockaddrUn ≤ outputLen) :
    fromkLinuxSockAddr (sockaddrUn kLinuxAfUnix.toNat path.1 ++ rest) sizeofKlinuxSockaddrUn output outputLen =
      .converted (sockaddrUn AF_UNIX path.1 ++ output.drop sizeofSockaddrUn) sizeofSockaddrUn := by
  obtain ⟨family, pathAt⟩ := sockaddrUn_fields kLinuxAfUnix.toNat rest path.2
  simp only [fromkLinuxSockAddr, family, pathAt, reinterpretCopy_of_length path.2 (Nat.le_refl _)]
  rw [copySockaddr_of_room _ (by simp [sockaddrUn, path.2, sizeofSockaddrUn]) room]
  simp [kLinuxAfUnix, toSigned, sizeofKlinuxSockaddrUn]

theorem fromkLinuxSockAddr_sockaddrIn (room : sizeofSockaddrIn ≤ outputLen) :
    fromkLinuxSockAddr (sockaddrIn kLinuxAfInet.toNat port.toNat addr.toNat zero.1 ++ rest) sizeofKlinuxSockaddrIn
        output outputLen =
      .converted (sockaddrIn AF_INET port.toNat addr.toNat zero.1 ++ output.drop sizeofSockaddrIn) sizeofSockaddrIn := by
  obtain ⟨family, portAt, -, addrAt, zeroAt⟩ := sockaddrIn_fields kLinuxAfInet.toNat port.toNat addr.toNat rest zero.2
  simp only [fromkLinuxSockAddr, family, portAt, addrAt, zeroAt, port_mod,
    reinterpretCopy_of_length (LittleEndian.length_encode 4 _) (Nat.le_refl _), LittleEndian.decode_encode, word_mod,
    reinterpretCopy_of_length zero.2 (Nat.le_refl _)]
  rw [copySockaddr_of_room _ (by simp [sockaddrIn, zero.2, sizeofSockaddrIn]) room]
  simp [kLinuxAfUnix, kLinuxAfInet, toSigned, sizeofKlinuxSockaddrIn]

theorem fromkLinuxSockAddr_sockaddrIn6 (room : sizeofSockaddrIn6 ≤ outputLen) :
    fromkLinuxSockAddr (sockaddrIn6 kLinuxAfInet6.toNat port.toNat flowinfo.toNat addr6.1 scopeId.toNat ++ rest)
        sizeofKlinuxSockaddrIn6 output outputLen =
      .converted (sockaddrIn6 AF_INET6 port.toNat flowinfo.toNat addr6.1 scopeId.toNat ++ output.drop sizeofSockaddrIn6)
        sizeofSockaddrIn6 := by
  obtain ⟨family, portAt, -, flowAt, addrAt, scopeAt⟩ :=
    sockaddrIn6_fields kLinuxAfInet6.toNat port.toNat flowinfo.toNat scopeId.toNat rest addr6.2
  simp only [fromkLinuxSockAddr, family, portAt, flowAt, addrAt, scopeAt, port_mod, word_mod,
    reinterpretCopy_of_length addr6.2 (Nat.le_refl _)]
  rw [copySockaddr_of_room _ (by simp [sockaddrIn6, addr6.2, sizeofSockaddrIn6]) room]
  simp [kLinuxAfUnix, kLinuxAfInet, kLinuxAfInet6, toSigned, sizeofKlinuxSockaddrIn6]

/-- A `sockaddr_un` through `TokLinuxSockAddr` and back through
`FromkLinuxSockAddr` comes back as it was, into buffers large enough. -/
theorem fromkLinuxSockAddr_tokLinuxSockAddr_un (klinuxRoom : sizeofKlinuxSockaddrUn ≤ klinuxLen)
    (room : sizeofSockaddrUn ≤ outputLen) :
    ∃ klinux, tokLinuxSockAddr (sockaddrUn AF_UNIX path.1) sizeofSockaddrUn klinuxBuffer klinuxLen =
        .converted klinux sizeofKlinuxSockaddrUn ∧
      fromkLinuxSockAddr klinux sizeofKlinuxSockaddrUn output outputLen =
        .converted (sockaddrUn AF_UNIX path.1 ++ output.drop sizeofSockaddrUn) sizeofSockaddrUn :=
  ⟨_, tokLinuxSockAddr_sockaddrUn path klinuxBuffer klinuxRoom, fromkLinuxSockAddr_sockaddrUn path _ output room⟩

theorem fromkLinuxSockAddr_tokLinuxSockAddr_in (klinuxRoom : sizeofKlinuxSockaddrIn ≤ klinuxLen)
    (room : sizeofSockaddrIn ≤ outputLen) :
    ∃ klinux, tokLinuxSockAddr (sockaddrIn AF_INET port.toNat addr.toNat zero.1) sizeofSockaddrIn klinuxBuffer
          klinuxLen = .converted klinux sizeofKlinuxSockaddrIn ∧
      fromkLinuxSockAddr klinux sizeofKlinuxSockaddrIn output outputLen =
        .converted (sockaddrIn AF_INET port.toNat addr.toNat zero.1 ++ output.drop sizeofSockaddrIn) sizeofSockaddrIn :=
  ⟨_, tokLinuxSockAddr_sockaddrIn port addr zero klinuxBuffer klinuxRoom,
    fromkLinuxSockAddr_sockaddrIn port addr zero _ output room⟩

theorem fromkLinuxSockAddr_tokLinuxSockAddr_in6 (klinuxRoom : sizeofKlinuxSockaddrIn6 ≤ klinuxLen)
    (room : sizeofSockaddrIn6 ≤ outputLen) :
    ∃ klinux, tokLinuxSockAddr (sockaddrIn6 AF_INET6 port.toNat flowinfo.toNat addr6.1 scopeId.toNat)
          sizeofSockaddrIn6 klinuxBuffer klinuxLen = .converted klinux sizeofKlinuxSockaddrIn6 ∧
      fromkLinuxSockAddr klinux sizeofKlinuxSockaddrIn6 output outputLen =
        .converted (sockaddrIn6 AF_INET6 port.toNat flowinfo.toNat addr6.1 scopeId.toNat ++
          output.drop sizeofSockaddrIn6) sizeofSockaddrIn6 :=
  ⟨_, tokLinuxSockAddr_sockaddrIn6 port flowinfo scopeId addr6 klinuxBuffer klinuxRoom,
    fromkLinuxSockAddr_sockaddrIn6 port flowinfo scopeId addr6 _ output room⟩

/-- Port 443, the loopback address `::1`, through buffers of exactly the size. -/
theorem fromkLinuxSockAddr_tokLinuxSockAddr_in6_loopback :
    sizeofKlinuxSockaddrIn6 ≤ 28 ∧ sizeofSockaddrIn6 ≤ 28 ∧
      ∃ klinux, tokLinuxSockAddr (sockaddrIn6 AF_INET6 443 0 (List.replicate 15 0 ++ [1]) 0) sizeofSockaddrIn6
          (List.replicate 28 0) 28 = .converted klinux sizeofKlinuxSockaddrIn6 ∧
        fromkLinuxSockAddr klinux sizeofKlinuxSockaddrIn6 (List.replicate 28 0) 28 =
          .converted (sockaddrIn6 AF_INET6 443 0 (List.replicate 15 0 ++ [1]) 0 ++ (List.replicate 28 0).drop sizeofSockaddrIn6)
            sizeofSockaddrIn6 :=
  ⟨by decide, by decide, @fromkLinuxSockAddr_tokLinuxSockAddr_in6 443 0 0 ⟨List.replicate 15 0 ++ [1], rfl⟩
    (List.replicate 28 0) (List.replicate 28 0) 28 28 (by decide) (by decide)⟩

end Generic

end Asylo.TypeConversions
