import Asylo.HostCalls

/-! The socket address conversions between the enclave's `sockaddr` types and
the host's `klinux_sockaddr` types
(`platform/system_call/type_conversions/manual_types_functions.cc`), as values.
`HostCalls.fromkLinuxSockAddr` follows which bytes the host-call wrappers read
and write; this module follows what the conversions compute.

A structure is its bytes in memory, laid out as the headers declare it:
`sockaddr_in` and `sockaddr_in6` are packed, and the `klinux_` structures have
the same offsets, every integer field stored little-endian. A conversion reads
fields of its input at their offsets (`slice`) and writes whole fields of a
structure it builds. `ReinterpretCopySingle(dst, src)` and
`ReinterpretCopyArray(dst, src, max_len)` copy `min` of the two sizes (and
`max_len`) bytes from the start of `src` into `dst`, zeroed first
(`reinterpretCopy`). `CopySockaddr` copies `min(*addrlen_dest, source_len)`
bytes into the destination buffer and sets `*addrlen_dest` to `source_len`. -/
namespace Asylo.TypeConversions

open Message HostCalls

def AF_UNSPEC : Nat := 0
def AF_UNIX : Nat := 1
def AF_INET : Nat := 2
def AF_INET6 : Nat := 10

/-- The `width` bytes at `offset` of a structure, as a read of the memory it
lies in. -/
def slice (bytes : List UInt8) (offset width : Nat) : List UInt8 :=
  bufferSource bytes (fun _ => 0) 0 offset width

/-- An unsigned integer field of `width` bytes at `offset`. -/
def load (bytes : List UInt8) (offset width : Nat) : Nat :=
  LittleEndian.decode (slice bytes offset width)

/-- A field of `size` bytes, zeroed and then given the first
`min(maxLen, size, source.length)` bytes of `source`. -/
def reinterpretCopy (size : Nat) (source : List UInt8) (maxLen : Nat) : List UInt8 :=
  let copied := min maxLen (min size source.length)
  source.take copied ++ List.replicate (size - copied) 0

/-! ## The structures -/

/-- `struct sockaddr_un` and `struct klinux_sockaddr_un`: the family, then
`sun_path[108]`. -/
def sockaddrUn (family : Nat) (path : List UInt8) : List UInt8 := LittleEndian.encode 2 family ++ path

/-- `struct sockaddr_in` and `struct klinux_sockaddr_in`: the family, the port,
the address and `sin_zero[8]`. -/
def sockaddrIn (family port addr : Nat) (zero : List UInt8) : List UInt8 :=
  LittleEndian.encode 2 family ++ LittleEndian.encode 2 port ++ LittleEndian.encode 4 addr ++ zero

/-- `struct sockaddr_in6` and `struct klinux_sockaddr_in6`: the family, the
port, the flow information, the address of 16 bytes and the scope id. -/
def sockaddrIn6 (family port flowinfo : Nat) (addr : List UInt8) (scopeId : Nat) : List UInt8 :=
  LittleEndian.encode 2 family ++ LittleEndian.encode 2 port ++ LittleEndian.encode 4 flowinfo ++ addr ++
    LittleEndian.encode 4 scopeId

/-! ## The conversions of one family -/

/-- `SockaddrTokLinuxSockaddrUn(input, input_addrlen, output)`: the structure
it writes to `output`, or `none` where it returns false. -/
def sockaddrTokLinuxSockaddrUn (input : List UInt8) (inputAddrlen : Nat) : Option (List UInt8) :=
  if inputAddrlen = 0 ∨ load input 0 2 ≠ AF_UNIX ∨ inputAddrlen < 2 then none
  else some (sockaddrUn kLinuxAfUnix.toNat (reinterpretCopy 108 (slice input 2 108) (inputAddrlen - 2)))

def sockaddrTokLinuxSockaddrIn (input : List UInt8) (inputAddrlen : Nat) : Option (List UInt8) :=
  if inputAddrlen = 0 ∨ load input 0 2 ≠ AF_INET ∨ inputAddrlen < sizeofSockaddrIn then none
  else
    some (sockaddrIn kLinuxAfInet.toNat (load input 2 2) (LittleEndian.decode (reinterpretCopy 4 (slice input 4 4) 4))
      (reinterpretCopy 8 (slice input 8 8) 8))

def sockaddrTokLinuxSockaddrIn6 (input : List UInt8) (inputAddrlen : Nat) : Option (List UInt8) :=
  if inputAddrlen = 0 ∨ load input 0 2 ≠ AF_INET6 ∨ inputAddrlen < sizeofSockaddrIn6 then none
  else
    some (sockaddrIn6 kLinuxAfInet6.toNat (load input 2 2) (load input 4 4) (reinterpretCopy 16 (slice input 8 16) 16)
      (load input 24 4))

/-- `FromkLinuxSockAddrUn(input, output)`: the `sockaddr_un` it writes. -/
def fromkLinuxSockAddrUn (input : List UInt8) : List UInt8 :=
  sockaddrUn AF_UNIX (reinterpretCopy 108 (slice input 2 108) (sizeofKlinuxSockaddrUn - 2))

/-- `FromkLinuxSockAddrIn(input, output)`. The address is
`ReinterpretCopySingle(&output->sin_addr, &input->klinux_sin_port)`: the two
bytes of the port, then zeros. -/
def fromkLinuxSockAddrIn (input : List UInt8) : List UInt8 :=
  sockaddrIn AF_INET (load input 2 2) (LittleEndian.decode (reinterpretCopy 4 (slice input 2 2) 4))
    (reinterpretCopy 8 (slice input 8 8) 8)

/-- `FromkLinuxSockAddrIn6(input, output)`: the family it writes is `AF_INET`,
and the address is `ReinterpretCopySingle(&output->sin6_addr,
&input->klinux_sin6_port)`. -/
def fromkLinuxSockAddrIn6 (input : List UInt8) : List UInt8 :=
  sockaddrIn6 AF_INET (load input 2 2) (load input 4 4) (reinterpretCopy 16 (slice input 2 2) 16) (load input 24 4)

/-! ## The generic conversions -/

/-- What `FromkLinuxSockAddr` and `TokLinuxSockAddr` end with: false, true with
the output buffer and `*output_len`, or an abort for a family they do not
know. -/
inductive Conversion where
  | failed
  | converted (output : List UInt8) (outputLen : Nat)
  | aborted (message : String)
  deriving DecidableEq, Repr

/-- `CopySockaddr(source, source_len, addr_dest, addrlen_dest)` into the buffer
`dest` of `*addrlen_dest = destLen` bytes. -/
def copySockaddr (source : List UInt8) (sourceLen : Nat) (dest : List UInt8) (destLen : Nat) : Conversion :=
  let copied := min destLen sourceLen
  .converted (source.take copied ++ dest.drop copied) sourceLen

/-- `FromkLinuxSockAddr(input, input_len, output, output_len, abort_handler)`
with an output buffer of `*output_len` bytes. -/
def fromkLinuxSockAddr (input : List UInt8) (inputLen : Nat) (output : List UInt8) (outputLen : Nat) : Conversion :=
  if inputLen = 0 then .failed
  else
    let klinuxFamily := toSigned 2 (load input 0 2)
    if klinuxFamily = kLinuxAfUnix then
      if inputLen < sizeofKlinuxSockaddrUn then .failed
      else copySockaddr (sockaddrUn AF_UNIX (reinterpretCopy 108 (slice input 2 108) 108)) sizeofSockaddrUn output
        outputLen
    else if klinuxFamily = kLinuxAfInet then
      if inputLen < sizeofKlinuxSockaddrIn then .failed
      else
        copySockaddr (sockaddrIn AF_INET (load input 2 2) (LittleEndian.decode (reinterpretCopy 4 (slice input 4 4) 4))
          (reinterpretCopy 8 (slice input 8 8) 8)) sizeofSockaddrIn output outputLen
    else if klinuxFamily = kLinuxAfInet6 then
      if inputLen < sizeofKlinuxSockaddrIn6 then .failed
      else
        copySockaddr (sockaddrIn6 AF_INET6 (load input 2 2) (load input 4 4)
          (reinterpretCopy 16 (slice input 8 16) 16) (load input 24 4)) sizeofSockaddrIn6 output outputLen
    else if klinuxFamily = kLinuxAfUnspec then .converted output 0
    else .aborted s!"Type conversion error - Unsupported AF family: {klinuxFamily}"

/-- `TokLinuxSockAddr(input, input_len, output, output_len, abort_handler)`. -/
def tokLinuxSockAddr (input : List UInt8) (inputLen : Nat) (output : List UInt8) (outputLen : Nat) : Conversion :=
  if inputLen = 0 then .failed
  else
    let family := load input 0 2
    if family = AF_UNIX then
      match sockaddrTokLinuxSockaddrUn input inputLen with
      | none => .failed
      | some klinuxSockUn => copySockaddr klinuxSockUn sizeofKlinuxSockaddrUn output outputLen
    else if family = AF_INET then
      match sockaddrTokLinuxSockaddrIn input inputLen with
      | none => .failed
      | some klinuxSockIn => copySockaddr klinuxSockIn sizeofKlinuxSockaddrIn output outputLen
    else if family = AF_INET6 then
      match sockaddrTokLinuxSockaddrIn6 input inputLen with
      | none => .failed
      | some klinuxSockIn6 => copySockaddr klinuxSockIn6 sizeofKlinuxSockaddrIn6 output outputLen
    else if family = AF_UNSPEC then .converted output 0
    else .aborted s!"Unsupported AF family encountered: {family}"

end Asylo.TypeConversions
