import Asylo.ExceptLemmas
import Asylo.SyscallMessage

/-! What `MessageReader::Validate` guarantees about a response, and what
`enc_untrusted_syscall` still reads past it.

`Validate` walks the used parameters in order: each must start where the last
one ended (rounded up to 8) and end inside the message, so once it succeeds
every used parameter lies in `[0, response_size)`, and a fixed parameter has
exactly its descriptor size. The copy-out loop of `enc_untrusted_syscall`
recomputes the copy length of a bounded parameter from the caller's bounding
argument and never compares it with the size the host sent, which `Validate`
accepts whatever it is. So the copy of a bounded out parameter reads past the
parameter, and past the response, whenever the host sends less than the bound;
for a size of zero it copies from the null pointer. -/
namespace Asylo.SyscallMessageProofs
open SyscallMessage

/-! ## One round of the validation loop -/

section Validate

variable {table : SystemCallTable} {response : Response}

theorem roundUpToMultipleOf8_ge {value : Nat} (fits : value ≤ roundDownToMultipleOf8 sizeMax) :
    value ≤ roundUpToMultipleOf8 value := by
  have small : value + (8 - value % 8) % 8 < 2 ^ 64 := by
    simp only [roundDownToMultipleOf8, sizeMax] at fits
    omega
  simp only [roundUpToMultipleOf8, Nat.mod_eq_of_lt small]
  omega

/-- What a round of the loop on a used parameter checked when it succeeds. -/
theorem validateParameter_used_ok {nextOffset next index : Nat}
    (used : parameterIsUsed table response index = true)
    (ok : validateParameter table response nextOffset index = .ok next) :
    headerOffset response index = nextOffset ∧
      sumOverflowOnRoundUpToMultipleOf8 (headerSize response index) nextOffset = false ∧
      next = roundUpToMultipleOf8 ((nextOffset + headerSize response index) % 2 ^ 64) ∧
      next ≤ response.size ∧
      isValidParameterSize table response index = some true := by
  unfold validateParameter at ok
  simp only [used, Bool.not_true, Bool.false_eq_true, ↓reduceIte] at ok
  split at ok
  · cases ok
  · rename_i drifted
    split at ok
    · cases ok
    · rename_i guard
      split at ok
      · cases ok
      · rename_i inside
        split at ok
        · cases ok
        · cases ok
        · rename_i sized
          simp only [Except.ok.injEq] at ok
          subst ok
          exact ⟨by simpa using drifted, by simpa using guard, rfl, Nat.le_of_not_gt inside, sized⟩

/-- A round of the loop that succeeds moves the next offset forward; a used
parameter then lies between the old next offset and the new one, which is
still inside the response. -/
theorem validateParameter_ok {nextOffset next index : Nat}
    (ok : validateParameter table response nextOffset index = .ok next) :
    nextOffset ≤ next ∧ (nextOffset ≤ response.size → next ≤ response.size) ∧
      (parameterIsUsed table response index = true →
        headerOffset response index = nextOffset ∧
        headerOffset response index + headerSize response index ≤ next ∧
        next ≤ response.size) := by
  by_cases used : parameterIsUsed table response index = true
  · obtain ⟨start, guard, rounded, inside, _⟩ := validateParameter_used_ok used ok
    -- The overflow guard keeps the 64-bit sum and its rounding from wrapping.
    have fits : nextOffset + headerSize response index ≤ roundDownToMultipleOf8 sizeMax := by
      simp only [sumOverflowOnRoundUpToMultipleOf8, Bool.or_eq_false_iff,
        decide_eq_false_iff_not, Nat.not_lt] at guard
      omega
    have noWrap : (nextOffset + headerSize response index) % 2 ^ 64 =
        nextOffset + headerSize response index := by
      apply Nat.mod_eq_of_lt
      simp only [roundDownToMultipleOf8, sizeMax] at fits
      omega
    have grows := roundUpToMultipleOf8_ge fits
    rw [noWrap] at rounded
    refine ⟨by omega, fun _ => inside, fun _ => ⟨start, by omega, inside⟩⟩
  · unfold validateParameter at ok
    simp only [used, Bool.not_false, ↓reduceIte, Except.ok.injEq] at ok
    exact ⟨Nat.le_of_eq ok, fun before => ok ▸ before, fun usedAfter => absurd usedAfter used⟩

/-- A fixed parameter that passes its round has exactly its descriptor size. -/
theorem validateParameter_fixed {nextOffset next index : Nat}
    (ok : validateParameter table response nextOffset index = .ok next)
    (used : parameterIsUsed table response index = true)
    (notScalar : testFlag table (sysno response) index kScalar = false)
    (fixed : testFlag table (sysno response) index kFixed = true) :
    headerSize response index = parameterSize table (sysno response) index := by
  have sized := (validateParameter_used_ok used ok).2.2.2.2
  simp only [isValidParameterSize, used, notScalar, fixed, Bool.not_true, Bool.false_eq_true,
    ↓reduceIte, Option.some.injEq, beq_iff_eq] at sized
  exact sized

theorem validateMessageHeader_ok (ok : validateMessageHeader table response = .ok ()) :
    kMessageHeaderSize ≤ response.size ∧ isRequest response ≠ isResponse response := by
  unfold validateMessageHeader at ok
  split at ok
  · cases ok
  · rename_i complete
    split at ok
    · cases ok
    · split at ok
      · cases ok
      · rename_i oneKind
        exact ⟨Nat.le_of_not_gt complete, by simpa using oneKind⟩

/-- Once `Validate` succeeds, the header lies inside the response, the message
is a request or a response but not both, and each used parameter lies inside
the response; a fixed one has its descriptor size. -/
theorem validate_ok (ok : validate table response = .ok ()) :
    kMessageHeaderSize ≤ response.size ∧ isRequest response ≠ isResponse response ∧
      ∀ index < kParameterMax, parameterIsUsed table response index = true →
        headerOffset response index + headerSize response index ≤ response.size ∧
        (testFlag table (sysno response) index kScalar = false →
          testFlag table (sysno response) index kFixed = true →
          headerSize response index = parameterSize table (sysno response) index) := by
  obtain ⟨_, header, rest⟩ := Except.bind_eq_ok.mp ok
  obtain ⟨complete, oneKind⟩ := validateMessageHeader_ok header
  obtain ⟨final, folded, _⟩ := Except.bind_eq_ok.mp rest
  refine ⟨complete, oneKind, fun index bounded used => ?_⟩
  -- The loop keeps its next offset inside the response, so the round that met
  -- this parameter started, and ended, inside it.
  have rounds := Except.foldlM_mem_step (fun next => next ≤ response.size)
    (fun _ _ _ before step => (validateParameter_ok step).2.1 before)
    (List.range kParameterMax) complete folded index (List.mem_range.mpr bounded)
  obtain ⟨start, next, _, round⟩ := rounds
  obtain ⟨_, ends, within⟩ := (validateParameter_ok round).2.2 used
  exact ⟨by omega, fun notScalar fixed => validateParameter_fixed round used notScalar fixed⟩

end Validate

/-! ## The reads of `enc_untrusted_syscall` -/

/-- A read the enclave may make of a response: inside `[0, size)`, and none of
more than zero bytes from the null pointer. -/
def readsWithin (size : Nat) : Access → Prop
  | .bytes offset length => offset + length ≤ size
  | .null length => length = 0

section Syscall

variable {table : SystemCallTable} {response : Response}

/-- On a validated message marked as a response, the copy-out of a fixed out
parameter reads only inside the response. -/
theorem copyOut_fixed_within {number : Int} {parameters : List Nat} {index : Nat}
    (ok : validate table response = .ok ()) (answered : isResponse response = true)
    (sameNumber : sysno response = number) (bounded : index < kParameterMax)
    (fixedOut : testFlag table number index kOut = true →
      testFlag table number index kFixed = true ∧ testFlag table number index kScalar = false) :
    ∀ access ∈ copyOut table number parameters response index,
      readsWithin response.size access := by
  obtain ⟨complete, oneKind, parameterWithin⟩ := validate_ok ok
  unfold copyOut
  by_cases out : testFlag table number index kOut = true
  · obtain ⟨fixed, notScalar⟩ := fixedOut out
    have listed : (parameterEntry table number index).isSome = true := by
      unfold testFlag at out
      split at out
      · rename_i listedEntry
        simp [listedEntry]
      · cases out
    have notRequest : isRequest response = false := by
      simpa [answered] using oneKind
    have used : parameterIsUsed table response index = true := by
      simp only [parameterIsUsed, sameNumber, Option.isNone_iff_eq_none, notRequest,
        answered, out]
      simp [Option.ne_none_iff_isSome.mpr listed]
    obtain ⟨within, sized⟩ := parameterWithin index bounded used
    rw [sameNumber] at sized
    have sizeMatches := sized notScalar fixed
    simp only [kParameterMax, kMessageHeaderSize] at bounded complete
    simp only [out, Bool.not_true, Bool.false_eq_true, ↓reduceIte, fixed, parameterAddress]
    -- From here on only the sent size and offset matter, not the bytes that hold them.
    generalize headerSize response index = sentSize at within sizeMatches ⊢
    generalize headerOffset response index = sentOffset at within ⊢
    intro access member
    simp only [List.mem_append, List.mem_cons, List.mem_ite_nil_right, List.not_mem_nil,
      or_false] at member
    rcases member with ((header | ⟨-, offset⟩) | ⟨-, source⟩)
    · subst header
      simp only [readsWithin]
      omega
    · subst offset
      simp only [readsWithin]
      omega
    · subst source
      -- A parameter of size zero is copied from null, but then its length is zero too.
      by_cases nonempty : sentSize > 0
      · simp only [nonempty, ↓reduceIte, readsWithin]
        omega
      · simp only [nonempty, ↓reduceIte, readsWithin]
        omega
  · simp [out]

/-- When `enc_untrusted_syscall` returns on a response marked as a response,
for a system call whose out parameters are all fixed, every read it made of
the response lies inside it. -/
theorem encUntrustedSyscall_reads_within {number : Int} {parameters : List Nat} {result : Int}
    (fixedOuts : ∀ index < kParameterMax, testFlag table number index kOut = true →
      testFlag table number index kFixed = true ∧ testFlag table number index kScalar = false)
    (answered : isResponse response = true)
    (returned : (encUntrustedSyscall table number parameters (some response)).1 = .returned result) :
    ∀ access ∈ (encUntrustedSyscall table number parameters (some response)).2,
      readsWithin response.size access := by
  have valid : descriptorIsValid table number = true := by
    cases known : descriptorIsValid table number with
    | false => simp [encUntrustedSyscall, known] at returned
    | true => rfl
  have sameNumber : sysno response = number := by
    by_contra other
    simp [encUntrustedSyscall, valid, other] at returned
  have validated : validate table response = .ok () := by
    cases checked : validate table response with
    | ok u => rfl
    | error failure =>
      cases failure <;> simp [encUntrustedSyscall, valid, sameNumber, checked] at returned
  have complete := (validate_ok validated).1
  simp only [kMessageHeaderSize] at complete
  simp only [encUntrustedSyscall, valid, sameNumber, validated, Bool.not_true, bne_self_eq_false,
    Bool.false_eq_true, ↓reduceIte]
  intro access member
  simp only [List.mem_append, List.mem_cons, List.not_mem_nil, or_false, List.mem_flatMap,
    List.mem_range, List.mem_ite_nil_right] at member
  rcases member with ((sysnoRead | ⟨index, bounded, copied⟩) | resultRead | ⟨_, errnoRead⟩)
  · subst sysnoRead
    simp only [readsWithin]
    omega
  · exact copyOut_fixed_within validated answered sameNumber bounded (fixedOuts index bounded)
      access copied
  · subst resultRead
    simp only [readsWithin]
    omega
  · subst errnoRead
    simp only [readsWithin]
    omega

end Syscall

/-! ## `read` against a hostile host -/

/-- The row of `read` in the generated table: `fd` and `count` are scalars
copied in, and `buf` is copied out, bounded by `count` (parameter 2), with
elements of one byte. -/
def readEntry : SystemCallTableEntry :=
  ⟨"read", [⟨kScalar ||| kUnsigned ||| kConst ||| kIn, 4, 1⟩,
    ⟨kPointer ||| kOut ||| kBounded, 2, 1⟩, ⟨kScalar ||| kUnsigned ||| kConst ||| kIn, 8, 1⟩]⟩

/-- A table that binds `read` as system call 0, as on x86-64. -/
def readTable : SystemCallTable := fun number => if number = 0 then some readEntry else none

/-- A message for system call 0 with the given flags, result, parameter
offsets and sizes, followed by `payload`. -/
def sampleMessage (flags result : Nat) (offsets sizes : List Nat) (payload : List UInt8) :
    Response :=
  let bytes := LittleEndian.encode 8 kMessageMagic ++ LittleEndian.encode 4 flags ++
    LittleEndian.encode 4 0 ++ LittleEndian.encode 8 result ++ LittleEndian.encode 8 0 ++
    offsets.flatMap (LittleEndian.encode 8) ++ sizes.flatMap (LittleEndian.encode 8) ++ payload
  ⟨fun k => bytes.getD k 0, bytes.length⟩

/-- `read(3, buf, 100)` with `buf` at address 4096, answered by three
responses that `Validate` accepts. A response that gives `buf` size 0 makes
the enclave copy 100 bytes from the null pointer; one that gives it 8 bytes
makes it copy 100 bytes from a 136-byte response; one marked as a request has
its in parameters checked instead, and the enclave copies `buf` from the
offset the host chose. -/
theorem read_copies_past_response :
    encUntrustedSyscall readTable 0 [3, 4096, 100, 0, 0, 0]
        (some (sampleMessage kSystemCallResponse 100 [0, 128, 0, 0, 0, 0] [0, 0, 0, 0, 0, 0] [])) =
      (.returned 100, [.bytes 12 4, .bytes 88 8, .null 100, .bytes 16 8]) ∧
    encUntrustedSyscall readTable 0 [3, 4096, 100, 0, 0, 0]
        (some (sampleMessage kSystemCallResponse 100 [0, 128, 0, 0, 0, 0] [0, 8, 0, 0, 0, 0]
          (List.replicate 8 0))) =
      (.returned 100, [.bytes 12 4, .bytes 88 8, .bytes 40 8, .bytes 128 100, .bytes 16 8]) ∧
    encUntrustedSyscall readTable 0 [3, 4096, 100, 0, 0, 0]
        (some (sampleMessage kSystemCallRequest 100 [128, 1000000, 136, 0, 0, 0]
          [8, 100, 8, 0, 0, 0] (List.replicate 16 0))) =
      (.returned 100, [.bytes 12 4, .bytes 88 8, .bytes 40 8, .bytes 1000000 100, .bytes 16 8]) := by
  decide +kernel

end Asylo.SyscallMessageProofs
