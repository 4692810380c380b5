import Asylo.Util

/-! The length-prefixed concatenation of byte containers
(`crypto/util/byte_container_util.h` and `byte_container_util_internal.h`),
the encoding of EKEP context blobs, sealing additional data and other inputs
of derived keys.

`AppendSerializedByteContainers` appends each view as its size, a 32-bit
little-endian word, then its bytes; a view too large for the word stops it
with an error. The variadic `CreateByteContainerViewVector` packs its
arguments six at a time; it keeps them in order (`createByteContainerViewVector_eq`).

The loop appends to `*serialized` what the recursive `serializeByteContainers`
of the sealing model writes from empty (`appendSerializedByteContainers_eq`),
so the two models agree and the injectivity proved there holds of the loop
(`serialized_injective`). The error path is not clean: the views before the
first one too large are already appended when it fails
(`appendSerializedByteContainers_error`). -/
namespace Asylo.ByteContainerUtil

/-- The bytes of a `ByteContainerView`. -/
abbrev ByteContainerView := List UInt8

/-- `std::numeric_limits<uint32_t>::max()`. -/
def kUint32Max : Nat := 2 ^ 32 - 1

/-- The loop of `internal::AppendSerializedByteContainers(views, serialized)`:
the status, and `*serialized` after it. -/
def appendSerializedByteContainers : List ByteContainerView → List UInt8 → StatusOr Unit × List UInt8
  | [], serialized => (.ok (), serialized)
  | view :: views, serialized =>
    if view.length > kUint32Max then
      (.error ⟨.invalidArgument, "Container size exceeds max size"⟩, serialized)
    else appendSerializedByteContainers views (serialized ++ LittleEndian.encode 4 view.length ++ view)

/-- `internal::CreateByteContainerViewVector(args...)`: up to six arguments
make the vector; past six, the first six and the vector of the rest. -/
def createByteContainerViewVector : List ByteContainerView → List ByteContainerView
  | view1 :: view2 :: view3 :: view4 :: view5 :: view6 :: view7 :: rest =>
    [view1, view2, view3, view4, view5, view6] ++ createByteContainerViewVector (view7 :: rest)
  | views => views

/-- `AppendSerializedByteContainers(serialized, args...)`. -/
def appendSerialized (serialized : List UInt8) (args : List ByteContainerView) : StatusOr Unit × List UInt8 :=
  appendSerializedByteContainers (createByteContainerViewVector args) serialized

/-- `SerializeByteContainers(serialized, args...)`: `*serialized` is cleared
first. -/
def serializeByteContainers (args : List ByteContainerView) : StatusOr Unit × List UInt8 :=
  appendSerializedByteContainers (createByteContainerViewVector args) []

/-! ## The encoding -/

/-- The serialization of `views`: each one's 32-bit length, then its bytes. -/
def encoding (views : List ByteContainerView) : List UInt8 :=
  views.flatMap fun view => LittleEndian.encode 4 view.length ++ view

@[simp] theorem encoding_nil : encoding [] = [] := rfl

@[simp] theorem encoding_cons (view : ByteContainerView) (views : List ByteContainerView) :
    encoding (view :: views) = LittleEndian.encode 4 view.length ++ view ++ encoding views := by
  simp [encoding]

/-- Every view fits its 32-bit length word. -/
def Fits (views : List ByteContainerView) : Prop := ∀ view ∈ views, view.length ≤ kUint32Max

theorem fits_iff_lt (view : ByteContainerView) : view.length ≤ kUint32Max ↔ view.length < 2 ^ 32 := by
  unfold kUint32Max
  omega

theorem createByteContainerViewVector_eq : ∀ views, createByteContainerViewVector views = views
  | view1 :: view2 :: view3 :: view4 :: view5 :: view6 :: view7 :: rest => by
    rw [createByteContainerViewVector, createByteContainerViewVector_eq (view7 :: rest)]
    rfl
  | [] | [_] | [_, _] | [_, _, _] | [_, _, _, _] | [_, _, _, _, _] | [_, _, _, _, _, _] => rfl

/-! ## The loop and the recursive model -/

/-- The loop keeps what `*serialized` held and appends to it what the
recursive model writes from empty; the status is the same. -/
theorem appendSerializedByteContainers_eq :
    ∀ (views : List ByteContainerView) (serialized : List UInt8),
      appendSerializedByteContainers views serialized =
        ((Asylo.serializeByteContainers views).1, serialized ++ (Asylo.serializeByteContainers views).2)
  | [], serialized => by simp [appendSerializedByteContainers, Asylo.serializeByteContainers]
  | view :: views, serialized => by
    by_cases tooLarge : view.length > kUint32Max
    · have large : 2 ^ 32 ≤ view.length := by
        have := (fits_iff_lt view).not.mp (Nat.not_le.mpr tooLarge)
        omega
      rw [appendSerializedByteContainers, if_pos tooLarge, serializeByteContainers_cons_of_le views large]
      simp
    · have fits := (fits_iff_lt view).mp (Nat.not_lt.mp tooLarge)
      rw [appendSerializedByteContainers, if_neg tooLarge, appendSerializedByteContainers_eq views,
        serializeByteContainers_cons_of_lt views fits]
      simp only [List.append_assoc]

/-- `SerializeByteContainers` of the header is the recursive model. -/
theorem serializeByteContainers_eq (args : List ByteContainerView) :
    serializeByteContainers args = Asylo.serializeByteContainers args := by
  rw [serializeByteContainers, createByteContainerViewVector_eq, appendSerializedByteContainers_eq]
  rfl

/-- Views that fit serialize to their encoding. -/
theorem serializeByteContainers_of_fits :
    ∀ views : List ByteContainerView, Fits views → Asylo.serializeByteContainers views = (.ok (), encoding views)
  | [], _ => rfl
  | view :: views, fits => by
    have fitsHere := (fits_iff_lt view).mp (fits view (List.mem_cons_self ..))
    rw [serializeByteContainers_cons_of_lt views fitsHere,
      serializeByteContainers_of_fits views fun other member => fits other (List.mem_cons_of_mem _ member),
      encoding_cons]

/-- A view too large for its word fails the serialization, after the views
before it were written. -/
theorem serializeByteContainers_error :
    ∀ (views : List ByteContainerView) {index : Nat},
      (∀ j < index, (views.getD j []).length ≤ kUint32Max) → kUint32Max < (views.getD index []).length →
      Asylo.serializeByteContainers views =
        (.error ⟨.invalidArgument, "Container size exceeds max size"⟩, encoding (views.take index))
  | [], index, _, tooLarge => by simp [kUint32Max] at tooLarge
  | view :: views, 0, _, tooLarge => by
    rw [List.getD_cons_zero] at tooLarge
    rw [serializeByteContainers_cons_of_le views (by unfold kUint32Max at tooLarge; omega)]
    rfl
  | view :: views, index + 1, before, tooLarge => by
    have fitsHere := before 0 (Nat.zero_lt_succ index)
    rw [List.getD_cons_zero, fits_iff_lt] at fitsHere
    rw [List.getD_cons_succ] at tooLarge
    rw [serializeByteContainers_cons_of_lt views fitsHere,
      serializeByteContainers_error views (fun j below => by
        simpa using before (j + 1) (by omega)) tooLarge,
      List.take_succ_cons, encoding_cons]

/-! ## What the loop leaves in `*serialized` -/

/-- Views that fit are appended whole, after what was there. -/
theorem appendSerializedByteContainers_ok (views : List ByteContainerView) (serialized : List UInt8)
    (fits : Fits views) :
    appendSerializedByteContainers views serialized = (.ok (), serialized ++ encoding views) := by
  rw [appendSerializedByteContainers_eq, serializeByteContainers_of_fits views fits]

/-- A view too large for its word stops the loop with an error, after the
views before it were appended. -/
theorem appendSerializedByteContainers_error (views : List ByteContainerView) (serialized : List UInt8)
    {index : Nat} (before : ∀ j < index, (views.getD j []).length ≤ kUint32Max)
    (tooLarge : kUint32Max < (views.getD index []).length) :
    appendSerializedByteContainers views serialized =
      (.error ⟨.invalidArgument, "Container size exceeds max size"⟩, serialized ++ encoding (views.take index)) := by
  rw [appendSerializedByteContainers_eq, serializeByteContainers_error views before tooLarge]

/-- `AppendSerializedByteContainers(serialized, args...)` fails on a view too
large for its word with the views before it already appended: `*serialized`
is not left as it was. -/
theorem appendSerialized_keeps_earlier_views (serialized : List UInt8) (args : List ByteContainerView)
    {index : Nat} (before : ∀ j < index, (args.getD j []).length ≤ kUint32Max)
    (tooLarge : kUint32Max < (args.getD index []).length) (earlier : 0 < index) :
    (appendSerialized serialized args).1 = .error ⟨.invalidArgument, "Container size exceeds max size"⟩ ∧
      (appendSerialized serialized args).2 = serialized ++ encoding (args.take index) ∧
      (appendSerialized serialized args).2 ≠ serialized := by
  rw [appendSerialized, createByteContainerViewVector_eq, appendSerializedByteContainers_error args serialized before tooLarge]
  refine ⟨rfl, rfl, fun same => ?_⟩
  -- the first view is written, and its length word alone is four bytes
  obtain ⟨first, rest, rfl⟩ : ∃ first rest, args = first :: rest := by
    cases args with
    | nil => simp [kUint32Max] at tooLarge
    | cons first rest => exact ⟨first, rest, rfl⟩
  obtain ⟨k, rfl⟩ : ∃ k, index = k + 1 := ⟨index - 1, by omega⟩
  have lengths := congrArg List.length same
  simp only [List.take_succ_cons, encoding_cons, List.length_append, LittleEndian.length_encode] at lengths
  omega

/-- Two views, the second of 2^32 bytes: the first is left in `*serialized`. -/
theorem appendSerialized_keeps_earlier_views_of_two :
    appendSerialized [] [[1], List.replicate (2 ^ 32) 0] =
      (.error ⟨.invalidArgument, "Container size exceeds max size"⟩, [1, 0, 0, 0, 1]) := by
  obtain ⟨failed, written, _⟩ := @appendSerialized_keeps_earlier_views [] [[1], List.replicate (2 ^ 32) 0] 1
    (fun j below => by
      obtain rfl : j = 0 := by omega
      decide)
    -- a simp set would unfold the replicate; rewriting keeps it folded
    (by rw [List.getD_cons_succ, List.getD_cons_zero, List.length_replicate]; decide) Nat.one_pos
  rw [List.take_succ_cons, List.take_zero] at written
  exact Prod.ext failed (written.trans (by decide))

/-- `SerializeByteContainers` tells views that fit apart. -/
theorem serialized_injective {first second : List ByteContainerView} (fits : Fits first) (fits' : Fits second)
    (same : (serializeByteContainers first).2 = (serializeByteContainers second).2) : first = second := by
  rw [serializeByteContainers_eq, serializeByteContainers_eq] at same
  exact serializeByteContainers_injective (fun view member => (fits_iff_lt view).mp (fits view member))
    (fun view member => (fits_iff_lt view).mp (fits' view member)) same

end Asylo.ByteContainerUtil
