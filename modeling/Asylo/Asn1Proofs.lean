import Asylo.Asn1
import Asylo.ExceptLemmas

/-! `Read` and `Write` of every schema undo each other: reading what `Write`
produced gives the value back, and writing what `Read` produced gives back
the value it read, so also that value's DER. Both are inductions over the
schema. The SEQUENCE cases rest on `GetSequence` returning the elements in
order, although its loop pops them off the end of the stack and fills the
result from the back. -/
namespace Asylo

/-- Popping the whole stack in front of `filled` puts the elements back in
the order they were pushed, the bottom one first. -/
theorem popElements_eq (stack filled : List Asn1Value) : popElements stack filled = stack.reverse ++ filled := by
  induction stack generalizing filled with
  | nil => rfl
  | cons top below ih => simp [popElements, ih]

namespace Asn1Value

@[simp] theorem getSequence_sequence (elements : List Asn1Value) :
    (Asn1Value.sequence elements).getSequence = .ok elements := by
  simp [getSequence, getBsslSequence, popElements_eq, bind, Except.bind, pure, Except.pure]

theorem getSequence_eq_ok {value : Asn1Value} {elements : List Asn1Value} :
    value.getSequence = .ok elements ↔ value = .sequence elements := by
  cases value with
  | sequence inner => simp
  | _ => simp [getSequence, getBsslSequence, bind, Except.bind]

theorem getObjectId_eq_ok {value : Asn1Value} {oid : ObjectId} :
    value.getObjectId = .ok oid ↔ value = .objectId oid := by
  cases value <;> simp [getObjectId]

end Asn1Value

theorem verifySize_eq_ok {minSize maxSize size : Nat} :
    verifySize minSize maxSize size = .ok () ↔ minSize ≤ size ∧ size ≤ maxSize := by
  unfold verifySize
  split
  · simp only [reduceCtorEq, false_iff]
    omega
  · simp only [true_iff]
    omega

namespace Asn1Schema

/-- Reading what a schema wrote gives the value back. -/
theorem read_write {α : Type} (schema : Asn1Schema α) :
    ∀ {value : α} {asn1 : Asn1Value}, schema.write value = .ok asn1 → schema.read asn1 = .ok value := by
  induction schema with
  | any =>
    intro value asn1 written
    cases written
    rfl
  | objectId =>
    intro oid asn1 written
    cases written
    rfl
  | sequence first second ihFirst ihSecond =>
    rintro ⟨value0, value1⟩ asn1 written
    obtain ⟨element0, written0, written⟩ := Except.bind_eq_ok.mp written
    obtain ⟨element1, written1, written⟩ := Except.bind_eq_ok.mp written
    cases Except.ok.inj written
    simp [read, ihFirst written0, ihSecond written1, bind, Except.bind, pure, Except.pure]
  | sequenceOf element minSize maxSize _ ih =>
    intro values asn1 written
    obtain ⟨⟨⟩, sized, written⟩ := Except.bind_eq_ok.mp written
    obtain ⟨elements, mapped, written⟩ := Except.bind_eq_ok.mp written
    cases Except.ok.inj written
    -- the elements read back are the values written, so their number passes the same check
    have lengths := Except.length_of_mapM_eq_ok mapped
    have readBack := Except.mapM_inverse (fun _ _ => ih) mapped
    simp [read, lengths, sized, readBack, bind, Except.bind]
  | named name schema ih =>
    intro value asn1 written
    simpa [read, write] using ih (by simpa [write] using written)

/-- Writing what a schema read gives back the value it read. -/
theorem write_read {α : Type} (schema : Asn1Schema α) :
    ∀ {asn1 : Asn1Value} {value : α}, schema.read asn1 = .ok value → schema.write value = .ok asn1 := by
  induction schema with
  | any =>
    intro asn1 value readOk
    cases readOk
    rfl
  | objectId =>
    intro asn1 oid readOk
    cases Asn1Value.getObjectId_eq_ok.mp readOk
    rfl
  | sequence first second ihFirst ihSecond =>
    intro asn1 value readOk
    obtain ⟨elements, gotten, matched⟩ := Except.bind_eq_ok.mp readOk
    cases Asn1Value.getSequence_eq_ok.mp gotten
    -- only a SEQUENCE of exactly two elements is read
    split at matched
    · obtain ⟨value0, read0, matched⟩ := Except.bind_eq_ok.mp matched
      obtain ⟨value1, read1, matched⟩ := Except.bind_eq_ok.mp matched
      cases Except.ok.inj matched
      simp [write, ihFirst read0, ihSecond read1, bind, Except.bind, Asn1Value.createSequence]
    · cases matched
  | sequenceOf element minSize maxSize _ ih =>
    intro asn1 values readOk
    obtain ⟨elements, gotten, checked⟩ := Except.bind_eq_ok.mp readOk
    cases Asn1Value.getSequence_eq_ok.mp gotten
    obtain ⟨⟨⟩, sized, mapped⟩ := Except.bind_eq_ok.mp checked
    have lengths := Except.length_of_mapM_eq_ok mapped
    have writtenBack := Except.mapM_inverse (fun _ _ => ih) mapped
    simp [write, lengths, sized, writtenBack, bind, Except.bind, Asn1Value.createSequence]
  | named name schema ih =>
    intro asn1 value readOk
    simpa [read, write] using ih (by simpa [read] using readOk)

/-- Every schema's `Read` and `Write` are inverse on their successes: a value
written reads back as itself, and a value read writes back to the very value
it was read from, so to the same DER. -/
theorem schema_read_write_inverse {α : Type} (schema : Asn1Schema α) :
    (∀ (value : α) (asn1 : Asn1Value), schema.write value = .ok asn1 → schema.read asn1 = .ok value) ∧
      (∀ (asn1 : Asn1Value) (value : α), schema.read asn1 = .ok value → schema.write value = .ok asn1) :=
  ⟨fun _ _ => schema.read_write, fun _ _ => schema.write_read⟩

/-- The schema of a sequence of `(OID, ANY)` pairs, on one pair. -/
theorem schema_read_write_inverse_oid_any_pair :
    (Asn1Schema.sequenceOf (.sequence .objectId .any) 1 kSizeMax (by decide)).write
        [(⟨[1, 2, 840, 113741, 1, 13, 1, 1]⟩, .octetString [7])] =
      .ok (.sequence [.sequence [.objectId ⟨[1, 2, 840, 113741, 1, 13, 1, 1]⟩, .octetString [7]]]) ∧
    (Asn1Schema.sequenceOf (.sequence .objectId .any) 1 kSizeMax (by decide)).read
        (.sequence [.sequence [.objectId ⟨[1, 2, 840, 113741, 1, 13, 1, 1]⟩, .octetString [7]]]) =
      .ok [(⟨[1, 2, 840, 113741, 1, 13, 1, 1]⟩, .octetString [7])] :=
  ⟨rfl, (schema_read_write_inverse _).1 _ _ rfl⟩

end Asn1Schema

end Asylo
