import Asylo.Util

/-! ASN.1 values (`crypto/asn1.cc`) and the schemas that read and write them
(`crypto/asn1_schema.h`, `crypto/asn1_schema.cc`).

An `Asn1Value` has one of the eight types of `Asn1Type`. BoringSSL keeps a
SEQUENCE as the DER of its elements, and `GetSequence` parses that back into a
stack of elements; the model keeps the elements, since parsing the DER that
`SetSequence` wrote gives them back. Values of the types `Asn1Value` does not
support, which only `CreateFromDer` makes, are left out, as are the failures
of BoringSSL's allocations.

An `Asn1Schema α` converts between the values that match it and `α`. It is
built from `Asn1Any()`, `Asn1ObjectId()`, `Asn1Sequence` of two schemas,
`Asn1SequenceOf` with bounds on the size, and `NamedSchema`, which adds its
name to every error. -/
namespace Asylo

/-- An OBJECT IDENTIFIER, by its arcs. `OBJ_cmp` compares two by their
encoding, which is determined by the arcs. -/
structure ObjectId where
  arcs : List Nat
  deriving DecidableEq, Repr

/-- `GetOidString()`: the arcs in dotted decimal, as `OBJ_obj2txt` prints
them with `no_name` set. -/
def ObjectId.getOidString (oid : ObjectId) : String := ".".intercalate (oid.arcs.map toString)

/-- `Asn1Type`. -/
inductive Asn1Type
  | kBoolean
  | kInteger
  | kEnumerated
  | kBitString
  | kOctetString
  | kObjectId
  | kSequence
  | kIA5String
  deriving DecidableEq, Repr

/-- `OpensslTypeName(ToOpensslType(type))`. -/
def Asn1Type.opensslTypeName : Asn1Type → String
  | .kBoolean => "BOOLEAN"
  | .kInteger => "INTEGER"
  | .kEnumerated => "ENUMERATED"
  | .kBitString => "BIT STRING"
  | .kOctetString => "OCTET STRING"
  | .kObjectId => "OBJECT IDENTIFIER"
  | .kSequence => "SEQUENCE/SEQUENCE OF"
  | .kIA5String => "IA5String"

/-- An `Asn1Value`; INTEGER and ENUMERATED values are their `BIGNUM`s. -/
inductive Asn1Value
  | boolean (value : Bool)
  | integer (value : Int)
  | enumerated (value : Int)
  | bitString (bits : List Bool)
  | octetString (bytes : List UInt8)
  | objectId (oid : ObjectId)
  | sequence (elements : List Asn1Value)
  | ia5String (value : String)
  deriving Repr

namespace Asn1Value

/-- `Type()`. -/
def type : Asn1Value → Asn1Type
  | .boolean _ => .kBoolean
  | .integer _ => .kInteger
  | .enumerated _ => .kEnumerated
  | .bitString _ => .kBitString
  | .octetString _ => .kOctetString
  | .objectId _ => .kObjectId
  | .sequence _ => .kSequence
  | .ia5String _ => .kIA5String

/-- The failure of `CheckIsType(expected)` on a value of type `actual`; every
getter below starts with that check. -/
def typeMismatch (actual expected : Asn1Type) : Status :=
  ⟨.invalidArgument, "Asn1Value is a " ++ actual.opensslTypeName ++ ", not a " ++ expected.opensslTypeName⟩

/-- `GetObjectId()`. -/
def getObjectId : Asn1Value → StatusOr ObjectId
  | .objectId oid => .ok oid
  | value => .error (typeMismatch value.type .kObjectId)

/-- `GetOctetString()`. -/
def getOctetString : Asn1Value → StatusOr (List UInt8)
  | .octetString bytes => .ok bytes
  | value => .error (typeMismatch value.type .kOctetString)

/-- `GetInteger()`. -/
def getInteger : Asn1Value → StatusOr Int
  | .integer bignum => .ok bignum
  | value => .error (typeMismatch value.type .kInteger)

/-- `GetEnumerated()`. -/
def getEnumerated : Asn1Value → StatusOr Int
  | .enumerated bignum => .ok bignum
  | value => .error (typeMismatch value.type .kEnumerated)

/-- `GetBsslSequence()`: the stack `d2i_ASN1_SEQUENCE_ANY` parses the
elements into, the first at the bottom. -/
def getBsslSequence : Asn1Value → StatusOr (List Asn1Value)
  | .sequence elements => .ok elements
  | value => .error (typeMismatch value.type .kSequence)

end Asn1Value

/-- The loop of `GetSequence`: for `i` from the last index down to 0,
`result[i]` is the element `sk_ASN1_TYPE_pop` takes off the top of the stack.
The stack is listed from its top, so that each pop takes its head; `filled`
is the part of the result already written. -/
def popElements : List Asn1Value → List Asn1Value → List Asn1Value
  | [], filled => filled
  | top :: below, filled => popElements below (top :: filled)

namespace Asn1Value

/-- `GetSequence()`. -/
def getSequence (value : Asn1Value) : StatusOr (List Asn1Value) := do
  let sequence ← value.getBsslSequence
  return popElements sequence.reverse []

/-- `IntegerFromBignum<IntT>(bignum)` for an `IntT` whose values are
`intMin` to `intMax`. -/
def integerFromBignum (intMin intMax bignum : Int) : StatusOr Int :=
  if bignum < intMin ∨ bignum > intMax then .error ⟨.outOfRange, "BIGNUM cannot fit in the desired type"⟩
  else .ok bignum

/-- `GetIntegerAsInt<IntT>()`. -/
def getIntegerAsInt (intMin intMax : Int) (value : Asn1Value) : StatusOr Int := do
  let bignum ← value.getInteger
  integerFromBignum intMin intMax bignum

/-- `GetEnumeratedAsInt<IntT>()`. -/
def getEnumeratedAsInt (intMin intMax : Int) (value : Asn1Value) : StatusOr Int := do
  let bignum ← value.getEnumerated
  integerFromBignum intMin intMax bignum

/-- `CreateObjectId(oid)`. -/
def createObjectId (oid : ObjectId) : StatusOr Asn1Value := .ok (.objectId oid)

/-- `CreateOctetString(bytes)`. -/
def createOctetString (bytes : List UInt8) : StatusOr Asn1Value := .ok (.octetString bytes)

/-- `CreateIntegerFromInt(value)`: `BignumFromInteger` holds any value of an
integer type. -/
def createIntegerFromInt (value : Int) : StatusOr Asn1Value := .ok (.integer value)

/-- `CreateEnumeratedFromInt(value)`. -/
def createEnumeratedFromInt (value : Int) : StatusOr Asn1Value := .ok (.enumerated value)

/-- `CreateSequence(elements)`: `SetSequence` pushes a copy of each element
in order. -/
def createSequence (elements : List Asn1Value) : StatusOr Asn1Value := .ok (.sequence elements)

end Asn1Value

/-- An `Asn1Schema<ValueType>`. `Asn1SequenceOf` returns `nullptr` when
`min_size > max_size`, so a schema of that kind carries the order of its
bounds. -/
inductive Asn1Schema : Type → Type 1
  /-- `Asn1Any()`. -/
  | any : Asn1Schema Asn1Value
  /-- `Asn1ObjectId()`. -/
  | objectId : Asn1Schema ObjectId
  /-- `Asn1Sequence(first_schema, second_schema)`. -/
  | sequence {α β : Type} (first : Asn1Schema α) (second : Asn1Schema β) : Asn1Schema (α × β)
  /-- `Asn1SequenceOf(schema, min_size, max_size)`. -/
  | sequenceOf {α : Type} (element : Asn1Schema α) (minSize maxSize : Nat) (ordered : minSize ≤ maxSize) :
      Asn1Schema (List α)
  /-- `NamedSchema(name, schema)`. -/
  | named {α : Type} (name : String) (schema : Asn1Schema α) : Asn1Schema α

/-- `std::numeric_limits<size_t>::max()`, the default `max_size`. -/
def kSizeMax : Nat := 2 ^ 64 - 1

/-- `Asn1SequenceOf(schema, min_size, max_size)`. -/
def asn1SequenceOf {α : Type} (schema : Asn1Schema α) (minSize maxSize : Nat) : Option (Asn1Schema (List α)) :=
  if ordered : minSize ≤ maxSize then some (.sequenceOf schema minSize maxSize ordered) else none

/-- `VerifySize(size)` of an `Asn1SequenceOfImpl`. -/
def verifySize (minSize maxSize size : Nat) : StatusOr Unit :=
  if size < minSize ∨ size > maxSize then
    .error ⟨.invalidArgument, "Sequence has size " ++ toString size ++ ", but a size between " ++
      toString minSize ++ " and " ++ toString maxSize ++ " was expected"⟩
  else .ok ()

namespace Asn1Schema

/-- `Read(asn1)`. -/
def read : {α : Type} → Asn1Schema α → Asn1Value → StatusOr α
  | _, .any, asn1 => .ok asn1
  | _, .objectId, asn1 => asn1.getObjectId
  | _, .sequence first second, asn1 => do
    let elements ← asn1.getSequence
    match elements with
    | [element0, element1] =>
      let value0 ← first.read element0
      let value1 ← second.read element1
      return (value0, value1)
    | _ => throw ⟨.invalidArgument, "Sequence has size " ++ toString elements.length ++ ", but size 2 was expected"⟩
  | _, .sequenceOf element minSize maxSize _, asn1 => do
    let elements ← asn1.getSequence
    verifySize minSize maxSize elements.length
    elements.mapM element.read
  | _, .named name schema, asn1 => withContext (schema.read asn1) ("Failed to read " ++ name)

/-- `Write(value)`. -/
def write : {α : Type} → Asn1Schema α → α → StatusOr Asn1Value
  | _, .any, value => .ok value
  | _, .objectId, value => Asn1Value.createObjectId value
  | _, .sequence first second, (value0, value1) => do
    let element0 ← first.write value0
    let element1 ← second.write value1
    Asn1Value.createSequence [element0, element1]
  | _, .sequenceOf element minSize maxSize _, values => do
    verifySize minSize maxSize values.length
    let elements ← values.mapM element.write
    Asn1Value.createSequence elements
  | _, .named name schema, value => withContext (schema.write value) ("Failed to write " ++ name)

end Asn1Schema

end Asylo
