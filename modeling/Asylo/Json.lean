import Asylo.Util

/-! JSON values as a `google::protobuf::Value` holds them, the accessors of
`util/proto_struct_util.cc` that check a value's kind, and what C++ does with
the double of a JSON number.

A number is the double that the JSON parser made of it. Every finite double is
a rational, and the comparisons, the rounding, the truncation and the printing
that the code applies to a double are those of that rational, so a number is
a `ℚ` here. An object's fields are a list: a `google::protobuf::Struct` holds
each key once, and a lookup finds the first. -/
namespace Asylo

/-- A `google::protobuf::Value`, by its `kind` oneof. -/
inductive JsonValue
  | nullValue
  | numberValue (value : ℚ)
  | stringValue (value : String)
  | boolValue (value : Bool)
  | structValue (fields : List (String × JsonValue))
  | listValue (values : List JsonValue)
  deriving Repr

/-- `JsonGetObject`: the fields of an object. -/
def jsonGetObject : JsonValue → StatusOr (List (String × JsonValue))
  | .structValue fields => .ok fields
  | _ => .error ⟨.invalidArgument, "JSON value is not an object"⟩

/-- `JsonGetArray`. -/
def jsonGetArray : JsonValue → StatusOr (List JsonValue)
  | .listValue values => .ok values
  | _ => .error ⟨.invalidArgument, "JSON value is not an array"⟩

/-- `JsonGetString`. -/
def jsonGetString : JsonValue → StatusOr String
  | .stringValue value => .ok value
  | _ => .error ⟨.invalidArgument, "JSON value is not a string"⟩

/-- `JsonGetNumber`; its message says "integer" for any number. -/
def jsonGetNumber : JsonValue → StatusOr ℚ
  | .numberValue value => .ok value
  | _ => .error ⟨.invalidArgument, "JSON value is not an integer"⟩

/-- `JsonObjectGetField(object, field_name)`. -/
def jsonObjectGetField (object : List (String × JsonValue)) (fieldName : String) : StatusOr JsonValue :=
  match object.lookup fieldName with
  | some value => .ok value
  | none => .error ⟨.invalidArgument, "JSON object does not have a " ++ fieldName ++ " field"⟩

@[simp] theorem jsonGetObject_eq_ok {value : JsonValue} {fields : List (String × JsonValue)} :
    jsonGetObject value = .ok fields ↔ value = .structValue fields := by
  cases value <;> simp [jsonGetObject]

@[simp] theorem jsonGetArray_eq_ok {value : JsonValue} {values : List JsonValue} :
    jsonGetArray value = .ok values ↔ value = .listValue values := by
  cases value <;> simp [jsonGetArray]

@[simp] theorem jsonGetString_eq_ok {value : JsonValue} {text : String} :
    jsonGetString value = .ok text ↔ value = .stringValue text := by
  cases value <;> simp [jsonGetString]

@[simp] theorem jsonGetNumber_eq_ok {value : JsonValue} {number : ℚ} :
    jsonGetNumber value = .ok number ↔ value = .numberValue number := by
  cases value <;> simp [jsonGetNumber]

@[simp] theorem jsonObjectGetField_eq_ok {object : List (String × JsonValue)} {fieldName : String}
    {value : JsonValue} : jsonObjectGetField object fieldName = .ok value ↔ object.lookup fieldName = some value := by
  cases found : object.lookup fieldName <;> simp [jsonObjectGetField, found]

/-! ## Doubles -/

/-- The conversion of a double to an integer type: toward zero. -/
def truncToInt (value : ℚ) : Int := if value < 0 then -⌊-value⌋ else ⌊value⌋

/-- `round` of `<cmath>`: to the nearest integer, a half away from zero. -/
def cRound (value : ℚ) : Int := if value < 0 then -⌊-value + 1 / 2⌋ else ⌊value + 1 / 2⌋

/-- `%f` of `absl::StrFormat`: six digits after the point, the last one
rounded to the nearest and a tie to even, with the sign of the value. -/
def formatFixed (value : ℚ) : String :=
  let scaled := |value| * 1000000
  let whole := ⌊scaled⌋
  let rest := scaled - whole
  let rounded := if rest > 1 / 2 ∨ (rest = 1 / 2 ∧ whole % 2 = 1) then whole + 1 else whole
  let fraction := toString (rounded % 1000000)
  (if value < 0 then "-" else "") ++ toString (rounded / 1000000) ++ "." ++
    String.ofList (List.replicate (6 - fraction.length) '0') ++ fraction

example : formatFixed (-3 / 2) = "-1.500000" := by decide +kernel

theorem truncToInt_of_nonneg {value : ℚ} (nonneg : 0 ≤ value) : truncToInt value = ⌊value⌋ := by
  rw [truncToInt, if_neg (not_lt.mpr nonneg)]

@[simp] theorem truncToInt_intCast (n : Int) : truncToInt n = n := by
  unfold truncToInt
  split
  · rw [← Int.cast_neg, Int.floor_intCast, neg_neg]
  · exact Int.floor_intCast n

/-- A double that `round` leaves as it is is an integer. -/
theorem eq_truncToInt_of_cRound_eq {value : ℚ} (same : (cRound value : ℚ) = value) :
    value = (truncToInt value : ℚ) := by
  rw [← same, truncToInt_intCast]

end Asylo
