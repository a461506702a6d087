import TemplateMachine.Value.Basic

/-!
# Structured data

Attributes can be given as structured data of any program: numbers of several widths, records,
enumeration cases, and maps announced as a series of keys and values. Each datum becomes a value.
Conversion runs in the order of announcement and stops at the first datum that is no value.
-/

namespace TemplateMachine

mutual

/-- Structured data. An enumeration case carries its name, a record its fields in order. -/
inductive Datum where
  | bool (b : Bool)
  | signed (n : Int64)
  | unsigned (n : UInt64)
  | wide (typeName : String)
  | float (x : Float)
  | single (x : Float32)
  | char (c : Char)
  | text (text : String)
  | bytes (bytes : List UInt8)
  | absent
  | present (content : Datum)
  | unit
  | unitCase (name : String)
  | wrapped (content : Datum)
  | wrappedCase (name : String) (content : Datum)
  | sequence (items : List Datum)
  | sequenceCase (name : String) (items : List Datum)
  | map (calls : List MapCall)
  | record (fields : List (String × Datum))
  | recordCase (name : String) (fields : List (String × Datum))

/-- One announcement of a map: a key, or a value for the key announced last. -/
inductive MapCall where
  | key (content : Datum)
  | value (content : Datum)

end

/-- Why structured data is no value. -/
inductive DatumError where
  | integerTooLarge
  | unsupportedType (typeName : String)
  | keyNotText
  | valueBeforeKey
deriving DecidableEq, Repr

/-- The wording of a conversion error. -/
def DatumError.message : DatumError → String
  | .integerTooLarge => "out of range integral type conversion attempted"
  | .unsupportedType typeName => s!"{typeName} is not supported"
  | .keyNotText => "map key must be a string"
  | .valueBeforeKey => "map value serialized before key"

namespace Datum

/-- The text of a map key: a text stands for itself and an integer for its decimal digits. -/
def keyText : Value → Except DatumError String
  | .string key => pure key
  | .integer n => pure (toString n.toInt)
  | _ => throw .keyNotText

/-- The map with the single entry of an enumeration case. -/
def caseValue (name : String) (content : Value) : Value :=
  .map [(name, content)]

mutual

/-- The value of a datum. -/
def toValue : Datum → Except DatumError Value
  | .bool b => pure (.bool b)
  | .signed n => pure (.integer n)
  | .unsigned n =>
    if n < 0x8000000000000000 then pure (.integer n.toInt64) else throw .integerTooLarge
  | .wide typeName => throw (.unsupportedType typeName)
  | .float x => pure (.float x)
  | .single x => pure (.float x.toFloat)
  | .char c => pure (.string (String.singleton c))
  | .text content => pure (.string content)
  | .bytes content => pure (.list (content.map fun byte => .integer (Int64.ofNat byte.toNat)))
  | .absent => pure .none
  | .present content => content.toValue
  | .unit => pure .none
  | .unitCase name => pure (.string name)
  | .wrapped content => content.toValue
  | .wrappedCase name content => do
    let value ← content.toValue
    pure (caseValue name value)
  | .sequence items => do
    let values ← toValues items
    pure (.list values)
  | .sequenceCase name items => do
    let values ← toValues items
    pure (caseValue name (.list values))
  | .map calls => do
    let entries ← followCalls none [] calls
    pure (.map entries)
  | .record fields => do
    let entries ← fillFields [] fields
    pure (.map entries)
  | .recordCase name fields => do
    let entries ← fillFields [] fields
    pure (caseValue name (.map entries))

/-- The values of data in order. -/
def toValues : List Datum → Except DatumError (List Value)
  | [] => pure []
  | item :: rest => do
    let value ← item.toValue
    let values ← toValues rest
    pure (value :: values)

/-- The entries after the announcements of a map, given the key that waits for a value. -/
def followCalls (pending : Option String) (entries : Entries Value) :
    List MapCall → Except DatumError (Entries Value)
  | [] => pure entries
  | .key content :: rest => do
    let value ← content.toValue
    let key ← keyText value
    followCalls (some key) entries rest
  | .value content :: rest =>
    match pending with
    | none => throw .valueBeforeKey
    | some key => do
      let value ← content.toValue
      followCalls none (Entries.insert key value entries) rest

/-- The entries after the fields of a record. -/
def fillFields (entries : Entries Value) :
    List (String × Datum) → Except DatumError (Entries Value)
  | [] => pure entries
  | (name, content) :: rest => do
    let value ← content.toValue
    fillFields (Entries.insert name value entries) rest

end

end Datum

end TemplateMachine
