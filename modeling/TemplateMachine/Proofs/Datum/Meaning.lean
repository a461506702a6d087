import TemplateMachine.Proofs.Datum.Collection
import TemplateMachine.Proofs.Except
import TemplateMachine.Value.Datum

/-!
# What structured data becomes

The rules by which structured data becomes a value, one for each kind of data and without a state:
the announcements of a map are read as keys that a value may follow. The conversion gives a value
exactly when the rules do, and then that value.
-/

namespace TemplateMachine

namespace Datum

mutual

/-- What a datum becomes. A number stays the same number, a sequence becomes the list of what its
items become, and an enumeration case with content the map from its name to that content. -/
inductive Becomes : Datum → Value → Prop where
  | bool (b : Bool) : Becomes (.bool b) (.bool b)
  | signed (n : Int64) : Becomes (.signed n) (.integer n)
  | unsigned {n : UInt64} {m : Int64} : m.toInt = n.toNat → Becomes (.unsigned n) (.integer m)
  | float (x : Float) : Becomes (.float x) (.float x)
  | single (x : Float32) : Becomes (.single x) (.float x.toFloat)
  | char (c : Char) : Becomes (.char c) (.string (String.singleton c))
  | text (content : String) : Becomes (.text content) (.string content)
  | bytes (content : List UInt8) : Becomes (.bytes content)
      (.list (content.map fun byte => .integer (Int64.ofNat byte.toNat)))
  | absent : Becomes .absent .none
  | present {content : Datum} {value : Value} :
      Becomes content value → Becomes (.present content) value
  | unit : Becomes .unit .none
  | unitCase (name : String) : Becomes (.unitCase name) (.string name)
  | wrapped {content : Datum} {value : Value} :
      Becomes content value → Becomes (.wrapped content) value
  | wrappedCase {name : String} {content : Datum} {value : Value} :
      Becomes content value → Becomes (.wrappedCase name content) (.map [(name, value)])
  | sequence {items : List Datum} {values : List Value} :
      AllBecome items values → Becomes (.sequence items) (.list values)
  | sequenceCase {name : String} {items : List Datum} {values : List Value} :
      AllBecome items values → Becomes (.sequenceCase name items) (.map [(name, .list values)])
  | map {calls : List MapCall} {pairs : List (String × Value)} {entries : Entries Value} :
      CallsGive calls pairs → Entries.Collects pairs entries → Becomes (.map calls) (.map entries)
  | record {fields : List (String × Datum)} {pairs : List (String × Value)}
      {entries : Entries Value} : FieldsGive fields pairs → Entries.Collects pairs entries →
      Becomes (.record fields) (.map entries)
  | recordCase {name : String} {fields : List (String × Datum)} {pairs : List (String × Value)}
      {entries : Entries Value} : FieldsGive fields pairs → Entries.Collects pairs entries →
      Becomes (.recordCase name fields) (.map [(name, .map entries)])

/-- What data become one by one. -/
inductive AllBecome : List Datum → List Value → Prop where
  | nil : AllBecome [] []
  | cons {item : Datum} {items : List Datum} {value : Value} {values : List Value} :
      Becomes item value → AllBecome items values → AllBecome (item :: items) (value :: values)

/-- The text that a datum has as a key, if it becomes a text or an integer. -/
inductive KeyBecomes : Datum → String → Prop where
  | text {content : Datum} {key : String} :
      Becomes content (.string key) → KeyBecomes content key
  | integer {content : Datum} {n : Int64} :
      Becomes content (.integer n) → KeyBecomes content (toString n.toInt)

/-- The pairs that the announcements of a map give: a value belongs to the key right in front of it,
and a key that no value follows gives nothing. -/
inductive CallsGive : List MapCall → List (String × Value) → Prop where
  | nil : CallsGive [] []
  | key {content : Datum} {key : String} {calls : List MapCall} {pairs : List (String × Value)} :
      KeyBecomes content key → CallsGive calls pairs → CallsGive (.key content :: calls) pairs
  | pair {content item : Datum} {key : String} {value : Value} {calls : List MapCall}
      {pairs : List (String × Value)} : KeyBecomes content key → Becomes item value →
      CallsGive calls pairs →
      CallsGive (.key content :: .value item :: calls) ((key, value) :: pairs)

/-- The pairs that the fields of a record give. -/
inductive FieldsGive : List (String × Datum) → List (String × Value) → Prop where
  | nil : FieldsGive [] []
  | cons {name : String} {content : Datum} {value : Value} {fields : List (String × Datum)}
      {pairs : List (String × Value)} : Becomes content value → FieldsGive fields pairs →
      FieldsGive ((name, content) :: fields) ((name, value) :: pairs)

end

/-! ### The conversion follows the rules -/

/-- An unsigned number that fits is the same number as a signed one. -/
theorem toInt_toInt64_eq_iff {n : UInt64} {m : Int64} :
    m.toInt = n.toNat ↔ n < 0x8000000000000000 ∧ n.toInt64 = m := by
  have value : n.toInt64.toInt = (n.toNat : Int).bmod (2 ^ 64) := n.toBitVec.toInt_eq_toNat_bmod
  have bound : n < 0x8000000000000000 ↔ n.toNat < 2 ^ 63 := UInt64.lt_iff_toNat_lt
  have size : n.toNat < 2 ^ 64 := n.toNat_lt
  have below := m.toInt_lt
  rw [bound, ← Int64.toInt_inj, value, Int.bmod_def]
  omega

theorem keyText_eq_ok_iff {value : Value} {key : String} :
    keyText value = .ok key ↔
      value = .string key ∨ ∃ n, value = .integer n ∧ toString n.toInt = key := by
  cases value <;> simp [keyText, throw, throwThe, MonadExceptOf.throw]

theorem keyBecomes_of_keyText {content : Datum} {value : Value} {key : String}
    (becomes : Becomes content value) (text : keyText value = .ok key) :
    KeyBecomes content key := by
  rcases keyText_eq_ok_iff.mp text with rfl | ⟨n, rfl, rfl⟩
  · exact .text becomes
  · exact .integer becomes

mutual

theorem toValue_of_becomes {datum : Datum} {value : Value} (becomes : Becomes datum value) :
    datum.toValue = .ok value := by
  match becomes with
  | .bool _ | .signed _ | .float _ | .single _ | .char _ | .text _ | .bytes _ | .absent | .unit
  | .unitCase _ => rfl
  | .unsigned same =>
    obtain ⟨fits, rfl⟩ := toInt_toInt64_eq_iff.mp same
    simp [toValue, fits]
  | .present content | .wrapped content =>
    rw [toValue]
    exact toValue_of_becomes content
  | .wrappedCase content => simp [toValue, toValue_of_becomes content, caseValue]
  | .sequence items => simp [toValue, toValues_of_allBecome items]
  | .sequenceCase items => simp [toValue, toValues_of_allBecome items, caseValue]
  | .map calls collects =>
    rw [toValue, followCalls_of_callsGive calls, Entries.collects_iff.mp collects]
    rfl
  | .record fields collects =>
    rw [toValue, fillFields_of_fieldsGive fields, Entries.collects_iff.mp collects]
    rfl
  | .recordCase fields collects =>
    rw [toValue, fillFields_of_fieldsGive fields, Entries.collects_iff.mp collects]
    rfl
termination_by structural becomes

theorem toValues_of_allBecome {items : List Datum} {values : List Value}
    (become : AllBecome items values) : toValues items = .ok values := by
  match become with
  | .nil => rfl
  | .cons item items => simp [toValues, toValue_of_becomes item, toValues_of_allBecome items]
termination_by structural become

theorem keyText_of_keyBecomes {content : Datum} {key : String}
    (becomes : KeyBecomes content key) :
    ∃ value, content.toValue = .ok value ∧ keyText value = .ok key := by
  match becomes with
  | .text content => exact ⟨_, toValue_of_becomes content, rfl⟩
  | .integer content => exact ⟨_, toValue_of_becomes content, rfl⟩
termination_by structural becomes

theorem followCalls_of_callsGive {calls : List MapCall} {pairs : List (String × Value)}
    (give : CallsGive calls pairs) (pending : Option String) (entries : Entries Value) :
    followCalls pending entries calls = .ok (Entries.insertAll entries pairs) := by
  match give with
  | .nil => rfl
  | .key content calls =>
    obtain ⟨value, converted, text⟩ := keyText_of_keyBecomes content
    simp [followCalls, converted, text, followCalls_of_callsGive calls]
  | .pair content item calls =>
    obtain ⟨value, converted, text⟩ := keyText_of_keyBecomes content
    simp [followCalls, converted, text, toValue_of_becomes item, followCalls_of_callsGive calls]
termination_by structural give

theorem fillFields_of_fieldsGive {fields : List (String × Datum)} {pairs : List (String × Value)}
    (give : FieldsGive fields pairs) (entries : Entries Value) :
    fillFields entries fields = .ok (Entries.insertAll entries pairs) := by
  match give with
  | .nil => rfl
  | .cons content fields =>
    simp [fillFields, toValue_of_becomes content, fillFields_of_fieldsGive fields]
termination_by structural give

end

/-- The pairs that announcements give when a key is waiting already. -/
def GiveAfter (pending : Option String) (calls : List MapCall) (pairs : List (String × Value)) :
    Prop :=
  match pending with
  | none => CallsGive calls pairs
  | some key => ∀ content, KeyBecomes content key → CallsGive (.key content :: calls) pairs

/-- What announcements give by themselves they also give behind a key that is not used. -/
theorem CallsGive.after {calls : List MapCall} {pairs : List (String × Value)}
    (give : CallsGive calls pairs) (pending : Option String) : GiveAfter pending calls pairs := by
  cases pending with
  | none => exact give
  | some key => exact fun _ waiting => .key waiting give

mutual

theorem becomes_of_toValue {datum : Datum} {value : Value} (converted : datum.toValue = .ok value) :
    Becomes datum value := by
  match datum with
  | .bool _ | .signed _ | .float _ | .single _ | .char _ | .text _ | .bytes _ | .absent | .unit
  | .unitCase _ =>
    obtain rfl := by simpa [toValue] using converted
    constructor
  | .unsigned n =>
    rw [toValue] at converted
    split at converted
    next fits =>
      obtain rfl := by simpa using converted
      exact .unsigned (toInt_toInt64_eq_iff.mpr ⟨fits, rfl⟩)
    next => contradiction
  | .wide _ => contradiction
  | .present content =>
    rw [toValue] at converted
    exact .present (becomes_of_toValue converted)
  | .wrapped content =>
    rw [toValue] at converted
    exact .wrapped (becomes_of_toValue converted)
  | .wrappedCase name content =>
    simp only [toValue, bind_eq_ok_iff, pure_eq_ok_iff] at converted
    obtain ⟨inner, converted, rfl⟩ := converted
    exact .wrappedCase (becomes_of_toValue converted)
  | .sequence items =>
    simp only [toValue, bind_eq_ok_iff, pure_eq_ok_iff] at converted
    obtain ⟨values, converted, rfl⟩ := converted
    exact .sequence (allBecome_of_toValues converted)
  | .sequenceCase name items =>
    simp only [toValue, bind_eq_ok_iff, pure_eq_ok_iff] at converted
    obtain ⟨values, converted, rfl⟩ := converted
    exact .sequenceCase (allBecome_of_toValues converted)
  | .map calls =>
    simp only [toValue, bind_eq_ok_iff, pure_eq_ok_iff] at converted
    obtain ⟨entries, converted, rfl⟩ := converted
    obtain ⟨pairs, give, rfl⟩ := giveAfter_of_followCalls converted
    exact .map give (Entries.collects_ofPairs pairs)
  | .record fields =>
    simp only [toValue, bind_eq_ok_iff, pure_eq_ok_iff] at converted
    obtain ⟨entries, converted, rfl⟩ := converted
    obtain ⟨pairs, give, rfl⟩ := fieldsGive_of_fillFields converted
    exact .record give (Entries.collects_ofPairs pairs)
  | .recordCase name fields =>
    simp only [toValue, bind_eq_ok_iff, pure_eq_ok_iff] at converted
    obtain ⟨entries, converted, rfl⟩ := converted
    obtain ⟨pairs, give, rfl⟩ := fieldsGive_of_fillFields converted
    exact .recordCase give (Entries.collects_ofPairs pairs)
termination_by structural datum

theorem allBecome_of_toValues {items : List Datum} {values : List Value}
    (converted : toValues items = .ok values) : AllBecome items values := by
  match items with
  | [] =>
    obtain rfl := by simpa [toValues] using converted
    exact .nil
  | item :: items =>
    simp only [toValues, bind_eq_ok_iff, pure_eq_ok_iff] at converted
    obtain ⟨value, first, values, rest, rfl⟩ := converted
    exact .cons (becomes_of_toValue first) (allBecome_of_toValues rest)
termination_by structural items

theorem giveAfter_of_followCalls {pending : Option String} {before entries : Entries Value}
    {calls : List MapCall} (followed : followCalls pending before calls = .ok entries) :
    ∃ pairs, GiveAfter pending calls pairs ∧ entries = Entries.insertAll before pairs := by
  match calls with
  | [] =>
    obtain rfl := by simpa [followCalls] using followed
    exact ⟨[], CallsGive.nil.after pending, rfl⟩
  | .key content :: calls =>
    simp only [followCalls, bind_eq_ok_iff] at followed
    obtain ⟨value, converted, key, text, followed⟩ := followed
    obtain ⟨pairs, give, rfl⟩ := giveAfter_of_followCalls followed
    have waiting := keyBecomes_of_keyText (becomes_of_toValue converted) text
    exact ⟨pairs, (give content waiting).after pending, rfl⟩
  | .value content :: calls =>
    match pending with
    | none => contradiction
    | some key =>
      simp only [followCalls, bind_eq_ok_iff] at followed
      obtain ⟨value, converted, followed⟩ := followed
      obtain ⟨pairs, give, rfl⟩ := giveAfter_of_followCalls followed
      have becomes := becomes_of_toValue converted
      exact ⟨(key, value) :: pairs, fun _ waiting => .pair waiting becomes give, rfl⟩
termination_by structural calls

theorem fieldsGive_of_fillFields {before entries : Entries Value}
    {fields : List (String × Datum)} (filled : fillFields before fields = .ok entries) :
    ∃ pairs, FieldsGive fields pairs ∧ entries = Entries.insertAll before pairs := by
  match fields with
  | [] =>
    obtain rfl := by simpa [fillFields] using filled
    exact ⟨[], .nil, rfl⟩
  | (name, content) :: fields =>
    simp only [fillFields, bind_eq_ok_iff] at filled
    obtain ⟨value, converted, filled⟩ := filled
    obtain ⟨pairs, give, rfl⟩ := fieldsGive_of_fillFields filled
    exact ⟨(name, value) :: pairs, .cons (becomes_of_toValue converted) give, rfl⟩
termination_by structural fields

end

/-- A datum is converted to a value exactly when it becomes that value. -/
theorem toValue_eq_ok_iff {datum : Datum} {value : Value} :
    datum.toValue = .ok value ↔ Becomes datum value :=
  ⟨becomes_of_toValue, toValue_of_becomes⟩

/-- A text and an integer of that text are one key, and a key without a value gives nothing. -/
example : (Datum.map [.key (.signed 1), .value (.text "a"), .key (.text "x"), .key (.text "1"),
    .value (.text "b")]).toValue = .ok (.map [("1", .string "b")]) := by
  rfl

end Datum

end TemplateMachine
