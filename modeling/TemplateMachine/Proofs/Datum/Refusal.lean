import TemplateMachine.Proofs.Datum.Meaning

/-!
# What structured data is refused for

The announcements of structured data in their order, with the ones that are no value: an unsigned
number that is too large, a number of an unsupported width, a key that becomes neither a text nor an
integer, and a value for which no key is waiting. Data with an announcement like that are refused
with the error of the first one, and all other data become a value.
-/

namespace TemplateMachine

namespace Datum

/-- The key that waits for a value after announcements of a map: the last of them, if that is a
key. -/
def pendingKey? (earlier : List MapCall) : Option Datum :=
  match earlier.getLast? with
  | some (.key content) => some content
  | _ => none

/-- An announcement. A value of a map comes with what has been announced of that map before. -/
inductive Announcement where
  | unsigned (n : UInt64)
  | wide (typeName : String)
  | key (content : Datum)
  | value (earlier : List MapCall)
  | other

mutual

/-- The announcements of a datum in their order. -/
def announcements : Datum → List Announcement
  | .unsigned n => [.unsigned n]
  | .wide typeName => [.wide typeName]
  | .present content => .other :: content.announcements
  | .wrapped content => .other :: content.announcements
  | .wrappedCase _ content => .other :: content.announcements
  | .sequence items => .other :: itemAnnouncements items
  | .sequenceCase _ items => .other :: itemAnnouncements items
  | .map calls => .other :: callAnnouncements [] calls
  | .record fields => .other :: fieldAnnouncements fields
  | .recordCase _ fields => .other :: fieldAnnouncements fields
  | _ => [.other]

/-- The announcements of the items of a sequence. -/
def itemAnnouncements : List Datum → List Announcement
  | [] => []
  | item :: items => item.announcements ++ itemAnnouncements items

/-- The announcements of a map, after others of that map. A key or value comes before its
content. -/
def callAnnouncements (earlier : List MapCall) : List MapCall → List Announcement
  | [] => []
  | .key content :: calls =>
    .key content :: content.announcements ++ callAnnouncements (earlier ++ [.key content]) calls
  | .value content :: calls =>
    .value earlier :: content.announcements ++ callAnnouncements (earlier ++ [.value content]) calls

/-- The announcements of the fields of a record. -/
def fieldAnnouncements : List (String × Datum) → List Announcement
  | [] => []
  | (_, content) :: fields => content.announcements ++ fieldAnnouncements fields

end

/-- What an announcement is refused for. -/
inductive Announcement.Refused : Announcement → DatumError → Prop where
  | unsigned {n : UInt64} : Int64.maxValue.toInt < n.toNat → Refused (.unsigned n) .integerTooLarge
  | wide (typeName : String) : Refused (.wide typeName) (.unsupportedType typeName)
  | key {content : Datum} {value : Value} : Becomes content value →
      (∀ text, value ≠ .string text) → (∀ n, value ≠ .integer n) →
      Refused (.key content) .keyNotText
  | value {earlier : List MapCall} : pendingKey? earlier = none →
      Refused (.value earlier) .valueBeforeKey

/-- The first announcement that is refused is refused for this. -/
def FirstRefusal (announcements : List Announcement) (error : DatumError) : Prop :=
  ∃ before announcement after, announcements = before ++ announcement :: after ∧
    (∀ earlier ∈ before, ∀ other, ¬ earlier.Refused other) ∧ announcement.Refused error

/-! ### Refusals in a row -/

section

variable {announcement : Announcement} {announcements rest : List Announcement}
  {error : DatumError}

theorem not_firstRefusal_nil : ¬ FirstRefusal [] error := by
  rintro ⟨before, announcement, after, cut, -⟩
  simp at cut

theorem firstRefusal_cons : FirstRefusal (announcement :: rest) error ↔
    announcement.Refused error ∨
      (∀ other, ¬ announcement.Refused other) ∧ FirstRefusal rest error := by
  constructor
  · rintro ⟨_ | ⟨first, before⟩, refused, after, cut, accepted, h⟩
    · obtain ⟨rfl, -⟩ := List.cons.inj cut
      exact .inl h
    · obtain ⟨rfl, behind⟩ := List.cons.inj cut
      obtain ⟨here, there⟩ := List.forall_mem_cons.mp accepted
      exact .inr ⟨here, before, refused, after, behind, there, h⟩
  · rintro (h | ⟨here, before, refused, after, rfl, there, h⟩)
    · exact ⟨[], announcement, rest, rfl, by simp, h⟩
    · exact ⟨announcement :: before, refused, after, rfl, List.forall_mem_cons.mpr ⟨here, there⟩, h⟩

theorem firstRefusal_append : FirstRefusal (announcements ++ rest) error ↔
    FirstRefusal announcements error ∨
      (∀ other, ¬ FirstRefusal announcements other) ∧ FirstRefusal rest error := by
  induction announcements with
  | nil => simp [not_firstRefusal_nil]
  | cons announcement announcements ih =>
    simp only [List.cons_append, firstRefusal_cons, ih, not_or, not_and, forall_and]
    tauto

/-- Some announcement is the first to be refused where one is refused. -/
theorem exists_firstRefusal_iff : (∃ error, FirstRefusal announcements error) ↔
    ∃ announcement ∈ announcements, ∃ error, announcement.Refused error := by
  induction announcements with
  | nil => simp [not_firstRefusal_nil]
  | cons announcement announcements ih =>
    simp only [firstRefusal_cons, List.mem_cons, or_and_right, exists_or, exists_eq_left, ← ih,
      exists_and_left, ← not_exists]
    tauto

end

/-! ### What the conversion refuses -/

section

variable {α β : Type} {announcements rest : List Announcement} {error : DatumError}

theorem firstRefusal_singleton {announcement : Announcement} :
    FirstRefusal [announcement] error ↔ announcement.Refused error := by
  simp [firstRefusal_cons, not_firstRefusal_nil]

/-- Sequences, cases and records as such are never refused, only what is in them. -/
theorem firstRefusal_other_cons :
    FirstRefusal (.other :: rest) error ↔ FirstRefusal rest error := by
  have accepted (other : DatumError) : ¬ Announcement.other.Refused other := nofun
  simp [firstRefusal_cons, accepted]

/-- A sequence of computations fails with what announcements in a row are refused for if each part
does with its own. -/
theorem bind_eq_error_iff_firstRefusal {x : Except DatumError α} {f : α → Except DatumError β}
    (first : ∀ error, x = .error error ↔ FirstRefusal announcements error)
    (next : ∀ a error, f a = .error error ↔ FirstRefusal rest error) :
    (x >>= f) = .error error ↔ FirstRefusal (announcements ++ rest) error := by
  rw [firstRefusal_append, bind_eq_error_iff]
  simp only [← first]
  cases x with
  | error e => simp
  | ok a => simp [next]

theorem refused_unsigned_iff {n : UInt64} :
    (Announcement.unsigned n).Refused error ↔
      ¬ n < 0x8000000000000000 ∧ .integerTooLarge = error := by
  have bound : n < 0x8000000000000000 ↔ n.toNat < 2 ^ 63 := UInt64.lt_iff_toNat_lt
  have greatest : Int64.maxValue.toInt = 2 ^ 63 - 1 := by decide
  rw [bound]
  constructor
  · rintro ⟨⟩
    next above => exact ⟨by omega, rfl⟩
  · rintro ⟨above, rfl⟩
    exact .unsigned (by omega)

theorem refused_wide_iff {typeName : String} :
    (Announcement.wide typeName).Refused error ↔ .unsupportedType typeName = error := by
  constructor
  · rintro ⟨⟩
    rfl
  · rintro rfl
    exact .wide typeName

theorem keyText_eq_error_iff {value : Value} :
    keyText value = .error error ↔
      (∀ text, value ≠ .string text) ∧ (∀ n, value ≠ .integer n) ∧ .keyNotText = error := by
  cases value <;> simp [keyText]

/-- A key is refused as such when its content has a value that is no key. -/
theorem refused_key_iff {content : Datum} :
    (Announcement.key content).Refused error ↔
      ∃ value, content.toValue = .ok value ∧ keyText value = .error error := by
  constructor
  · rintro ⟨⟩
    next noText noInteger becomes =>
      exact ⟨_, toValue_eq_ok_iff.mpr becomes, keyText_eq_error_iff.mpr ⟨noText, noInteger, rfl⟩⟩
  · rintro ⟨value, converted, unfit⟩
    obtain ⟨noText, noInteger, rfl⟩ := keyText_eq_error_iff.mp unfit
    exact .key (toValue_eq_ok_iff.mp converted) noText noInteger

/-- A key and its content together are refused when the content is, and else when its value is no
key. -/
theorem key_eq_error_iff {content : Datum}
    (refused : ∀ error, content.toValue = .error error ↔
      FirstRefusal content.announcements error) (error : DatumError) :
    (content.toValue >>= keyText) = .error error ↔
      FirstRefusal (.key content :: content.announcements) error := by
  rw [firstRefusal_cons, bind_eq_error_iff]
  simp only [refused_key_iff, ← refused]
  cases content.toValue <;> simp

theorem refused_value_iff {earlier : List MapCall} :
    (Announcement.value earlier).Refused error ↔
      pendingKey? earlier = none ∧ .valueBeforeKey = error := by
  constructor
  · rintro ⟨⟩
    next waiting => exact ⟨waiting, rfl⟩
  · rintro ⟨waiting, rfl⟩
    exact .value waiting

theorem pendingKey?_concat_key (earlier : List MapCall) (content : Datum) :
    pendingKey? (earlier ++ [.key content]) = some content := by
  simp [pendingKey?]

theorem pendingKey?_concat_value (earlier : List MapCall) (content : Datum) :
    pendingKey? (earlier ++ [.value content]) = none := by
  simp [pendingKey?]

end

mutual

/-- The conversion fails with what the first announcement to be refused is refused for. -/
theorem toValue_eq_error_iff (datum : Datum) (error : DatumError) :
    datum.toValue = .error error ↔ FirstRefusal datum.announcements error := by
  match datum with
  | .bool _ | .signed _ | .float _ | .single _ | .char _ | .text _ | .bytes _ | .absent | .unit
  | .unitCase _ =>
    simp [toValue, announcements, firstRefusal_other_cons, not_firstRefusal_nil]
  | .unsigned n =>
    rw [toValue, announcements, firstRefusal_singleton, refused_unsigned_iff]
    split <;> simp_all
  | .wide typeName =>
    rw [toValue, announcements, firstRefusal_singleton, refused_wide_iff, throw_eq_error_iff]
  | .present content | .wrapped content =>
    rw [toValue, announcements, firstRefusal_other_cons]
    exact toValue_eq_error_iff content error
  | .wrappedCase name content =>
    rw [toValue, announcements, firstRefusal_other_cons, bind_pure_eq_error_iff]
    exact toValue_eq_error_iff content error
  | .sequence items | .sequenceCase name items =>
    rw [toValue, announcements, firstRefusal_other_cons, bind_pure_eq_error_iff]
    exact toValues_eq_error_iff items error
  | .map calls =>
    rw [toValue, announcements, firstRefusal_other_cons, bind_pure_eq_error_iff]
    exact followCalls_eq_error_iff rfl [] calls error
  | .record fields | .recordCase name fields =>
    rw [toValue, announcements, firstRefusal_other_cons, bind_pure_eq_error_iff]
    exact fillFields_eq_error_iff [] fields error
termination_by structural datum

theorem toValues_eq_error_iff (items : List Datum) (error : DatumError) :
    toValues items = .error error ↔ FirstRefusal (itemAnnouncements items) error := by
  match items with
  | [] => simp [toValues, itemAnnouncements, not_firstRefusal_nil]
  | item :: items =>
    rw [toValues, itemAnnouncements]
    refine bind_eq_error_iff_firstRefusal (toValue_eq_error_iff item) fun value error => ?_
    rw [bind_pure_eq_error_iff]
    exact toValues_eq_error_iff items error
termination_by structural items

/-- The key that waits is the one announced last. -/
theorem followCalls_eq_error_iff {pending : Option String} {earlier : List MapCall}
    (waits : pending.isSome = (pendingKey? earlier).isSome) (entries : Entries Value)
    (calls : List MapCall) (error : DatumError) :
    followCalls pending entries calls = .error error ↔
      FirstRefusal (callAnnouncements earlier calls) error := by
  match calls with
  | [] => simp [followCalls, callAnnouncements, not_firstRefusal_nil]
  | .key content :: calls =>
    rw [followCalls, callAnnouncements, ← bind_assoc]
    refine bind_eq_error_iff_firstRefusal
      (key_eq_error_iff (toValue_eq_error_iff content)) fun key error => ?_
    exact followCalls_eq_error_iff (by simp [pendingKey?_concat_key]) entries calls error
  | .value content :: calls =>
    rw [callAnnouncements, List.cons_append, firstRefusal_cons]
    simp only [refused_value_iff]
    match pending with
    | none =>
      have noKey : pendingKey? earlier = none := by simpa using waits
      simp [followCalls, noKey]
    | some key =>
      have aKey : pendingKey? earlier ≠ none := by
        intro noKey
        simp [noKey] at waits
      simp only [followCalls, aKey, false_and, not_false_eq_true, implies_true, true_and, false_or]
      refine bind_eq_error_iff_firstRefusal (toValue_eq_error_iff content) fun value error => ?_
      exact followCalls_eq_error_iff (by simp [pendingKey?_concat_value]) _ calls error
termination_by structural calls

theorem fillFields_eq_error_iff (entries : Entries Value) (fields : List (String × Datum))
    (error : DatumError) : fillFields entries fields = .error error ↔
      FirstRefusal (fieldAnnouncements fields) error := by
  match fields with
  | [] => simp [fillFields, fieldAnnouncements, not_firstRefusal_nil]
  | (name, content) :: fields =>
    rw [fillFields, fieldAnnouncements]
    refine bind_eq_error_iff_firstRefusal (toValue_eq_error_iff content) fun value error => ?_
    exact fillFields_eq_error_iff _ fields error
termination_by structural fields

end

/-- Structured data is refused when one of its announcements is, and then for what the first of
these is refused for; else it becomes a value by the rules, and the conversion gives that value. -/
theorem toValue_follows_announcements (datum : Datum) :
    ((∃ error, datum.toValue = .error error) ↔
        ∃ announcement ∈ datum.announcements, ∃ error, announcement.Refused error) ∧
      (∀ error, datum.toValue = .error error ↔ FirstRefusal datum.announcements error) ∧
      ∀ value, datum.toValue = .ok value ↔ datum.Becomes value := by
  refine ⟨?_, toValue_eq_error_iff datum, fun value => toValue_eq_ok_iff⟩
  simp only [toValue_eq_error_iff, exists_firstRefusal_iff]

end Datum

end TemplateMachine
