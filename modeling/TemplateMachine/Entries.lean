/-!
# Key-sorted entries

A finite map with text keys is the list of its entries in strictly ascending key order, so that
iteration follows the order of keys and no key occurs twice. Keys are compared by code point.
-/

namespace TemplateMachine

universe u v

/-- The entries of a finite map with text keys, in ascending key order. -/
abbrev Entries (α : Type u) := List (String × α)

namespace Entries

variable {α : Type u} {β : Type v}

/-- The value stored under a key. -/
def find? (key : String) : Entries α → Option α
  | [] => none
  | (k, a) :: rest => if k = key then some a else find? key rest

/-- Whether a key is present. -/
def hasKey (key : String) (entries : Entries α) : Bool :=
  (find? key entries).isSome

/-- The entries with a value stored under a key, in place of the value that was there. -/
def insert (key : String) (value : α) : Entries α → Entries α
  | [] => [(key, value)]
  | (k, a) :: rest =>
    if key < k then (key, value) :: (k, a) :: rest
    else if key = k then (key, value) :: rest
    else (k, a) :: insert key value rest

/-- The entries with a value stored under a key unless the key is present. -/
def insertIfAbsent (key : String) (value : α) (entries : Entries α) : Entries α :=
  if hasKey key entries then entries else insert key value entries

/-- The map made from pairs in order, a later pair taking the place of an earlier one. -/
def ofPairs (pairs : List (String × α)) : Entries α :=
  pairs.foldl (fun entries pair => insert pair.1 pair.2 entries) []

/-- The keys in ascending order. -/
def keys (entries : Entries α) : List String :=
  entries.map Prod.fst

/-- The values in the order of their keys. -/
def values (entries : Entries α) : List α :=
  entries.map Prod.snd

/-- Storing a value under a key changes what is found there and nowhere else. -/
theorem find?_insert (key other : String) (value : α) (entries : Entries α) :
    find? other (insert key value entries) =
      if key = other then some value else find? other entries := by
  induction entries with
  | nil => rfl
  | cons entry rest ih =>
    obtain ⟨k, a⟩ := entry
    by_cases before : key < k
    · simp [insert, find?, before]
    · by_cases same : key = k
      · subst same
        by_cases found : key = other <;> simp [insert, find?, found]
      · by_cases found : k = other
        · subst found
          simp [insert, find?, before, same]
        · simp [insert, find?, before, same, found, ih]

/-- A value stored under a key is found there. -/
@[simp] theorem find?_insert_self (key : String) (value : α) (entries : Entries α) :
    find? key (insert key value entries) = some value := by
  simp [find?_insert]

/-- A key that is present keeps its value when another is offered for it. -/
theorem find?_insertIfAbsent (key other : String) (value : α) (entries : Entries α) :
    find? other (insertIfAbsent key value entries) =
      (find? other entries).or (if key = other then some value else none) := by
  unfold insertIfAbsent hasKey
  by_cases found : key = other
  · subst found
    cases stored : find? key entries <;> simp [stored]
  · cases stored : find? key entries <;> cases elsewhere : find? other entries <;>
      simp [find?_insert, elsewhere, found]

end Entries

end TemplateMachine
