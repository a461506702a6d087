import TemplateMachine.Entries

/-!
# What entries hold

Where the entries of a map come from: what is found was stored, and storing adds one entry at most.
A property of all stored values therefore survives storing a value that has it. A row of names and
items is read as entries too, and a map that is made from pairs with different keys holds just them.
-/

namespace TemplateMachine

namespace Entries

/-- What is stored under a key comes from one of the entries. -/
theorem mem_of_find?_eq_some {α : Type} {key : String} {a : α} {entries : Entries α}
    (found : find? key entries = some a) : (key, a) ∈ entries := by
  induction entries with
  | nil => simp [find?] at found
  | cons entry rest ih =>
    obtain ⟨k, b⟩ := entry
    by_cases same : k = key
    · simp_all [find?]
    · simp only [find?, same, if_false] at found
      exact List.mem_cons_of_mem _ (ih found)

/-- Nothing is stored under a key exactly if no entry has it. -/
theorem find?_eq_none_iff {α : Type} {key : String} {entries : Entries α} :
    find? key entries = none ↔ key ∉ keys entries := by
  induction entries with
  | nil => simp [find?, keys]
  | cons entry rest ih =>
    obtain ⟨k, b⟩ := entry
    by_cases same : k = key
    · simp [find?, keys, same]
    · have hother : key ≠ k := Ne.symm same
      simpa [find?, keys, same, hother] using ih

/-- An entry after storing a value is the stored one or was there before. -/
theorem mem_insert {α : Type} {key : String} {value : α} {entries : Entries α}
    {entry : String × α} (mem : entry ∈ insert key value entries) :
    entry = (key, value) ∨ entry ∈ entries := by
  induction entries with
  | nil => simpa [insert] using mem
  | cons head rest ih =>
    obtain ⟨k, b⟩ := head
    unfold insert at mem
    split at mem
    · simpa using mem
    split at mem
    · rcases List.mem_cons.mp mem with here | there
      · exact .inl here
      · exact .inr (List.mem_cons_of_mem _ there)
    · rcases List.mem_cons.mp mem with here | there
      · exact .inr (here ▸ List.mem_cons_self)
      · exact (ih there).imp_right (List.mem_cons_of_mem _)

/-- A property of all stored values survives storing a value that has it. -/
theorem forall_mem_insert {α : Type} {P : α → Prop} {key : String} {value : α}
    {entries : Entries α} (here : P value) (there : ∀ entry ∈ entries, P entry.2) :
    ∀ entry ∈ insert key value entries, P entry.2 := by
  intro entry mem
  rcases mem_insert mem with rfl | old
  · exact here
  · exact there entry old

/-- In a row of names and items, a name leads to the item at its position. -/
theorem find?_zip {α : Type} {names : List String} (nodup : names.Nodup) (items : List α)
    {position : Nat} {name : String} (named : names[position]? = some name) :
    find? name (names.zip items) = items[position]? := by
  induction names generalizing items position with
  | nil => simp at named
  | cons first rest ih =>
    obtain ⟨hfresh, hrest⟩ := List.nodup_cons.mp nodup
    cases items with
    | nil => simp [find?]
    | cons item more =>
      cases position with
      | zero =>
        obtain rfl : first = name := by simpa using named
        simp [find?]
      | succ position =>
        have hnamed : rest[position]? = some name := by simpa using named
        have hother : first ≠ name := fun same => hfresh (same ▸ List.mem_of_getElem? hnamed)
        simpa [find?, hother] using ih hrest more hnamed

/-- The names in a row of names and items, which are as many as there are items. -/
theorem map_fst_zip {α β : Type} (names : List α) (items : List β) :
    (names.zip items).map Prod.fst = names.take items.length := by
  induction names generalizing items with
  | nil => simp
  | cons name rest ih => cases items <;> simp [ih]

/-- The items in a row of names and items, which are as many as there are names. -/
theorem map_snd_zip {α β : Type} (names : List α) (items : List β) :
    (names.zip items).map Prod.snd = items.take names.length := by
  induction names generalizing items with
  | nil => simp
  | cons name rest ih => cases items <;> simp [ih]

/-- A value is found under a key exactly if that is one of the entries, where no key occurs twice. -/
theorem find?_eq_some_iff_mem {α : Type} {entries : Entries α} (nodup : (keys entries).Nodup)
    {key : String} {a : α} : find? key entries = some a ↔ (key, a) ∈ entries := by
  refine ⟨mem_of_find?_eq_some, fun mem => ?_⟩
  induction entries with
  | nil => simp at mem
  | cons entry rest ih =>
    obtain ⟨k, b⟩ := entry
    obtain ⟨hfresh, hrest⟩ := List.nodup_cons.mp nodup
    rcases List.mem_cons.mp mem with here | there
    · obtain ⟨rfl, rfl⟩ := Prod.mk.inj here
      simp [find?]
    · have hother : k ≠ key := by
        rintro rfl
        exact hfresh (List.mem_map.mpr ⟨_, there, rfl⟩)
      simpa [find?, hother] using ih hrest there

/-- Storing a value under a key that is not there adds one entry. -/
theorem perm_insert {α : Type} {key : String} {entries : Entries α} (fresh : key ∉ keys entries)
    (value : α) : (insert key value entries).Perm ((key, value) :: entries) := by
  induction entries with
  | nil => exact .refl _
  | cons entry rest ih =>
    obtain ⟨k, b⟩ := entry
    obtain ⟨hother, hrest⟩ : key ≠ k ∧ key ∉ keys rest := by simpa [keys] using fresh
    unfold insert
    split
    · exact .refl _
    · exact ((ih hrest).cons (k, b)).trans (.swap _ _ _)

/-- The map made from pairs with different keys has these pairs for its entries. -/
theorem perm_ofPairs {α : Type} {pairs : List (String × α)}
    (nodup : (pairs.map Prod.fst).Nodup) : (ofPairs pairs).Perm pairs := by
  have hstored (entries : Entries α) (fresh : ((pairs ++ entries).map Prod.fst).Nodup) :
      (pairs.foldl (fun entries pair => insert pair.1 pair.2 entries) entries).Perm
        (pairs ++ entries) := by
    clear nodup
    induction pairs generalizing entries with
    | nil => exact .refl _
    | cons pair rest ih =>
      have hkey : pair.1 ∉ keys entries := by
        rw [List.cons_append, List.map_cons, List.nodup_cons, List.map_append, List.mem_append,
          not_or] at fresh
        exact fresh.1.2
      have hinserted := perm_insert hkey pair.2
      have hmoved : (rest ++ insert pair.1 pair.2 entries).Perm (pair :: rest ++ entries) :=
        (hinserted.append_left rest).trans List.perm_middle
      exact (ih _ ((hmoved.map Prod.fst).nodup_iff.mpr fresh)).trans hmoved
  simpa [ofPairs] using hstored [] (by simpa using nodup)

/-- The map made from pairs with different keys has each key once. -/
theorem nodup_keys_ofPairs {α : Type} {pairs : List (String × α)}
    (nodup : (pairs.map Prod.fst).Nodup) : (keys (ofPairs pairs)).Nodup :=
  ((perm_ofPairs nodup).map Prod.fst).nodup_iff.mpr nodup

/-- What the map made from pairs with different keys has under a key is what the pairs have. -/
theorem find?_ofPairs {α : Type} {pairs : List (String × α)} (nodup : (pairs.map Prod.fst).Nodup)
    (key : String) : find? key (ofPairs pairs) = find? key pairs := by
  ext a
  rw [find?_eq_some_iff_mem (nodup_keys_ofPairs nodup), find?_eq_some_iff_mem nodup,
    (perm_ofPairs nodup).mem_iff]

end Entries

end TemplateMachine
