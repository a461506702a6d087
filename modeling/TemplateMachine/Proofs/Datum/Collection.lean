import Mathlib.Data.List.Nodup
import Mathlib.Data.String.Basic
import TemplateMachine.Proofs.Entries

/-!
# Maps made from pairs

A map that is made by storing pairs in order holds for each key what the last pair with that key
has, and holds its keys in ascending order. There is one map like that.
-/

namespace TemplateMachine

namespace Entries

variable {α : Type}

/-- The last item that pairs have for a key. -/
def last? (key : String) (pairs : List (String × α)) : Option α :=
  find? key pairs.reverse

/-- Entries with ascending keys that hold for each key the last item that pairs have for it. -/
structure Collects (pairs : List (String × α)) (entries : Entries α) : Prop where
  ascending : (keys entries).Pairwise (· < ·)
  find?_eq : ∀ key, find? key entries = last? key pairs

/-- Storing a value adds its key at most. -/
theorem mem_keys_insert {key other : String} {value : α} {entries : Entries α}
    (mem : other ∈ keys (insert key value entries)) : other = key ∨ other ∈ keys entries := by
  obtain ⟨entry, here, rfl⟩ := List.mem_map.mp mem
  rcases mem_insert here with rfl | old
  · exact .inl rfl
  · exact .inr (List.mem_map_of_mem old)

/-- Storing a value keeps the keys in ascending order. -/
theorem pairwise_keys_insert {key : String} {value : α} {entries : Entries α}
    (ascending : (keys entries).Pairwise (· < ·)) :
    (keys (insert key value entries)).Pairwise (· < ·) := by
  induction entries with
  | nil => simp [insert, keys]
  | cons entry rest ih =>
    obtain ⟨k, a⟩ := entry
    obtain ⟨least, ordered⟩ := List.pairwise_cons.mp ascending
    unfold insert
    split
    next before =>
      refine List.pairwise_cons.mpr ⟨fun other mem => ?_, ascending⟩
      rcases List.mem_cons.mp mem with rfl | later
      · exact before
      · exact before.trans (least other later)
    next notBefore =>
      split
      next same =>
        subst same
        exact ascending
      next different =>
        refine List.pairwise_cons.mpr ⟨fun other mem => ?_, ih ordered⟩
        rcases mem_keys_insert mem with rfl | later
        · exact lt_of_le_of_ne (not_lt.mp notBefore) (Ne.symm different)
        · exact least other later

/-- The entries after pairs are stored in order. -/
def insertAll (entries : Entries α) (pairs : List (String × α)) : Entries α :=
  pairs.foldl (fun entries pair => insert pair.1 pair.2 entries) entries

@[simp] theorem insertAll_nil (entries : Entries α) : insertAll entries [] = entries := rfl

@[simp] theorem insertAll_cons (entries : Entries α) (pair : String × α)
    (pairs : List (String × α)) :
    insertAll entries (pair :: pairs) = insertAll (insert pair.1 pair.2 entries) pairs := rfl

/-- Entries that collect some pairs collect more pairs behind them once those are stored. -/
theorem collects_insertAll {before pairs : List (String × α)} {entries : Entries α}
    (collects : Collects before entries) :
    Collects (before ++ pairs) (insertAll entries pairs) := by
  induction pairs generalizing before entries with
  | nil => simpa using collects
  | cons pair rest ih =>
    have stored : Collects (before ++ [pair]) (insert pair.1 pair.2 entries) := by
      refine ⟨pairwise_keys_insert collects.ascending, fun key => ?_⟩
      rw [find?_insert, collects.find?_eq, last?, last?, List.reverse_append]
      rfl
    simpa using ih stored

/-- The map made from pairs collects them. -/
theorem collects_ofPairs (pairs : List (String × α)) : Collects pairs (ofPairs pairs) := by
  have empty : Collects ([] : List (String × α)) [] := ⟨.nil, fun _ => rfl⟩
  exact collects_insertAll empty

/-- Maps with ascending keys are the same when they hold the same. -/
theorem eq_of_find?_eq {entries others : Entries α} (ascending : (keys entries).Pairwise (· < ·))
    (ascending' : (keys others).Pairwise (· < ·))
    (same : ∀ key, find? key entries = find? key others) : entries = others := by
  have nodup : (keys entries).Nodup := ascending.nodup
  have nodup' : (keys others).Nodup := ascending'.nodup
  have perm : entries.Perm others := by
    refine (List.perm_ext_iff_of_nodup (List.Nodup.of_map _ nodup)
      (List.Nodup.of_map _ nodup')).mpr ?_
    rintro ⟨key, a⟩
    rw [← find?_eq_some_iff_mem nodup, ← find?_eq_some_iff_mem nodup', same]
  refine perm.eq_of_pairwise ?_ (List.pairwise_map.mp ascending) (List.pairwise_map.mp ascending')
  intro entry other _ _ before after
  exact absurd before after.asymm

/-- One map collects given pairs. -/
theorem collects_iff {pairs : List (String × α)} {entries : Entries α} :
    Collects pairs entries ↔ entries = ofPairs pairs := by
  constructor
  · intro collects
    refine eq_of_find?_eq collects.ascending (collects_ofPairs pairs).ascending fun key => ?_
    rw [collects.find?_eq, (collects_ofPairs pairs).find?_eq]
  · rintro rfl
    exact collects_ofPairs pairs

end Entries

end TemplateMachine
