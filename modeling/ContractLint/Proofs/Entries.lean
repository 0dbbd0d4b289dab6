import Mathlib.Data.List.Induction
import ContractLint.Entries

/-! Ordered maps: what is found under a key, and the map that a list of pairs makes. -/

namespace ContractLint

theorem lookup_map_values {κ α β : Type} [DecidableEq κ] (entries : List (κ × α))
    (change : κ → α → β) (key : κ) :
    (entries.map fun entry => (entry.1, change entry.1 entry.2)).lookup key =
      (entries.lookup key).map (change key) := by
  induction entries with
  | nil => rfl
  | cons entry rest ih =>
      rw [List.map_cons, List.lookup_cons, List.lookup_cons]
      by_cases same : key = entry.1
      · simp [same]
      · rw [beq_eq_false_iff_ne.mpr same]
        exact ih

theorem lookup_setEntry {κ α : Type} [DecidableEq κ] (entries : List (κ × α)) (key : κ) (value : α)
    (other : κ) : (setEntry entries key value).lookup other =
      if other = key then some value else entries.lookup other := by
  rw [setEntry]
  split
  case isTrue there =>
    rw [List.map_congr_left (g := fun entry =>
      (entry.1, if entry.1 = key then value else entry.2)), lookup_map_values entries
      fun name old => if name = key then value else old]
    · by_cases same : other = key
      · have found : (entries.lookup key).isSome := by
          obtain ⟨entry, member, isKey⟩ := List.any_eq_true.mp there
          exact List.lookup_isSome_iff.mpr
            ⟨entry, member, beq_iff_eq.mpr (of_decide_eq_true isKey).symm⟩
        obtain ⟨old, isOld⟩ := Option.isSome_iff_exists.mp found
        simp [same, isOld]
      · simp [same]
    · intro entry _
      by_cases same : entry.1 = key <;> simp [same]
  case isFalse absent =>
    rw [List.lookup_append]
    by_cases same : other = key
    · have missing : entries.lookup key = none := by
        rw [List.lookup_eq_none_iff]
        intro entry member
        rw [bne_iff_ne]
        rintro rfl
        exact absent (List.any_eq_true.mpr ⟨entry, member, decide_eq_true rfl⟩)
      simp [same, missing]
    · simp [same, List.lookup_cons, beq_eq_false_iff_ne.mpr same]

/-- The entries are a map of the pairs: each key has the place of its first pair and the value of its
last. -/
structure IsMapOf {κ α : Type} [DecidableEq κ] (pairs entries : List (κ × α)) : Prop where
  keys : entries.map (·.1) = (pairs.map (·.1)).eraseDups
  values : ∀ key, entries.lookup key = pairs.reverse.lookup key

theorem entriesOf_concat {κ α : Type} [DecidableEq κ] (pairs : List (κ × α)) (pair : κ × α) :
    entriesOf (pairs ++ [pair]) = setEntry (entriesOf pairs) pair.1 pair.2 := by
  rw [entriesOf, List.foldl_append]
  rfl

theorem entriesOf_isMapOf {κ α : Type} [DecidableEq κ] (pairs : List (κ × α)) :
    IsMapOf pairs (entriesOf pairs) := by
  induction pairs using List.reverseRecOn with
  | nil => exact ⟨rfl, fun _ => rfl⟩
  | append_singleton pairs pair ih =>
      rw [entriesOf_concat]
      constructor
      · rw [keys_setEntry, ih.keys, List.map_append, List.eraseDups_append, List.map_singleton]
        by_cases there : pair.1 ∈ pairs.map (·.1)
        · rw [if_pos (List.mem_eraseDups.mpr there)]
          simp [there, List.removeAll]
        · rw [if_neg (there <| List.mem_eraseDups.mp ·)]
          simp [there, List.removeAll, List.eraseDups_cons]
      · intro key
        rw [lookup_setEntry, ih.values, List.reverse_concat, List.lookup_cons]
        by_cases same : key = pair.1
        · simp [same]
        · rw [if_neg same, beq_eq_false_iff_ne.mpr same]

end ContractLint
