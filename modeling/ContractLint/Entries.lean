/-! Ordered maps as lists of pairs. -/

namespace ContractLint

/-- Gives a key a value: a new key comes last, an old one keeps its place. -/
def setEntry {κ α : Type} [DecidableEq κ] (entries : List (κ × α)) (key : κ) (value : α) :
    List (κ × α) :=
  if entries.any (·.1 = key) then
    entries.map fun (name, old) => if name = key then (name, value) else (name, old)
  else entries ++ [(key, value)]

/-- The map of a list of pairs: each key in the place of its first pair, with the value of its
last. -/
def entriesOf {κ α : Type} [DecidableEq κ] (pairs : List (κ × α)) : List (κ × α) :=
  pairs.foldl (fun entries (key, value) => setEntry entries key value) []

theorem keys_setEntry {κ α : Type} [DecidableEq κ] (entries : List (κ × α)) (key : κ) (value : α) :
    (setEntry entries key value).map (·.1) =
      if key ∈ entries.map (·.1) then entries.map (·.1) else entries.map (·.1) ++ [key] := by
  have there : entries.any (·.1 = key) = true ↔ key ∈ entries.map (·.1) := by simp
  rw [setEntry]
  split
  case isTrue found =>
    rw [if_pos (there.mp found), List.map_map]
    refine List.map_congr_left fun entry _ => ?_
    by_cases same : entry.1 = key <;> simp [same]
  case isFalse absent =>
    rw [if_neg (absent <| there.mpr ·), List.map_append]
    rfl

theorem mem_keys_setEntry {κ α : Type} [DecidableEq κ] {entries : List (κ × α)} {key other : κ}
    {value : α} : other ∈ (setEntry entries key value).map (·.1) ↔
      other ∈ entries.map (·.1) ∨ other = key := by
  rw [keys_setEntry]
  split
  case isTrue there => exact ⟨.inl, (·.elim id (· ▸ there))⟩
  case isFalse => rw [List.mem_append, List.mem_singleton]

theorem mem_keys_entriesOf {κ α : Type} [DecidableEq κ] {pairs : List (κ × α)} {key : κ} :
    key ∈ (entriesOf pairs).map (·.1) ↔ key ∈ pairs.map (·.1) := by
  have folded : ∀ entries : List (κ × α), key ∈ (pairs.foldl (fun entries (pair : κ × α) =>
      setEntry entries pair.1 pair.2) entries).map (·.1) ↔
        key ∈ entries.map (·.1) ∨ key ∈ pairs.map (·.1) := by
    induction pairs with
    | nil => simp
    | cons pair rest ih =>
        intro entries
        rw [List.foldl_cons, ih, mem_keys_setEntry, List.map_cons, List.mem_cons, or_assoc]
  exact (folded []).trans (by simp)

end ContractLint
