import Mathlib.Data.List.Nodup
import ContractLint.Proofs.Files.Places

/-! Trees in which no place has two entries. What stands there is then what is listed, each thing
once. -/

namespace ContractLint

theorem mem_iff_lookup_of_nodup {κ α : Type} [BEq κ] [LawfulBEq κ] {entries : List (κ × α)}
    (distinct : (entries.map (·.1)).Nodup) {key : κ} {value : α} :
    (key, value) ∈ entries ↔ entries.lookup key = some value := by
  induction entries with
  | nil => simp
  | cons first rest ih =>
      obtain ⟨other, found⟩ := first
      rw [List.map_cons, List.nodup_cons] at distinct
      rw [List.mem_cons, List.lookup_cons, ih distinct.2]
      by_cases same : key = other
      · subst same
        have absent : rest.lookup key = none := by
          rw [List.lookup_eq_none_iff]
          intro entry member
          rw [bne_iff_ne]
          rintro rfl
          exact distinct.1 (List.mem_map.mpr ⟨entry, member, rfl⟩)
        simp [absent, eq_comm]
      · simp [same, beq_eq_false_iff_ne.mpr same]

end ContractLint

namespace ContractLint.Files.Tree

def Distinct (tree : Tree) : Prop := (tree.entries.map (·.1)).Nodup

instance (tree : Tree) : Decidable tree.Distinct :=
  inferInstanceAs (Decidable (List.Nodup (tree.entries.map (·.1))))

variable {tree : Tree} {place : Place}

theorem Distinct.mem_entries_iff (distinct : tree.Distinct) (inner : place ≠ []) {entry : Entry} :
    (place, entry) ∈ tree.entries ↔ tree.at? place = some entry := by
  rw [at?_of_ne inner, mem_iff_lookup_of_nodup distinct]

theorem Distinct.mem_directoriesIn_iff (distinct : tree.Distinct) {name : String} :
    name ∈ tree.directoriesIn place ↔ tree.at? (place ++ [name]) = some .directory := by
  rw [← distinct.mem_entries_iff (by simp), ← mem_children_iff_mem_entries, directoriesIn,
    List.mem_filterMap]
  constructor
  · rintro ⟨⟨other, _ | content⟩, member, chosen⟩
    · cases chosen
      exact member
    · cases chosen
  · exact fun member => ⟨_, member, rfl⟩

theorem Distinct.children_nodup (distinct : tree.Distinct) (place : Place) :
    ((tree.children place).map (·.1)).Nodup := by
  have names : (tree.children place).map (·.1) = (tree.entries.map (·.1)).filterMap fun other =>
      if other.dropLast = place then other.getLast? else none := by
    rw [children, List.map_filterMap, List.filterMap_map]
    refine congrArg (List.filterMap · _) (funext fun found => ?_)
    obtain ⟨other, entry⟩ := found
    cases isLast : other.getLast? with
    | none => simp [isLast]
    | some name => by_cases within : other.dropLast = place <;> simp [isLast, within]
  rw [names]
  refine List.Nodup.filterMap (fun first second name isFirst isSecond => ?_) distinct
  simp only [Option.mem_def, Option.ite_none_right_eq_some] at isFirst isSecond
  obtain ⟨before, rfl⟩ := List.getLast?_eq_some_iff.mp isFirst.2
  obtain ⟨other, rfl⟩ := List.getLast?_eq_some_iff.mp isSecond.2
  rw [List.dropLast_concat] at isFirst isSecond
  rw [isFirst.1, isSecond.1]

end ContractLint.Files.Tree
