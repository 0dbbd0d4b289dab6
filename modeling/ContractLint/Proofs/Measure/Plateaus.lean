import Mathlib.Data.List.DropRight
import ContractLint.Measure.Round
import ContractLint.Proofs.Json.Access
import ContractLint.Proofs.Text.Patterns

/-! When rounds of measurements end because the count of low shares no longer falls. After all
rounds the plateau has the least count and knows how many rounds came after the first that reached
it, so a stop is told exactly if none of the last rounds went below all those before them. -/

namespace ContractLint.Measure

open Json (Value)

section Loop

variable {plateau : Plateau} {counts earlier recent : List Count}

/-- The best count is the least of all, and so many rounds came after the first that had it. -/
def Plateau.Reached (plateau : Plateau) (counts : List Count) : Prop :=
  ∃ before after, counts = before ++ plateau.best :: after ∧ after.length = plateau.since ∧
    (∀ count ∈ before, plateau.best.value < count.value) ∧
    ∀ count ∈ after, plateau.best.value ≤ count.value

theorem Plateau.Reached.best_le (reached : plateau.Reached counts) :
    ∀ count ∈ counts, plateau.best.value ≤ count.value := by
  obtain ⟨before, after, rfl, _, above, least⟩ := reached
  intro count member
  rw [List.mem_append, List.mem_cons] at member
  rcases member with isBefore | rfl | isAfter
  · exact Int.le_of_lt (above count isBefore)
  · exact Int.le_refl _
  · exact least count isAfter

theorem Plateau.Reached.next (reached : plateau.Reached counts) (count : Count) :
    (plateau.next count).Reached (counts ++ [count]) := by
  rw [Plateau.next]
  split
  next improves =>
    refine ⟨counts, [], rfl, rfl, fun other member => ?_, by simp⟩
    exact Int.lt_of_lt_of_le improves (reached.best_le other member)
  next stays =>
    obtain ⟨before, after, rfl, isSince, above, least⟩ := reached
    refine ⟨before, after ++ [count], by simp, by simp [isSince], above, ?_⟩
    rw [List.forall_mem_append, List.forall_mem_singleton]
    exact ⟨least, Int.not_lt.mp stays⟩

theorem Plateau.Reached.foldl (reached : plateau.Reached counts) (rest : List Count) :
    (rest.foldl Plateau.next plateau).Reached (counts ++ rest) := by
  induction rest generalizing plateau counts with
  | nil => simpa using reached
  | cons count rest ih => simpa using ih (reached.next count)

theorem Plateau.Reached.split (reached : plateau.Reached (earlier ++ recent)) :
    (plateau.best ∈ earlier ∧ recent.length ≤ plateau.since) ∨
      (plateau.best ∈ recent ∧ plateau.since < recent.length ∧
        ∀ count ∈ earlier, plateau.best.value < count.value) := by
  obtain ⟨before, after, parts, isSince, above, _⟩ := reached
  rcases List.append_eq_append_iff.mp parts with
    ⟨between, rfl, rfl⟩ | ⟨_ | ⟨first, between⟩, rfl, isRest⟩
  · rw [List.forall_mem_append] at above
    refine .inr ⟨by simp, ?_, above.1⟩
    simp only [List.length_append, List.length_cons]
    omega
  · rw [List.nil_append] at isRest
    refine .inr ⟨by simp [← isRest], ?_, by simpa using above⟩
    rw [← isRest, List.length_cons]
    omega
  · obtain ⟨rfl, rfl⟩ := List.cons.inj isRest
    refine .inl ⟨by simp, ?_⟩
    rw [← isSince, List.append_eq, List.length_append]
    omega

end Loop

/-! What is printed of a plateau tells which one it is. -/

section Output

variable {before : String} {plateau told : Plateau}

def printed (lines : List String) : String := String.join (lines.map (· ++ "\n"))

def stopText (reason : String) : String :=
  "\n>>> STOP: repo_time converged (" ++ reason ++ "). Finalize microbench.py now. <<<\n"

/-- The output ends with a stop that tells for how many rounds the best count has stood. -/
def Tells (output : String) (plateau : Plateau) : Prop :=
  ∃ before, output = before ++ stopText ("no improvement in " ++ toString plateau.since ++
    " rounds; best " ++ plateau.best.text ++ " below")

end Output

section Run

variable {setting : Setting} {kept : Kept} {output : String} {value : Value} {shares : Shares}

theorem run_bind {α β : Type} {first : Task α} {result : α} {log after : Log}
    (ran : first.run log = (result, after)) (next : α → Task β) :
    (first >>= next).run log = (next result).run after := by
  rw [StateT.run_bind, ran]
  rfl

def recorded (count : String) : String := "\x7b\"n_below_repo_time\": " ++ count ++ "\x7d\n"

end Run

end ContractLint.Measure
