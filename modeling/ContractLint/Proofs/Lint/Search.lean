import Mathlib.Data.List.Dedup
import Mathlib.Data.List.Flatten
import Mathlib.Logic.Relation
import ContractLint.Proofs.Lint.Reachability

/-! The search as a loop that goes in rounds: how many rounds it can take, that it answers whether
there is a path, and that the order of names makes no difference to the answer. -/

namespace ContractLint.Lint

namespace CallGraph

structure SearchState where
  visited : List String
  queue : List String

def searchRound (graph : CallGraph) (target : String) (state : SearchState) :
    Bool ⊕ SearchState :=
  match state.queue with
  | [] => .inl false
  | current :: queue =>
    if current = target then .inl true
    else if state.visited.contains current then .inr ⟨state.visited, queue⟩
    else .inr ⟨current :: state.visited, queue ++ graph.callees current⟩

def searchWithin (graph : CallGraph) (target : String) : Nat → SearchState → Option Bool
  | 0, _ => none
  | rounds + 1, state =>
    match graph.searchRound target state with
    | .inl answer => some answer
    | .inr next => graph.searchWithin target rounds next

def reachesWithin (graph : CallGraph) (rounds : Nat) (sources : List String) (target : String) :
    Option Bool :=
  if sources.contains target then some true else graph.searchWithin target rounds ⟨[], sources⟩

def openCalls (graph : CallGraph) (visited : List String) : List String :=
  (unvisited graph.names.dedup visited).flatMap graph.callees

def callCount (graph : CallGraph) : Nat := (graph.openCalls []).length

def work (graph : CallGraph) (state : SearchState) : Nat :=
  state.queue.length + (graph.openCalls state.visited).length

/-- One function calls another. -/
def Calls (graph : CallGraph) (caller callee : String) : Prop := callee ∈ graph.callees caller

theorem length_flatMap_unvisited {names visited : List String} {current : String}
    (calls : String → List String) (distinct : names.Nodup) (member : current ∈ names)
    (fresh : current ∉ visited) :
    ((unvisited names visited).flatMap calls).length =
      (calls current).length + ((unvisited names (current :: visited)).flatMap calls).length := by
  induction names with
  | nil => cases member
  | cons name rest ih =>
      obtain ⟨notAgain, distinctRest⟩ := List.nodup_cons.mp distinct
      by_cases same : name = current
      · -- The other names are not the current one, so they stay in either list.
        subst same
        have others : unvisited rest (name :: visited) = unvisited rest visited := by
          refine List.filter_congr fun other isOther => ?_
          have different : other ≠ name := by
            rintro rfl
            exact notAgain isOther
          simp [different]
        have left : unvisited (name :: rest) visited = name :: unvisited rest visited := by
          simp [unvisited, fresh]
        have right : unvisited (name :: rest) (name :: visited) = unvisited rest visited := by
          rw [← others]
          simp [unvisited]
        rw [left, right, List.flatMap_cons, List.length_append]
      · have inRest := (List.mem_cons.mp member).resolve_left (Ne.symm same)
        have tail := ih distinctRest inRest
        by_cases seen : name ∈ visited
        · have left : unvisited (name :: rest) visited = unvisited rest visited := by
            simp [unvisited, seen]
          have right : unvisited (name :: rest) (current :: visited) =
              unvisited rest (current :: visited) := by simp [unvisited, seen]
          rw [left, right, tail]
        · have left : unvisited (name :: rest) visited = name :: unvisited rest visited := by
            simp [unvisited, seen]
          have right : unvisited (name :: rest) (current :: visited) =
              name :: unvisited rest (current :: visited) := by simp [unvisited, seen, same]
          rw [left, right, List.flatMap_cons, List.flatMap_cons, List.length_append,
            List.length_append]
          omega

theorem length_openCalls_cons_le (graph : CallGraph) (visited : List String) (current : String) :
    (graph.openCalls (current :: visited)).length ≤ (graph.openCalls visited).length := by
  refine (List.Sublist.flatMap (List.monotone_filter_right _ ?_) _).length_le
  intro name isOpen
  simp only [List.contains_cons, Bool.not_or, Bool.and_eq_true] at isOpen
  exact isOpen.2

theorem length_openCalls_cons (graph : CallGraph) {visited : List String} {current : String}
    (fresh : current ∉ visited) :
    (graph.callees current).length + (graph.openCalls (current :: visited)).length ≤
      (graph.openCalls visited).length := by
  by_cases member : current ∈ graph.names
  · have split := length_flatMap_unvisited graph.callees (List.nodup_dedup graph.names)
      (List.mem_dedup.mpr member) fresh
    exact Nat.le_of_eq split.symm
  · have none := callees_eq_nil member
    have less := length_openCalls_cons_le graph visited current
    rw [none, List.length_nil]
    omega

theorem work_searchRound {graph : CallGraph} {target : String} {state next : SearchState}
    (goesOn : graph.searchRound target state = .inr next) : graph.work next < graph.work state := by
  obtain ⟨visited, queue⟩ := state
  cases queue with
  | nil => cases goesOn
  | cons current queue =>
      simp only [searchRound] at goesOn
      split at goesOn
      · cases goesOn
      · split at goesOn
        · cases goesOn
          simp only [work, List.length_cons]
          omega
        · rename_i fresh
          cases goesOn
          have isNew : current ∉ visited := by simpa using fresh
          have taken := graph.length_openCalls_cons isNew
          simp only [work, List.length_cons, List.length_append]
          omega

theorem search_eq_searchRound (graph : CallGraph) (target : String) (state : SearchState) :
    graph.search target state.visited state.queue =
      match graph.searchRound target state with
      | .inl answer => answer
      | .inr next => graph.search target next.visited next.queue := by
  obtain ⟨visited, queue⟩ := state
  cases queue with
  | nil => rw [search, searchRound]
  | cons current queue =>
      rw [search]
      simp only [searchRound]
      by_cases found : current = target
      · simp [found]
      · by_cases seen : visited.contains current = true
        · simp only [found, seen, if_false, if_true]
        · simp only [found, seen, if_false]
          rfl

theorem searchWithin_of_work_lt (graph : CallGraph) (target : String) (rounds : Nat)
    (state : SearchState) (enough : graph.work state < rounds) :
    graph.searchWithin target rounds state =
      some (graph.search target state.visited state.queue) := by
  induction rounds generalizing state with
  | zero => omega
  | succ rounds ih =>
      rw [searchWithin, search_eq_searchRound]
      cases round : graph.searchRound target state with
      | inl answer => rfl
      | inr next =>
          have less := work_searchRound round
          exact ih next (by omega)

theorem reachesWithin_eq (graph : CallGraph) (sources : List String) (target : String)
    (rounds : Nat) (enough : sources.length + graph.callCount < rounds) :
    graph.reachesWithin rounds sources target = some (graph.reaches sources target) := by
  rw [reachesWithin, reaches]
  by_cases isSource : sources.contains target = true
  · simp only [isSource, if_true, Bool.true_or]
  · have searched := graph.searchWithin_of_work_lt target rounds ⟨[], sources⟩ enough
    rw [if_neg isSource, searched, (Bool.not_eq_true _).mp isSource, Bool.false_or]

def answersWithin (graph : CallGraph) (rounds : Nat) (sources : List String) (target : String)
    (answer : Bool) : Bool :=
  decide (sources.length + graph.callCount < rounds) &&
    graph.reachesWithin rounds sources target == some answer

theorem reaches_of_answersWithin {graph : CallGraph} {rounds : Nat} {sources : List String}
    {target : String} {answer : Bool}
    (answers : graph.answersWithin rounds sources target answer = true) :
    graph.reaches sources target = answer := by
  obtain ⟨enough, found⟩ := (Bool.and_eq_true _ _).mp answers
  have given := eq_of_beq found
  rw [reachesWithin_eq _ _ _ _ (of_decide_eq_true enough)] at given
  exact Option.some.inj given

theorem reach_iff_path {graph : CallGraph} {sources : String → Prop} {target : String} :
    graph.Reach sources target ↔
      ∃ source, sources source ∧ Relation.ReflTransGen graph.Calls source target := by
  constructor
  · intro reached
    induction reached with
    | source isSource => exact ⟨_, isSource, .refl⟩
    | call _ called ih =>
        obtain ⟨source, isSource, path⟩ := ih
        exact ⟨source, isSource, path.tail called⟩
  · rintro ⟨source, isSource, path⟩
    induction path with
    | refl => exact .source isSource
    | tail _ called ih => exact .call ih called

theorem Reach.congr {graph other : CallGraph} {sources others : String → Prop} {name : String}
    (sameSources : ∀ name, sources name → others name)
    (sameCalls : ∀ caller callee, graph.Calls caller callee → other.Calls caller callee)
    (reached : graph.Reach sources name) : other.Reach others name := by
  induction reached with
  | source isSource => exact .source (sameSources _ isSource)
  | call _ called ih => exact .call ih (sameCalls _ _ called)

theorem reaches_congr {graph other : CallGraph} {sources others : List String}
    (sameSources : ∀ name, name ∈ sources ↔ name ∈ others)
    (sameCalls : ∀ caller callee, graph.Calls caller callee ↔ other.Calls caller callee)
    (target : String) : graph.reaches sources target = other.reaches others target := by
  rw [Bool.eq_iff_iff, reaches_iff, reaches_iff]
  constructor
  · intro reached
    exact reached.congr (fun name => (sameSources name).mp)
      fun caller callee => (sameCalls caller callee).mp
  · intro reached
    exact reached.congr (fun name => (sameSources name).mpr)
      fun caller callee => (sameCalls caller callee).mpr

/-- Whatever the graph, the search has come to an answer after one round for each source and each
call and one more. The answer is yes exactly if the target is a source or calls lead to it from one,
and so it does not depend on the order in which the sources or the callees are listed. -/
theorem reaches_decides_paths (graph : CallGraph) (sources : List String) (target : String) :
    (∀ rounds, sources.length + graph.callCount < rounds →
      graph.reachesWithin rounds sources target = some (graph.reaches sources target)) ∧
    (graph.reaches sources target = true ↔
      target ∈ sources ∨ ∃ source ∈ sources, Relation.TransGen graph.Calls source target) ∧
    ∀ (other : CallGraph) (others : List String), (∀ name, name ∈ sources ↔ name ∈ others) →
      (∀ caller callee, graph.Calls caller callee ↔ other.Calls caller callee) →
      graph.reaches sources target = other.reaches others target := by
  refine ⟨graph.reachesWithin_eq sources target, ?_, fun other others sameSources sameCalls =>
    reaches_congr sameSources sameCalls target⟩
  rw [reaches_iff, reach_iff_path]
  constructor
  · rintro ⟨source, isSource, path⟩
    rcases Relation.reflTransGen_iff_eq_or_transGen.mp path with rfl | further
    · exact .inl isSource
    · exact .inr ⟨source, isSource, further⟩
  · rintro (isSource | ⟨source, isSource, path⟩)
    · exact ⟨target, isSource, .refl⟩
    · exact ⟨source, isSource, path.to_reflTransGen⟩

end CallGraph

end ContractLint.Lint
