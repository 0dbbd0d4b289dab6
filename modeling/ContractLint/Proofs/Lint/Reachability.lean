import ContractLint.Lint.CallGraph
import ContractLint.Proofs.Lint.Scopes

/-! Call graphs: the functions of a graph are the defined ones, each known before its body is
walked, and the search finds exactly what calls lead to. -/

namespace ContractLint.Lint

open Source

/-- The functions that calls lead to from the sources on. -/
inductive CallGraph.Reach (graph : CallGraph) (sources : String → Prop) : String → Prop
  | source {name} : sources name → Reach graph sources name
  | call {caller callee} : Reach graph sources caller → callee ∈ graph.callees caller →
      Reach graph sources callee

namespace CallGraph.Reach

variable {graph : CallGraph} {sources others : String → Prop} {name : String}

theorem of_sources (covered : ∀ source, sources source → graph.Reach others source)
    (reached : graph.Reach sources name) : graph.Reach others name := by
  induction reached with
  | source isSource => exact covered _ isSource
  | call _ called ih => exact .call ih called

theorem mono (implies : ∀ source, sources source → others source)
    (reached : graph.Reach sources name) : graph.Reach others name :=
  reached.of_sources fun source isSource => .source (implies source isSource)

theorem or_iff : graph.Reach (fun source => sources source ∨ others source) name ↔
    graph.Reach sources name ∨ graph.Reach others name := by
  constructor
  · intro reached
    induction reached with
    | source isSource => exact isSource.imp .source .source
    | call _ called ih => exact ih.imp (.call · called) (.call · called)
  · rintro (reached | reached)
    · exact reached.mono fun _ => .inl
    · exact reached.mono fun _ => .inr

theorem of_absent (absent : ∀ source, sources source → source ∉ graph.names)
    (reached : graph.Reach sources name) : sources name := by
  induction reached with
  | source isSource => exact isSource
  | call _ called ih =>
      rw [CallGraph.callees_eq_nil (absent _ ih)] at called
      cases called

end CallGraph.Reach

theorem CallGraph.search_sound {graph : CallGraph} {target : String} {visited queue : List String}
    (found : graph.search target visited queue = true) : graph.Reach (· ∈ queue) target := by
  fun_induction CallGraph.search graph target visited queue with
  | case1 => cases found
  | case2 visited queue => exact .source List.mem_cons_self
  | case3 visited current queue different seen ih =>
      exact (ih found).mono fun source => List.mem_cons_of_mem _
  | case4 visited current queue different fresh ih =>
      refine (ih found).of_sources fun source queued => ?_
      rcases List.mem_append.mp queued with waiting | called
      · exact .source (List.mem_cons_of_mem _ waiting)
      · exact .call (.source List.mem_cons_self) called

theorem CallGraph.search_complete {graph : CallGraph} {target : String}
    {visited queue : List String} (missed : graph.search target visited queue = false)
    (fresh : target ∉ visited)
    (queued : ∀ name ∈ visited, ∀ callee ∈ graph.callees name, callee ∈ visited ∨ callee ∈ queue) :
    ∃ closed : List String, target ∉ closed ∧ (∀ name ∈ visited, name ∈ closed) ∧
      (∀ name ∈ queue, name ∈ closed) ∧
      ∀ name ∈ closed, ∀ callee ∈ graph.callees name, callee ∈ closed := by
  fun_induction CallGraph.search graph target visited queue with
  | case1 visited =>
      -- The queue is empty, so what has been visited is closed under calls.
      refine ⟨visited, fresh, fun _ => id, by simp, fun name member callee called => ?_⟩
      exact (queued name member callee called).resolve_right List.not_mem_nil
  | case2 => cases missed
  | case3 visited current queue different seen ih =>
      have isVisited : current ∈ visited := by simpa using seen
      obtain ⟨closed, absent, covers, coversQueue, isClosed⟩ := ih missed fresh
        fun name member callee called => by
          rcases queued name member callee called with known | waiting
          · exact .inl known
          · rcases List.mem_cons.mp waiting with rfl | further
            · exact .inl isVisited
            · exact .inr further
      exact ⟨closed, absent, covers,
        List.forall_mem_cons.mpr ⟨covers current isVisited, coversQueue⟩, isClosed⟩
  | case4 visited current queue different unseen ih =>
      obtain ⟨closed, absent, covers, coversQueue, isClosed⟩ := ih missed
        (by simpa [fresh] using Ne.symm different)
        fun name member callee called => by
          -- What the new name calls is in the queue now; what another calls may be the new name.
          rcases List.mem_cons.mp member with rfl | earlier
          · exact .inr (List.mem_append_right _ called)
          · rcases queued name earlier callee called with known | waiting
            · exact .inl (List.mem_cons_of_mem _ known)
            · rcases List.mem_cons.mp waiting with rfl | further
              · exact .inl List.mem_cons_self
              · exact .inr (List.mem_append_left _ further)
      rw [List.forall_mem_cons] at covers
      refine ⟨closed, absent, covers.2, List.forall_mem_cons.mpr ⟨covers.1, ?_⟩, isClosed⟩
      exact fun name waiting => coversQueue name (List.mem_append_left _ waiting)

theorem CallGraph.reaches_iff {graph : CallGraph} {sources : List String} {target : String} :
    graph.reaches sources target = true ↔ graph.Reach (· ∈ sources) target := by
  unfold CallGraph.reaches
  rw [Bool.or_eq_true, List.contains_iff_mem]
  constructor
  · rintro (isSource | found)
    · exact .source isSource
    · exact CallGraph.search_sound found
  · intro reached
    right
    by_contra missed
    obtain ⟨closed, absent, _, coversSources, isClosed⟩ :=
      CallGraph.search_complete ((Bool.not_eq_true _).mp missed) List.not_mem_nil (by simp)
    have inside : ∀ name, graph.Reach (· ∈ sources) name → name ∈ closed := by
      intro name reached
      induction reached with
      | source isSource => exact coversSources _ isSource
      | call _ called ih => exact isClosed _ ih _ called
    exact absent (inside target reached)

theorem mem_insertNew {item name : String} {items : List String} :
    name ∈ insertNew item items ↔ name ∈ items ∨ name = item := by
  unfold insertNew
  split
  next contained =>
    rw [List.contains_iff_mem] at contained
    constructor
    · exact .inl
    · rintro (known | rfl)
      · exact known
      · exact contained
  next => simp

theorem insertNew_eraseDups (item : String) (items : List String) :
    insertNew item items.eraseDups = (items ++ [item]).eraseDups := by
  rw [insertNew, List.eraseDups_append]
  simp only [List.contains_iff_mem, List.mem_eraseDups]
  split <;> simp_all [List.removeAll, List.eraseDups_cons]

theorem CallGraph.names_addFunction (graph : CallGraph) (name : String) :
    (graph.addFunction name).names = insertNew name graph.names := by
  unfold CallGraph.addFunction insertNew
  split
  · rfl
  · simp [CallGraph.names]

theorem CallGraph.names_addCall (graph : CallGraph) (caller callee : String) :
    (graph.addCall caller callee).names = graph.names := by
  unfold CallGraph.addCall CallGraph.names
  rw [List.map_map]
  refine List.map_congr_left fun entry _ => ?_
  simp only [Function.comp]
  split <;> rfl

theorem CallGraph.names_visit (graph : CallGraph) (scope : Scope) (node : Node) :
    (graph.visit scope node).names = match node with
      | .functionDef _ _ own _ _ _ _ _ => insertNew (scope.qualify own) graph.names
      | _ => graph.names := by
  cases node with
  | functionDef =>
      simp only [CallGraph.visit]
      split
      · rw [CallGraph.names_addCall, CallGraph.names_addFunction]
      · exact CallGraph.names_addFunction graph _
  | call =>
      simp only [CallGraph.visit]
      split
      · exact CallGraph.names_addCall graph _ _
      · rfl
  | _ => rfl

def CallGraph.visitAt (graph : CallGraph) (occurrence : List Node × Node) : CallGraph :=
  graph.visit (scopeAround occurrence.1) occurrence.2

theorem CallGraph.ofModule_eq (module : Module) :
    CallGraph.ofModule module = module.occurrences.foldl CallGraph.visitAt {} := by
  rw [CallGraph.ofModule, walk_enter, List.foldl_map]
  rfl

theorem CallGraph.names_visitAt {graph : CallGraph} {known : List String}
    (same : graph.names = known.eraseDups) (occurrence : List Node × Node) :
    (graph.visitAt occurrence).names =
      (known ++ (definedFunction? occurrence).toList).eraseDups := by
  obtain ⟨above, node⟩ := occurrence
  rw [CallGraph.visitAt, CallGraph.names_visit, same]
  cases node with
  | functionDef => exact insertNew_eraseDups _ known
  | _ => simp [definedFunction?]

theorem CallGraph.names_foldl_visitAt (visits : List (List Node × Node)) (graph : CallGraph)
    (known : List String) (same : graph.names = known.eraseDups) :
    (visits.foldl CallGraph.visitAt graph).names =
      (known ++ visits.filterMap definedFunction?).eraseDups := by
  induction visits generalizing graph known with
  | nil => simpa using same
  | cons visit rest ih =>
      rw [List.foldl_cons, ih _ _ (CallGraph.names_visitAt same visit), List.append_assoc]
      cases found : definedFunction? visit with
      | none => simp [found]
      | some name => simp [found]

theorem CallGraph.names_ofModule (module : Module) :
    (CallGraph.ofModule module).names = (definedFunctions module).eraseDups := by
  rw [CallGraph.ofModule_eq]
  exact CallGraph.names_foldl_visitAt module.occurrences {} [] rfl

theorem CallGraph.mem_names_ofModule {module : Module} {name : String} :
    name ∈ (CallGraph.ofModule module).names ↔ name ∈ definedFunctions module := by
  rw [CallGraph.names_ofModule, List.mem_eraseDups]

theorem CallGraph.mem_names_visit {graph : CallGraph} {name : String}
    (member : name ∈ graph.names) (scope : Scope) (node : Node) :
    name ∈ (graph.visit scope node).names := by
  rw [CallGraph.names_visit]
  split
  · exact mem_insertNew.mpr (.inl member)
  · exact member

def CallGraph.Knows (graph : CallGraph) (scope : Scope) : Prop :=
  ∀ name ∈ scope.function, name ∈ graph.names

theorem CallGraph.Knows.enter {graph : CallGraph} {scope : Scope} (knows : graph.Knows scope)
    (node : Node) : (graph.visit scope node).Knows (scope.enter node) := by
  cases node with
  | functionDef =>
      intro name entered
      cases entered
      rw [CallGraph.names_visit]
      exact mem_insertNew.mpr (.inr rfl)
  | _ => exact fun name found => CallGraph.mem_names_visit (knows name found) scope _

theorem CallGraph.stages_know (module : Module) :
    ∀ stage ∈ stagesOf (fun (graph : CallGraph) (visit : Scope × Node) =>
      graph.visit visit.1 visit.2) {} (module.walk Scope.enter {}), stage.1.Knows stage.2.1 := by
  refine Module.walk_invariant (fun scope (graph : CallGraph) => graph.Knows scope) ?_ ?_ module
    {} {} ?_
  · intro scope graph visit knows name found
    exact CallGraph.mem_names_visit (knows name found) visit.1 visit.2
  · intro scope node graph knows
    exact knows.enter node
  · simp [CallGraph.Knows]

end ContractLint.Lint
