import ContractLint.Proofs.Lint.Search

/-! Where the calls of a graph come from: each is put there by one node of the module, and what that
node refers to is settled by the functions met before it. -/

namespace ContractLint.Source

theorem stagesOf_map {σ ι κ : Type} (step : σ → κ → σ) (view : ι → κ) (state : σ)
    (items : List ι) : stagesOf step state (items.map view) =
      (stagesOf (fun state item => step state (view item)) state items).map (Prod.map id view) := by
  induction items generalizing state with
  | nil => rfl
  | cons item rest ih =>
      simp only [List.map_cons, stagesOf, ih]
      rfl

end ContractLint.Source

namespace ContractLint.Lint

open Source

namespace CallGraph

def callAt? (graph : CallGraph) : List Node × Node → Option (String × String)
  | (above, .functionDef _ _ own _ _ _ _ _) =>
    (functionAround above).map fun outer => (outer, (scopeAround above).qualify own)
  | (above, .call _ callee _ _) =>
    (functionAround above).bind fun function =>
      (graph.target (scopeAround above) callee).map fun target => (function, target)
  | _ => none

def callsAlong (graph : CallGraph) (occurrences : List (List Node × Node)) :
    List (String × String) :=
  (stagesOf visitAt graph occurrences).filterMap fun stage => stage.1.callAt? stage.2

theorem callees_addFunction (graph : CallGraph) (name caller : String) :
    (graph.addFunction name).callees caller = graph.callees caller := by
  unfold addFunction
  split
  · rfl
  · rw [callees, callees, List.lookup_append]
    cases graph.entries.lookup caller with
    | some found => rfl
    | none =>
        by_cases same : caller = name
        · simp [same]
        · simp [List.lookup_cons, beq_eq_false_iff_ne.mpr same]

theorem lookup_addCall (graph : CallGraph) (caller callee name : String) :
    (graph.addCall caller callee).entries.lookup name =
      (graph.entries.lookup name).map fun callees =>
        if name = caller then insertNew callee callees else callees := by
  unfold addCall
  induction graph.entries with
  | nil => rfl
  | cons entry rest ih =>
      obtain ⟨first, callees⟩ := entry
      rw [List.map_cons]
      by_cases same : name = first
      · subst same
        by_cases isCaller : name = caller
        · simp [isCaller]
        · simp [isCaller]
      · have different := beq_eq_false_iff_ne.mpr same
        by_cases isCaller : first = caller
        · simp only [isCaller, if_true, List.lookup_cons]
          rw [← isCaller, different]
          exact isCaller ▸ ih
        · simp only [isCaller, if_false, List.lookup_cons, different]
          exact ih

theorem calls_addCall {graph : CallGraph} {caller callee : String} (known : caller ∈ graph.names)
    (first second : String) : (graph.addCall caller callee).Calls first second ↔
      graph.Calls first second ∨ (caller, callee) = (first, second) := by
  unfold Calls callees
  rw [lookup_addCall]
  by_cases same : first = caller
  · subst same
    obtain ⟨⟨name, callees⟩, member, rfl⟩ := List.mem_map.mp known
    cases found : graph.entries.lookup name with
    | none => exact absurd rfl (bne_iff_ne.mp (List.lookup_eq_none_iff.mp found _ member))
    | some listed => simp [mem_insertNew, eq_comm]
  · have other : ¬caller = first := Ne.symm same
    simp [same, other]

theorem calls_visitAt {graph : CallGraph} {occurrence : List Node × Node}
    (knows : graph.Knows (scopeAround occurrence.1)) (caller callee : String) :
    (graph.visitAt occurrence).Calls caller callee ↔
      graph.Calls caller callee ∨ graph.callAt? occurrence = some (caller, callee) := by
  obtain ⟨above, node⟩ := occurrence
  have around : (scopeAround above).function = functionAround above := rfl
  cases node with
  | functionDef pos isAsync own =>
      simp only [visitAt, visit, callAt?, around]
      cases found : functionAround above with
      | none => simp [Calls, callees_addFunction]
      | some outer =>
          have known : outer ∈ (graph.addFunction ((scopeAround above).qualify own)).names := by
            rw [names_addFunction]
            exact mem_insertNew.mpr (.inl (knows outer found))
          rw [calls_addCall known]
          simp [Calls, callees_addFunction]
  | call pos called =>
      simp only [visitAt, visit, callAt?, around]
      cases found : functionAround above with
      | none => simp
      | some function =>
          cases graph.target (scopeAround above) called with
          | none => simp
          | some target =>
              rw [calls_addCall (knows function found)]
              simp
  | _ => simp [visitAt, visit, callAt?]

theorem calls_foldl_visitAt {graph : CallGraph} {occurrences : List (List Node × Node)}
    (knows : ∀ stage ∈ stagesOf visitAt graph occurrences, stage.1.Knows (scopeAround stage.2.1))
    (caller callee : String) : (occurrences.foldl visitAt graph).Calls caller callee ↔
      graph.Calls caller callee ∨ (caller, callee) ∈ graph.callsAlong occurrences := by
  induction occurrences generalizing graph with
  | nil => simp [callsAlong, stagesOf]
  | cons occurrence rest ih =>
      rw [stagesOf, List.forall_mem_cons] at knows
      have here := calls_visitAt knows.1 caller callee
      rw [List.foldl_cons, ih knows.2, here, or_assoc]
      refine or_congr_right ?_
      rw [callsAlong, callsAlong, stagesOf, List.filterMap_cons]
      cases graph.callAt? occurrence with
      | none => simp
      | some call => simp [eq_comm]

theorem occurrences_know (module : Module) :
    ∀ stage ∈ stagesOf visitAt {} module.occurrences, stage.1.Knows (scopeAround stage.2.1) := by
  intro stage member
  have stages := stages_know module
  rw [walk_enter, stagesOf_map] at stages
  exact stages _ (List.mem_map_of_mem member)

theorem calls_ofModule {module : Module} {caller callee : String} :
    (ofModule module).Calls caller callee ↔
      (caller, callee) ∈ callsAlong {} module.occurrences := by
  have start : ¬({} : CallGraph).Calls caller callee := List.not_mem_nil
  rw [ofModule_eq, calls_foldl_visitAt (occurrences_know module), or_iff_right start]

theorem mem_names_visitAt {graph : CallGraph} {occurrence : List Node × Node} {name : String} :
    name ∈ (graph.visitAt occurrence).names ↔
      name ∈ graph.names ∨ definedFunction? occurrence = some name := by
  obtain ⟨above, node⟩ := occurrence
  rw [visitAt, names_visit]
  cases node with
  | functionDef => simp [mem_insertNew, definedFunction?, eq_comm]
  | _ => simp [definedFunction?]

theorem mem_names_foldl_visitAt {graph : CallGraph} {occurrences : List (List Node × Node)}
    {name : String} : name ∈ (occurrences.foldl visitAt graph).names ↔
      name ∈ graph.names ∨ name ∈ occurrences.filterMap definedFunction? := by
  induction occurrences generalizing graph with
  | nil => simp
  | cons occurrence rest ih =>
      rw [List.foldl_cons, ih, mem_names_visitAt, or_assoc]
      refine or_congr_right ?_
      rw [List.filterMap_cons]
      cases definedFunction? occurrence with
      | none => simp
      | some defined => simp [eq_comm]

theorem names_of_stage {graph : CallGraph} {occurrences : List (List Node × Node)}
    {stage : CallGraph × List Node × Node} (member : stage ∈ stagesOf visitAt graph occurrences)
    {name : String} (known : name ∈ stage.1.names) :
    name ∈ (occurrences.foldl visitAt graph).names := by
  induction occurrences generalizing graph with
  | nil => cases member
  | cons occurrence rest ih =>
      rw [stagesOf] at member
      rcases List.mem_cons.mp member with rfl | later
      · exact mem_names_foldl_visitAt.mpr (.inl known)
      · exact ih later

theorem calls_of_bare {module : Module} {above args keywords : List Node} {pos place : Pos}
    {id function : String}
    (occurs : (above, .call pos (.name place id) args keywords) ∈ module.occurrences)
    (around : functionAround above = some function)
    (absent : function ++ ".<locals>." ++ id ∉ (ofModule module).names) :
    (ofModule module).Calls function id := by
  rw [calls_ofModule]
  rw [← map_stagesOf visitAt {} module.occurrences] at occurs
  obtain ⟨⟨graph, _⟩, isStage, rfl⟩ := List.mem_map.mp occurs
  refine List.mem_filterMap.mpr ⟨_, isStage, ?_⟩
  have unknown : function ++ ".<locals>." ++ id ∉ graph.names := by
    intro known
    rw [ofModule_eq] at absent
    exact absent (names_of_stage isStage known)
  simp [callAt?, target, scopeAround, around, unknown]

end CallGraph

end ContractLint.Lint
