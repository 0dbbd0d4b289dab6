import ContractLint.Proofs.Lint.CallNames

/-! Exceptions that contracts raise. A statement that raises a built-in exception is reported if a
contract class stands anywhere around it. The classes around a node are counted on the way down; a
pass that counts up and down with one counter comes to the same reports. -/

namespace ContractLint.Lint

open Source

/-- What is left of an expression when the calls of it are taken away. -/
def uncalled : Node → Node
  | .call _ callee _ _ => uncalled callee
  | node => node

theorem exceptionName_eq_some_iff {exception : Node} {name : String} :
    exceptionName exception = some name ↔ ∃ pos, uncalled exception = .name pos name := by
  fun_induction exceptionName exception with
  | case1 pos callee args keywords ih => rw [ih, uncalled]
  | case2 pos id => simp [uncalled]
  | case3 node notCall notName =>
      have same : uncalled node = node := by
        cases node with
        | call pos callee args keywords => exact absurd rfl (notCall pos callee args keywords)
        | _ => rfl
      rw [same]
      refine iff_of_false (by simp) ?_
      rintro ⟨pos, rfl⟩
      exact notName pos name rfl

/-- A built-in exception is raised somewhere in a contract class. The nodes around the statement
stand before it. -/
inductive RaisesBare : List Node × Node → Finding → Prop
  | intro {above contract pos exception cause place name} : contract ∈ above →
      isContractClass contract = true → uncalled exception = .name place name →
      name ∈ builtinExceptions →
      RaisesBare (above, .raising pos (some exception) cause) (findingAt (.bareException name) pos)

def raiseWarning? (contracts : Nat) : Node → Option Finding
  | .raising pos (some exception) _ =>
    ((exceptionName exception).filter fun name =>
        0 < contracts && builtinExceptions.contains name).map fun name =>
      findingAt (.bareException name) pos
  | _ => none

/-- The contract classes among the nodes around a node. -/
def contractsAround (above : List Node) : Nat := above.countP isContractClass

def bareRaise? (occurrence : List Node × Node) : Option Finding :=
  raiseWarning? (contractsAround occurrence.1) occurrence.2

theorem bareRaise?_eq_some_iff {occurrence : List Node × Node} {finding : Finding} :
    bareRaise? occurrence = some finding ↔ RaisesBare occurrence finding := by
  obtain ⟨above, node⟩ := occurrence
  have inContract : 0 < contractsAround above ↔
      ∃ contract ∈ above, isContractClass contract = true := List.countP_pos_iff
  constructor
  · intro found
    unfold bareRaise? raiseWarning? at found
    split at found
    next pos exception cause same =>
      obtain ⟨name, named, rfl⟩ := Option.map_eq_some_iff.mp found
      obtain ⟨named, held⟩ := Option.filter_eq_some_iff.mp named
      simp only [Bool.and_eq_true, decide_eq_true_eq, List.contains_iff_mem, inContract] at held
      obtain ⟨⟨contract, isAbove, isContract⟩, isBuiltin⟩ := held
      obtain ⟨place, isName⟩ := exceptionName_eq_some_iff.mp named
      obtain rfl : node = _ := same
      exact .intro isAbove isContract isName isBuiltin
    next => cases found
  · rintro ⟨isAbove, isContract, isName, isBuiltin⟩
    have named := exceptionName_eq_some_iff.mpr ⟨_, isName⟩
    have counted := inContract.mpr ⟨_, isAbove, isContract⟩
    simp [bareRaise?, raiseWarning?, named, Option.filter, counted, isBuiltin]

def hazardCode : Node → String
  | .importing .. | .importingFrom .. => "W001"
  | .call .. => "W002"
  | _ => "W004"

theorem code_of_mem_hazardsAt {contracts : Nat} {node : Node} {finding : Finding}
    (found : finding ∈ hazardsAt contracts node) : finding.code = hazardCode node := by
  unfold hazardsAt at found
  split at found
  next =>
    obtain ⟨_, _, rfl⟩ := List.mem_map.mp found
    rfl
  next =>
    split at found
    next => rw [List.mem_singleton.mp found]; rfl
    next => cases found
  next =>
    dsimp only at found
    split at found
    next => rw [List.mem_singleton.mp found]; rfl
    next => cases found
  next =>
    split at found
    next =>
      split at found
      next => rw [List.mem_singleton.mp found]; rfl
      next => cases found
    next => cases found
  next => cases found

theorem filter_hazardsAt_raising (contracts : Nat) (node : Node) :
    (hazardsAt contracts node).filter (·.code = "W004") =
      (raiseWarning? contracts node).toList := by
  cases node with
  | raising pos exception cause =>
      have coded : ∀ finding ∈ hazardsAt contracts (.raising pos exception cause),
          decide (finding.code = "W004") = true :=
        fun finding found => decide_eq_true (code_of_mem_hazardsAt found)
      rw [List.filter_eq_self.mpr coded]
      cases exception with
      | none => rfl
      | some exception =>
          cases named : exceptionName exception with
          | none => simp [hazardsAt, raiseWarning?, named]
          | some name =>
              by_cases held : 0 < contracts ∧ name ∈ builtinExceptions
              · simp [hazardsAt, raiseWarning?, named, Option.filter, held]
              · simp [hazardsAt, raiseWarning?, named, Option.filter, held]
  | importing | importingFrom | call =>
      refine List.filter_eq_nil_iff.mpr fun finding found => ?_
      simp [code_of_mem_hazardsAt found, hazardCode]
  | _ => rfl

theorem contextBelow_enterContract (above : List Node) :
    contextBelow enterContract 0 above = contractsAround above := by
  induction above with
  | nil => rfl
  | cons node above ih =>
      have entered : contextBelow enterContract 0 (node :: above) =
          enterContract (contextBelow enterContract 0 above) node := rfl
      rw [entered, ih, enterContract, contractsAround, contractsAround, List.countP_cons]
      split <;> rfl

theorem walk_enterContract (module : Module) : module.walk enterContract 0 =
    module.occurrences.map fun occurrence =>
      (contractsAround occurrence.1, occurrence.2) := by
  rw [Module.walk_eq_map]
  refine List.map_congr_left fun occurrence _ => ?_
  exact Prod.ext (contextBelow_enterContract occurrence.1) rfl

/-- The reports of built-in exceptions in a text. -/
def exceptionWarnings (source : String) : List Finding :=
  (findingsIn hazards source).filter (·.code = "W004")

theorem exceptionWarnings_eq {source : String} {module : Module}
    (parsed : parse source = .ok module) :
    exceptionWarnings source = module.occurrences.filterMap bareRaise? := by
  rw [exceptionWarnings, findingsIn_eq parsed, hazards, List.filter_flatMap, walk_enterContract,
    List.flatMap_map, List.filterMap_eq_flatMap_toList]
  simp only [filter_hazardsAt_raising]
  rfl

section Counter

inductive Stop
  | enter (node : Node)
  | leave (node : Node)

def stopsOf (node : Node) : List Stop :=
  .enter node :: (node.children.attach.flatMap fun ⟨child, _⟩ => stopsOf child) ++ [.leave node]
termination_by sizeOf node
decreasing_by exact Node.sizeOf_lt_of_mem_children ‹_›

theorem stopsOf_eq (node : Node) :
    stopsOf node = .enter node :: node.children.flatMap stopsOf ++ [.leave node] := by
  rw [stopsOf]
  simp [List.flatMap_subtype]

/-- What a pass carries along: a counter of the contract classes that it is in, and the hazards
found so far. -/
structure Pass where
  contracts : Nat
  found : List Finding

/-- The counter goes up where a contract class begins and down where it ends. -/
def Pass.step (pass : Pass) : Stop → Pass
  | .enter node =>
    ⟨if isContractClass node then pass.contracts + 1 else pass.contracts,
      pass.found ++ hazardsAt pass.contracts node⟩
  | .leave node =>
    { pass with contracts := if isContractClass node then pass.contracts - 1 else pass.contracts }

def Pass.run (pass : Pass) (stops : List Stop) : Pass := stops.foldl Pass.step pass

def hazardsBelow (contracts : Nat) (nodes : List Node) : List Finding :=
  (nodes.flatMap (Node.walk enterContract contracts)).flatMap fun visit =>
    hazardsAt visit.1 visit.2

theorem hazardsBelow_cons (contracts : Nat) (node : Node) (rest : List Node) :
    hazardsBelow contracts (node :: rest) = hazardsAt contracts node ++
      hazardsBelow (enterContract contracts node) node.children ++ hazardsBelow contracts rest := by
  simp [hazardsBelow, Node.walk_eq, List.flatMap_append]

theorem Pass.run_flatMap {nodes : List Node}
    (each : ∀ node ∈ nodes, ∀ pass : Pass, pass.run (stopsOf node) =
      ⟨pass.contracts, pass.found ++ hazardsBelow pass.contracts [node]⟩) (pass : Pass) :
    pass.run (nodes.flatMap stopsOf) =
      ⟨pass.contracts, pass.found ++ hazardsBelow pass.contracts nodes⟩ := by
  induction nodes generalizing pass with
  | nil => simp [Pass.run, hazardsBelow]
  | cons node rest ih =>
      have first := each node List.mem_cons_self pass
      have later := ih (fun other member => each other (List.mem_cons_of_mem _ member))
        (pass.run (stopsOf node))
      rw [List.flatMap_cons, Pass.run, List.foldl_append]
      refine later.trans ?_
      rw [first]
      simp [hazardsBelow]

theorem Pass.run_stopsOf (pass : Pass) (node : Node) : pass.run (stopsOf node) =
    ⟨pass.contracts, pass.found ++ hazardsBelow pass.contracts [node]⟩ := by
  induction node using Node.inductOnChildren generalizing pass with
  | step node ih =>
      have below := Pass.run_flatMap ih (pass.step (.enter node))
      rw [stopsOf_eq, Pass.run, List.cons_append, List.foldl_cons, List.foldl_append]
      rw [Pass.run] at below
      rw [below, List.foldl_cons, List.foldl_nil]
      simp only [Pass.step, hazardsBelow_cons, enterContract]
      split <;> simp [hazardsBelow]

end Counter

/-- The reports of built-in exceptions are one for each statement that raises one somewhere in a
contract class, in the order in which the statements come in the tree, and no others. Every node is
looked at with the number of contract classes around it: a pass with one counter has the same hazards,
and after each node the counter is what it was before. -/
theorem bare_exceptions_reported {source : String} {module : Module}
    (parsed : parse source = .ok module) :
    (∀ occurrence finding,
      bareRaise? occurrence = some finding ↔ RaisesBare occurrence finding) ∧
    exceptionWarnings source = module.occurrences.filterMap bareRaise? ∧
    module.walk enterContract 0 = module.occurrences.map
      (fun occurrence => (contractsAround occurrence.1, occurrence.2)) ∧
    (∀ (pass : Pass) (node : Node), (pass.run (stopsOf node)).contracts = pass.contracts) ∧
    (Pass.mk 0 []).run (module.body.flatMap stopsOf) = ⟨0, findingsIn hazards source⟩ := by
  refine ⟨fun _ _ => bareRaise?_eq_some_iff, exceptionWarnings_eq parsed,
    walk_enterContract module, fun pass node => by rw [Pass.run_stopsOf], ?_⟩
  rw [Pass.run_flatMap fun node _ pass => pass.run_stopsOf node, findingsIn_eq parsed]
  rfl

def nestedRaises : String :=
  "class C(gl.Contract):\n def f(s):\n  class D:\n   raise ValueError()(1)\n  raise s.KeyError\n" ++
    "raise KeyError"

theorem bare_exceptions_reported_nested :
    (parse nestedRaises).toOption.isSome = true ∧
      exceptionWarnings nestedRaises = [findingAt (.bareException "ValueError") ⟨4, 3⟩] := by
  have facts : (parse nestedRaises).toOption.any (fun module =>
      decide (module.occurrences.filterMap bareRaise? =
        [findingAt (.bareException "ValueError") ⟨4, 3⟩])) = true := by
    decide +kernel
  obtain ⟨module, parsed, facts⟩ := exists_parsed facts
  refine ⟨by rw [parsed]; rfl, ?_⟩
  rw [(bare_exceptions_reported parsed).2.1]
  exact of_decide_eq_true facts

end ContractLint.Lint
