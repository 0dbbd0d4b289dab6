import ContractLint.Proofs.Lint.Mismatches
import ContractLint.Proofs.Source.Outside

/-! The return statements of a function. The rule on strict equality follows the blocks of a
function, but neither those of match statements nor those of a try statement for exception groups,
and the returns in them are lost to it. -/

namespace ContractLint.Lint

open Source

def followed (node : Node) : List Node :=
  node :: (innerStatements node).attach.flatMap fun ⟨statement, _⟩ => followed statement
termination_by sizeOf node
decreasing_by exact sizeOf_lt_of_mem_innerStatements ‹_›

theorem followed_eq (node : Node) :
    followed node = node :: (innerStatements node).flatMap followed := by
  rw [followed]
  simp [List.flatMap_subtype]

theorem ownReturns_eq (node : Node) : ownReturns node = (followed node).filter isReturn := by
  fun_induction ownReturns node with
  | case1 node returns =>
      cases node with
      | returning =>
          rw [followed_eq]
          rfl
      | _ => cases returns
  | case2 node plain ih =>
      rw [followed_eq, List.filter_cons_of_neg plain, List.filter_flatMap]
      simp only [List.flatMap_subtype, List.unattach_attach]
      exact List.flatMap_congr ih

theorem ownAssignments_eq (node : Node) :
    ownAssignments node = (followed node).filterMap assignmentAt? := by
  fun_induction ownAssignments node with
  | case1 node ih =>
      rw [followed_eq, List.filterMap_cons, List.filterMap_flatMap]
      simp only [List.flatMap_subtype, List.unattach_attach]
      rw [List.flatMap_congr ih]
      cases assignmentAt? node <;> rfl

def isPassedOver : Node → Bool
  | .matching .. => true
  | .tryBlock _ isGroup .. => isGroup
  | _ => false

/-- The nodes of a body outside the functions, classes and lambdas in it. -/
def ownNodes (body : List Node) : List Node := body.flatMap (Node.nodesOutside opensScope)

/-- The nodes of a body that are not in statements that are passed over either. -/
def openNodes (body : List Node) : List Node :=
  body.flatMap (Node.nodesOutside fun outer => opensScope outer || isPassedOver outer)

def openStatements (node : Node) : List Node :=
  (node.nodesOutside fun outer => opensScope outer || isPassedOver outer).filter Node.isStatement

theorem openStatements_eq (node : Node) : openStatements node =
    (if node.isStatement then [node] else []) ++
      if opensScope node || isPassedOver node then []
      else node.children.flatMap openStatements := by
  unfold openStatements
  rw [Node.nodesOutside_eq, List.filter_cons]
  cases opensScope node || isPassedOver node with
  | true => cases node.isStatement <;> rfl
  | false => cases node.isStatement <;> simp [List.filter_flatMap]

theorem openStatements_of_expression {node : Node} (held : node.Expression) :
    openStatements node = [] := by
  induction node using Node.inductOnChildren with
  | step node ih =>
      have below : node.children.flatMap openStatements = [] := by
        rw [List.flatMap_eq_nil_iff]
        exact fun child isChild => ih child isChild (held.child isChild)
      have notStatement : node.isStatement = false := by
        have isExpression := held.isExpression
        cases node <;> first | rfl | cases isExpression
      rw [openStatements_eq, notStatement, below]
      simp

theorem flatMap_openStatements_of_expressions {nodes : List Node}
    (held : ∀ node ∈ nodes, node.Expression) : nodes.flatMap openStatements = [] :=
  List.flatMap_eq_nil_iff.mpr fun node member => openStatements_of_expression (held node member)

def Gathered : Role → Node → Prop
  | .statement, node => openStatements node = followed node
  | .context, node => openStatements node = []
  | .handler, node => openStatements node = (handlerBody node).flatMap followed
  | _, _ => True

theorem flatMap_openStatements {nodes : List Node}
    (held : ∀ node ∈ nodes, openStatements node = followed node) :
    nodes.flatMap openStatements = nodes.flatMap followed :=
  List.flatMap_congr held

theorem openStatements_of_closed {node : Node} (isStatement : node.isStatement = true)
    (closed : (opensScope node || isPassedOver node) = true) : openStatements node = [node] := by
  rw [openStatements_eq, if_pos isStatement, if_pos closed, List.append_nil]

theorem openStatements_of_open {node : Node} (isStatement : node.isStatement = true)
    (isOpen : (opensScope node || isPassedOver node) = false) :
    openStatements node = node :: node.children.flatMap openStatements := by
  rw [openStatements_eq, if_pos isStatement, if_neg (by simp [isOpen]), List.singleton_append]

theorem openStatements_of_part {node : Node} (notStatement : node.isStatement = false)
    (isOpen : (opensScope node || isPassedOver node) = false) :
    openStatements node = node.children.flatMap openStatements := by
  rw [openStatements_eq, if_neg (by simp [notStatement]), if_neg (by simp [isOpen]),
    List.nil_append]

theorem gathered {role : Role} {node : Node} (built : node.Built role) : Gathered role node := by
  induction built with
  | @simple node isSimple children =>
      have below := flatMap_openStatements_of_expressions children
      have noBlocks : innerStatements node = [] := by
        cases node <;> first | rfl | cases isSimple
      rw [Gathered, followed_eq, noBlocks, openStatements_of_open, below]
      · rfl
      · cases node <;> first | rfl | cases isSimple
      · cases node <;> first | rfl | cases isSimple
  | functionDef | classDef | matching =>
      rw [Gathered, openStatements_of_closed rfl rfl, followed_eq]
      rfl
  | forLoop target source _ _ body otherwise =>
      rw [Gathered, openStatements_of_open rfl rfl, followed_eq]
      simp [Node.children, innerStatements, openStatements_of_expression target,
        openStatements_of_expression source, flatMap_openStatements body,
        flatMap_openStatements otherwise]
  | whileLoop test _ _ body otherwise | branch test _ _ body otherwise =>
      rw [Gathered, openStatements_of_open rfl rfl, followed_eq]
      simp [Node.children, innerStatements, openStatements_of_expression test,
        flatMap_openStatements body, flatMap_openStatements otherwise]
  | @withBlock _ _ items _ _ _ contexts body =>
      have noItems : items.flatMap openStatements = [] := List.flatMap_eq_nil_iff.mpr contexts
      rw [Gathered, openStatements_of_open rfl rfl, followed_eq]
      simp [Node.children, innerStatements, noItems, flatMap_openStatements body]
  | @tryBlock _ isGroup _ handlers _ _ _ _ _ _ body handled otherwise cleanup =>
      cases isGroup with
      | true =>
          rw [Gathered, openStatements_of_closed rfl rfl, followed_eq]
          rfl
      | false =>
          have inHandlers : handlers.flatMap openStatements =
              (handlers.flatMap handlerBody).flatMap followed := by
            rw [List.flatMap_assoc]
            exact List.flatMap_congr handled
          rw [Gathered, openStatements_of_open rfl rfl, followed_eq]
          simp only [Node.children, innerStatements, List.flatMap_append, inHandlers,
            flatMap_openStatements body, flatMap_openStatements otherwise,
            flatMap_openStatements cleanup]
  | withItem context target =>
      have unbound := flatMap_openStatements_of_expressions fun node member =>
        target node (Option.mem_toList.mp member)
      rw [Gathered, openStatements_of_part rfl rfl, Node.children, List.flatMap_cons, unbound,
        openStatements_of_expression context, List.append_nil]
  | handlerOf exception _ body =>
      have uncaught := flatMap_openStatements_of_expressions fun node member =>
        exception node (Option.mem_toList.mp member)
      rw [Gathered, openStatements_of_part rfl rfl, Node.children, List.flatMap_append, uncaught,
        flatMap_openStatements body, List.nil_append]
      rfl
  | matchCase | pattern | value => trivial

/-- The return statements of a body outside the functions and classes in it, in the order of the
text. Lambdas are not entered either, which hold no statements. -/
def returnsOf (body : List Node) : List Node := (ownNodes body).filter isReturn

theorem isStatement_of_isReturn {node : Node} (returns : isReturn node = true) :
    node.isStatement = true := by
  cases node with
  | returning => rfl
  | _ => cases returns

theorem bodyReturns_eq {body : List Node} (built : ∀ node ∈ body, node.Built .statement) :
    bodyReturns body = (openNodes body).filter isReturn := by
  rw [bodyReturns, openNodes, List.filter_flatMap]
  refine List.flatMap_congr fun node member => ?_
  have open_eq : openStatements node = followed node := gathered (built node member)
  rw [ownReturns_eq, ← open_eq, openStatements, List.filter_filter]
  refine List.filter_congr fun inner _ => ?_
  cases returns : isReturn inner with
  | true => simp [isStatement_of_isReturn returns]
  | false => rfl

theorem body_built {source : String} {module : Module} (parsed : parse source = .ok module)
    {above : List Node} {function : Node} (occurs : (above, function) ∈ module.occurrences)
    {own : String} {body : List Node} (defines : functionBody? function = some (own, body)) :
    ∀ node ∈ body, node.Built .statement := by
  cases function with
  | functionDef =>
      cases defines
      rcases Module.built_of_occurs (parse_built parsed) occurs with held | ⟨_, held⟩
      · cases held.isExpression
      · cases held with
        | functionDef _ _ body _ _ => exact body
        | simple isSimple => cases isSimple
        | value held => cases held.isExpression
  | _ => cases defines

/-- The rule sees the returns of a function each once and in order, except those in match statements
and in try statements for exception groups. So it sees all of them exactly if none stands there. -/
theorem bodyReturns_complete_iff {source : String} {module : Module}
    (parsed : parse source = .ok module) {above : List Node} {function : Node}
    (occurs : (above, function) ∈ module.occurrences) {own : String} {body : List Node}
    (defines : functionBody? function = some (own, body)) :
    bodyReturns body = (openNodes body).filter isReturn ∧
    (bodyReturns body).Sublist (returnsOf body) ∧
    (bodyReturns body = returnsOf body ↔
      ∀ outer ∈ ownNodes body, isPassedOver outer = true →
        ∀ inner ∈ outer.nodesOutside opensScope, isReturn inner = false) := by
  have seen := bodyReturns_eq (body_built parsed occurs defines)
  have apart : ∀ node, isPassedOver node = true → isReturn node = false := by
    intro node passed
    cases node with
    | returning => cases passed
    | _ => rfl
  refine ⟨seen, ?_, ?_⟩
  · rw [seen, returnsOf]
    exact (sublist_flatMap fun node _ => node.nodesOutside_or_sublist).filter isReturn
  · rw [seen, returnsOf]
    exact filter_nodesOutside_or_eq_iff apart body

theorem exists_function (text : String) (holds : Module → List Node → Bool)
    (found : (parse text).toOption.any (fun module => module.body.any fun function =>
      (functionBody? function).any (holds module ·.2)) = true) :
    ∃ module function own body, parse text = .ok module ∧ ([], function) ∈ module.occurrences ∧
      functionBody? function = some (own, body) ∧ holds module body = true := by
  obtain ⟨module, parsed, found⟩ := exists_parsed found
  obtain ⟨function, member, found⟩ := List.any_eq_true.mp found
  obtain ⟨⟨own, body⟩, defines, held⟩ := (Option.any_eq_true _ _).mp found
  exact ⟨module, function, own, body, parsed, Module.occurrences_root member, defines, held⟩

def nestedReturnsText : String :=
  "def f():\n if x:return 0\n else:\n  try:return 1\n  except E:return 2\n" ++
    " def g():return 3\n return 4"

theorem bodyReturns_complete_nested : ∃ module function own body,
    parse nestedReturnsText = .ok module ∧ ([], function) ∈ module.occurrences ∧
      functionBody? function = some (own, body) ∧ (bodyReturns body).length = 4 ∧
      bodyReturns body = returnsOf body ∧
      ∀ outer ∈ ownNodes body, isPassedOver outer = true →
        ∀ inner ∈ outer.nodesOutside opensScope, isReturn inner = false := by
  obtain ⟨module, function, own, body, parsed, occurs, defines, facts⟩ :=
    exists_function nestedReturnsText
      (fun _ body => decide ((bodyReturns body).length = 4 ∧ (returnsOf body).length = 4))
      (by decide +kernel)
  obtain ⟨seen, all⟩ := of_decide_eq_true facts
  obtain ⟨_, sublist, complete⟩ := bodyReturns_complete_iff parsed occurs defines
  have same := sublist.eq_of_length (seen.trans all.symm)
  exact ⟨module, function, own, body, parsed, occurs, defines, seen, same, complete.mp same⟩

def passedReturnsText : String :=
  "def f():\n match x:\n  case 1:return 0\n try:return 1\n except*E:return 2\n return 3"

theorem passed_returns_unseen : ∃ module function own body,
    parse passedReturnsText = .ok module ∧ ([], function) ∈ module.occurrences ∧
      functionBody? function = some (own, body) ∧ (bodyReturns body).length = 1 ∧
      (returnsOf body).length = 4 ∧ bodyReturns body ≠ returnsOf body := by
  obtain ⟨module, function, own, body, parsed, occurs, defines, facts⟩ :=
    exists_function passedReturnsText
      (fun _ body => decide ((bodyReturns body).length = 1 ∧ (returnsOf body).length = 4))
      (by decide +kernel)
  obtain ⟨seen, all⟩ := of_decide_eq_true facts
  refine ⟨module, function, own, body, parsed, occurs, defines, seen, all, fun same => ?_⟩
  rw [same, all] at seen
  cases seen

end ContractLint.Lint
