import ContractLint.Proofs.Source.Words
import ContractLint.Source.Parse

/-! Trees as a text can spell them: expressions hold expressions only, and names are words. What a
parser yields is followed through its steps, one rule for each way of putting parsers together. -/

namespace ContractLint.Source

open ContractLint.Text

def Node.isExpression : Node → Bool
  | .name .. | .attribute .. | .call .. | .keyword .. | .subscript .. | .lambda .. | .await ..
  | .assignment .. | .starred .. | .tuple .. | .list .. | .constant .. | .unary .. | .form ..
  | .clause .. => true
  | _ => false

def Node.NamedByWord : Node → Prop
  | .name _ id => IsWord id.toList
  | .attribute _ _ attr => IsWord attr.toList
  | .functionDef _ _ own _ _ _ _ _ => IsWord own.toList
  | .classDef _ own _ _ _ _ => IsWord own.toList
  | _ => True

def Node.Labelled : Node → Prop
  | .name _ id => id ≠ ""
  | .attribute _ _ attr => attr ≠ ""
  | _ => True

structure Node.Fits (node : Node) : Prop where
  expressions : node.isExpression = true → ∀ child ∈ node.children, child.isExpression = true
  named : node.NamedByWord
  labelled : node.Labelled

/-- All nodes of a tree, each before the nodes below it. -/
def Node.nodes (node : Node) : List Node := (node.walk (fun (_ : Unit) _ => ()) ()).map (·.2)

theorem Node.nodes_eq (node : Node) : node.nodes = node :: node.children.flatMap Node.nodes := by
  rw [Node.nodes, Node.walk_eq, List.map_cons, List.map_flatMap]
  rfl

theorem Module.nodes_eq (module : Module) : module.nodes = module.body.flatMap Node.nodes := by
  rw [Module.nodes, Module.walk, List.map_flatMap]
  rfl

/-- A tree whose nodes all fit what stands below them. -/
def Node.Formed (node : Node) : Prop := ∀ inner ∈ node.nodes, inner.Fits

def Module.Formed (module : Module) : Prop := ∀ inner ∈ module.nodes, inner.Fits

theorem Node.formed_iff (node : Node) :
    node.Formed ↔ node.Fits ∧ ∀ child ∈ node.children, child.Formed := by
  unfold Node.Formed
  rw [Node.nodes_eq]
  simp only [List.forall_mem_cons, List.mem_flatMap, forall_exists_index, and_imp]
  constructor
  · rintro ⟨fits, below⟩
    exact ⟨fits, fun child member inner listed => below inner child member listed⟩
  · rintro ⟨fits, below⟩
    exact ⟨fits, fun inner child member listed => below child member inner listed⟩

theorem Module.formed_iff (module : Module) :
    module.Formed ↔ ∀ statement ∈ module.body, statement.Formed := by
  unfold Module.Formed
  rw [Module.nodes_eq]
  simp only [List.mem_flatMap, forall_exists_index, and_imp]
  constructor
  · intro formed statement member inner listed
    exact formed inner statement member listed
  · intro formed inner statement member listed
    exact formed statement member inner listed

structure Node.Expression (node : Node) : Prop where
  formed : node.Formed
  isExpression : node.isExpression = true

theorem Node.Expression.of_children {node : Node} (isExpression : node.isExpression = true)
    (named : node.NamedByWord ∧ node.Labelled)
    (children : ∀ child ∈ node.children, child.Expression) : node.Expression := by
  refine ⟨?_, isExpression⟩
  rw [Node.formed_iff]
  exact ⟨⟨fun _ child member => (children child member).isExpression, named.1, named.2⟩,
    fun child member => (children child member).formed⟩

theorem Node.Formed.of_children {node : Node} (notExpression : node.isExpression = false)
    (named : node.NamedByWord) (children : ∀ child ∈ node.children, child.Formed) :
    node.Formed := by
  rw [Node.formed_iff]
  refine ⟨⟨?_, named, ?_⟩, children⟩
  · rw [notExpression]
    exact fun impossible => absurd impossible (by simp)
  · cases node with
    | name | «attribute» => cases notExpression
    | _ => trivial

def Node.isSimple : Node → Bool
  | .returning .. | .deleting .. | .assign .. | .augAssign .. | .annAssign .. | .raising ..
  | .asserting .. | .importing .. | .importingFrom .. | .declaring .. | .expression ..
  | .plain .. => true
  | _ => false

def Node.isStatement : Node → Bool
  | .functionDef .. | .classDef .. | .forLoop .. | .whileLoop .. | .branch .. | .withBlock ..
  | .matching .. | .tryBlock .. => true
  | node => node.isSimple

/-- What a tree outside expressions is in a text. -/
inductive Role
  | statement
  | context
  | handler
  | arm
  | shape

/-- The trees of each role that a text can spell. Statements stand in blocks and nowhere else. -/
inductive Node.Built : Role → Node → Prop
  | simple {node} : node.isSimple = true → (∀ child ∈ node.children, child.Expression) →
      Built .statement node
  | functionDef {pos isAsync own signature parts body decorators returns} : IsWord own.toList →
      (∀ node ∈ parts, node.Expression) → (∀ node ∈ body, Built .statement node) →
      (∀ node ∈ decorators, node.Expression) → (∀ node ∈ returns, node.Expression) →
      Built .statement (.functionDef pos isAsync own signature parts body decorators returns)
  | classDef {pos own bases keywords body decorators} : IsWord own.toList →
      (∀ node ∈ bases, node.Expression) → (∀ node ∈ keywords, node.Expression) →
      (∀ node ∈ body, Built .statement node) → (∀ node ∈ decorators, node.Expression) →
      Built .statement (.classDef pos own bases keywords body decorators)
  | forLoop {pos isAsync target source body otherwise} : target.Expression → source.Expression →
      (∀ node ∈ body, Built .statement node) → (∀ node ∈ otherwise, Built .statement node) →
      Built .statement (.forLoop pos isAsync target source body otherwise)
  | whileLoop {pos test body otherwise} : test.Expression →
      (∀ node ∈ body, Built .statement node) → (∀ node ∈ otherwise, Built .statement node) →
      Built .statement (.whileLoop pos test body otherwise)
  | branch {pos test body otherwise} : test.Expression →
      (∀ node ∈ body, Built .statement node) → (∀ node ∈ otherwise, Built .statement node) →
      Built .statement (.branch pos test body otherwise)
  | withBlock {pos isAsync items body} : (∀ node ∈ items, Built .context node) →
      (∀ node ∈ body, Built .statement node) →
      Built .statement (.withBlock pos isAsync items body)
  | matching {pos subject cases} : subject.Expression → (∀ node ∈ cases, Built .arm node) →
      Built .statement (.matching pos subject cases)
  | tryBlock {pos isGroup body handlers otherwise cleanup} :
      (∀ node ∈ body, Built .statement node) → (∀ node ∈ handlers, Built .handler node) →
      (∀ node ∈ otherwise, Built .statement node) → (∀ node ∈ cleanup, Built .statement node) →
      Built .statement (.tryBlock pos isGroup body handlers otherwise cleanup)
  | withItem {context target} : context.Expression → (∀ node ∈ target, node.Expression) →
      Built .context (.withItem context target)
  | handlerOf {pos exception label body} : (∀ node ∈ exception, node.Expression) →
      (∀ node ∈ body, Built .statement node) →
      Built .handler (.handler pos exception label body)
  | matchCase {shape guard body} : Built .shape shape → (∀ node ∈ guard, node.Expression) →
      (∀ node ∈ body, Built .statement node) → Built .arm (.matchCase shape guard body)
  | pattern {pos form parts captured} : (∀ node ∈ parts, Built .shape node) →
      Built .shape (.pattern pos form parts captured)
  | value {node} : node.Expression → Built .shape node

theorem Node.Expression.child {node child : Node} (held : node.Expression)
    (isChild : child ∈ node.children) : child.Expression := by
  obtain ⟨fits, formed⟩ := node.formed_iff.mp held.formed
  exact ⟨formed child isChild, fits.expressions held.isExpression child isChild⟩

theorem Node.Built.child {role : Role} {node child : Node} (built : node.Built role)
    (isChild : child ∈ node.children) : child.Expression ∨ ∃ role, child.Built role := by
  cases built with
  | simple _ children => exact .inl (children child isChild)
  | pattern parts => exact .inr ⟨_, parts child isChild⟩
  | value held => exact .inl (held.child isChild)
  | _ =>
      simp only [Node.children, List.mem_append, List.mem_cons, Option.mem_toList] at isChild
      grind

theorem Node.Built.formed {role : Role} {node : Node} (built : node.Built role) : node.Formed := by
  induction node using Node.inductOnChildren generalizing role with
  | step node ih =>
      have children : ∀ child ∈ node.children, child.Formed := by
        intro child isChild
        rcases built.child isChild with held | ⟨role, held⟩
        · exact held.formed
        · exact ih child isChild held
      cases built with
      | simple isSimple =>
          refine .of_children ?_ ?_ children
          · cases node <;> first | rfl | cases isSimple
          · cases node <;> trivial
      | functionDef word | classDef word => exact .of_children rfl word children
      | value held => exact held.formed
      | _ => exact .of_children rfl trivial children

namespace Grammar

/-- Whatever the parser yields on a stream whose names are words has the property. -/
def Parser.Yields {α : Type} (parser : Parser α) (holds : α → Prop) : Prop :=
  ∀ stream : TokenStream, stream.Formed → ∀ (progress : Progress) (value : α) (after : Progress),
    parser stream progress = (.ok value, after) → holds value

namespace Parser.Yields

variable {α β : Type} {holds : α → Prop} {goal : β → Prop}

theorem any (parser : Parser α) : parser.Yields fun _ => True :=
  fun _ _ _ _ _ _ => trivial

theorem pure {value : α} (held : holds value) : Parser.Yields (Pure.pure value) holds := by
  intro stream formed progress found after result
  cases result
  exact held

theorem bind {parser : Parser α} {next : α → Parser β} (first : parser.Yields holds)
    (rest : ∀ value, holds value → (next value).Yields goal) : (parser >>= next).Yields goal := by
  intro stream formed progress found after result
  simp only [Bind.bind, ReaderT.bind, ExceptT.bind, ExceptT.mk, StateT.bind] at result
  cases ran : parser stream progress with
  | mk outcome middle =>
      rw [ran] at result
      cases outcome with
      | error refusal => cases result
      | ok value =>
          exact rest value (first stream formed progress value middle ran) stream formed middle
            found after result

theorem skip {parser : Parser α} {next : α → Parser β} (rest : ∀ value, (next value).Yields goal) :
    (parser >>= next).Yields goal :=
  (any parser).bind fun value _ => rest value

theorem refused {refusal : Refusal} : Parser.Yields (throw refusal : Parser α) holds := by
  intro stream formed progress found after result
  cases result

theorem noMatch : Parser.Yields (Grammar.noMatch : Parser α) holds := refused

theorem ite {condition : Prop} [Decidable condition] {first second : Parser α}
    (whenTrue : first.Yields holds) (whenFalse : second.Yields holds) :
    (if condition then first else second).Yields holds := by
  split
  · exact whenTrue
  · exact whenFalse

theorem checked {condition : Prop} [Decidable condition] {check : Parser Unit}
    {next : Unit → Parser β} (rest : ∀ value, (next value).Yields goal) :
    (if condition then check >>= next else next ()).Yields goal :=
  ite (skip rest) (rest ())

theorem required {condition : Prop} [Decidable condition] {refusal : Parser Unit}
    {next : Unit → Parser β} (rest : ∀ value, (next value).Yields goal) :
    (if condition then next () else refusal >>= next).Yields goal :=
  ite (rest ()) (skip rest)

theorem either {condition : Prop} [Decidable condition] {first second : Parser α}
    {next : α → Parser β} (whenTrue : first.Yields holds) (whenFalse : second.Yields holds)
    (rest : ∀ value, holds value → (next value).Yields goal) :
    (if condition then first >>= next else second >>= next).Yields goal :=
  ite (whenTrue.bind rest) (whenFalse.bind rest)

theorem some {parser : Parser α} (yields : parser.Yields holds) :
    (Option.some <$> parser).Yields fun found => ∀ value ∈ found, holds value := by
  rw [map_eq_pure_bind]
  refine yields.bind fun value held => pure ?_
  intro found same
  rw [← Option.mem_some.mp same]
  exact held

theorem attempt {parser : Parser α} (yields : parser.Yields holds) :
    (Grammar.attempt parser).Yields fun found => ∀ value ∈ found, holds value := by
  intro stream formed progress found after result
  simp only [Grammar.attempt, tryCatch, tryCatchThe, MonadExceptOf.tryCatch, Bind.bind,
    ReaderT.bind, ExceptT.bind, ExceptT.mk, ExceptT.tryCatch, StateT.bind, get, getThe,
    MonadStateOf.get, liftM, monadLift, MonadLift.monadLift, ExceptT.lift, ExceptT.bindCont,
    StateT.get, Functor.map, StateT.map, Pure.pure] at result
  cases ran : parser stream progress with
  | mk outcome middle =>
      rw [ran] at result
      cases outcome with
      | ok value =>
          cases result
          intro other same
          rw [← Option.mem_some.mp same]
          exact yields stream formed progress value _ ran
      | error refusal =>
          cases refusal with
          | noMatch =>
              cases result
              simp
          | fault fault => cases result

theorem iterateFor (invariant : α → Prop) {step : α → Parser (Option α)}
    (keeps : ∀ value, invariant value → (step value).Yields fun next => ∀ new ∈ next, invariant new)
    (fuel : Nat) (value : α) (held : invariant value) :
    (Grammar.iterateFor step fuel value).Yields invariant := by
  induction fuel generalizing value with
  | zero => exact pure held
  | succ fuel ih =>
      refine (keeps value held).bind fun next holdsNext => ?_
      cases next with
      | none => exact pure held
      | some new => exact ih new (holdsNext new rfl)

theorem iterate (invariant : α → Prop) {step : α → Parser (Option α)} {value : α}
    (held : invariant value)
    (keeps : ∀ value, invariant value →
      (step value).Yields fun next => ∀ new ∈ next, invariant new) :
    (Grammar.iterate step value).Yields invariant :=
  skip fun _ => iterateFor invariant keeps _ value held

theorem many {parser : Parser (Option α)}
    (yields : parser.Yields fun found => ∀ value ∈ found, holds value) :
    (Grammar.many parser).Yields fun found => ∀ value ∈ found, holds value := by
  refine bind (iterate (fun found => ∀ value ∈ found, holds value) (by simp) ?_) ?_
  · intro found kept
    refine yields.bind fun next holdsNext => ?_
    cases next with
    | none => exact pure (by simp)
    | some new =>
        refine pure ?_
        intro grown same value member
        rw [← Option.mem_some.mp same] at member
        rcases List.mem_cons.mp member with rfl | earlier
        · exact holdsNext value rfl
        · exact kept value earlier
  · intro found kept
    refine pure ?_
    intro value member
    exact kept value (List.mem_reverse.mp member)

theorem manyAfter {mark : Parser Bool} {item : Parser α} (yields : item.Yields holds) :
    (Grammar.many (do if ← mark then Pure.pure (Option.some (← item)) else Pure.pure none)).Yields
      fun found => ∀ value ∈ found, holds value := by
  refine many (skip fun goesOn => ite ?_ (pure (by simp)))
  refine yields.bind fun value held => pure ?_
  intro found same
  rw [← Option.mem_some.mp same]
  exact held

theorem mapM {items : List β} {run : β → Parser α}
    (yields : ∀ item ∈ items, (run item).Yields holds) :
    (items.mapM run).Yields fun found => ∀ value ∈ found, holds value := by
  induction items with
  | nil =>
      rw [List.mapM_nil]
      exact pure (by simp)
  | cons item rest ih =>
      rw [List.mapM_cons]
      refine (yields item (by simp)).bind fun first holdsFirst => ?_
      refine (ih fun other member => yields other (List.mem_cons_of_mem _ member)).bind
        fun others holdsOthers => pure ?_
      intro value member
      rcases List.mem_cons.mp member with rfl | later
      · exact holdsFirst
      · exact holdsOthers value later

end Parser.Yields

theorem peek_yields : peek.Yields Token.Formed := by
  intro stream formed progress token after result
  conv at result => lhs; whnf
  cases next : stream.tokens[progress.index]? with
  | some found =>
      rw [next] at result
      cases result
      exact formed token (Array.mem_of_getElem? next)
  | none =>
      rw [next] at result
      cases lexical : stream.fault with
      | some found =>
          rw [lexical] at result
          cases result
      | none =>
          rw [lexical] at result
          cases result

theorem expectName_yields : expectName.Yields fun found => IsIdentifier found.2.toList := by
  refine peek_yields.bind fun token formed => ?_
  split
  next text isName => exact .skip fun _ => .pure (formed text isName)
  next => exact .noMatch

end Grammar
end ContractLint.Source
