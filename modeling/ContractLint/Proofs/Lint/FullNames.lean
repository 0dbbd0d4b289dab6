import ContractLint.Lint.Block

/-! Full names. Every rule climbs the attributes of a callee, a base or a decorator for itself, and
where it comes to no name some say so and some take the empty one. What they make of the climb
depends on the identifiers that it passes. -/

namespace ContractLint.Lint

open Source

def nameParts : Node → Option (List String)
  | .name _ id => some [id]
  | .attribute _ value attr => (nameParts value).map (· ++ [attr])
  | _ => none

theorem trailingParts_eq {node : Node} {parts : List String} (named : nameParts node = some parts) :
    trailingParts node = parts := by
  fun_induction nameParts node generalizing parts with
  | case1 => exact Option.some.inj named
  | case2 pos value attr ih =>
      obtain ⟨first, isFirst, rfl⟩ := Option.map_eq_some_iff.mp named
      rw [trailingParts, ih isFirst]
  | case3 => cases named

theorem nameFrom_climb {α : Type} (found : String → α) (absent : α) (node : Node)
    (passed : List String) : nameFrom found absent (climb passed node) =
      ((nameParts node).map fun parts => found (joinParts (parts ++ passed))).getD absent := by
  fun_induction nameParts node generalizing passed with
  | case1 => rfl
  | case2 pos value attr ih =>
      rw [climb, ih, Option.map_map]
      simp only [Function.comp_def, List.append_assoc, List.singleton_append]
  | case3 node notName notAttribute =>
      cases node with
      | name pos id => exact absurd rfl (notName pos id)
      | «attribute» pos value attr => exact absurd rfl (notAttribute pos value attr)
      | _ => rfl

theorem dottedName_eq (node : Node) : dottedName node = (nameParts node).map joinParts := by
  rw [dottedName, climbedName, nameFrom_climb]
  cases nameParts node with
  | none => rfl
  | some parts => simp

theorem climbedName_eq {α : Type} (found : String → α) (absent : α) (node : Node) :
    climbedName found absent node = ((dottedName node).map found).getD absent := by
  rw [climbedName, nameFrom_climb, dottedName_eq, Option.map_map]
  simp only [List.append_nil, Function.comp_def]

theorem fullCallName?_eq (callee : Node) : fullCallName? callee = dottedName callee := rfl

theorem fullCallName_eq (callee : Node) : fullCallName callee = (dottedName callee).getD "" := by
  rw [fullCallName, climbedName_eq, Option.map_id_fun, id]

theorem plainDecoratorName_eq (decorator : Node) :
    plainDecoratorName decorator = (dottedName decorator).getD "" := by
  cases decorator with
  | name pos id => simp [plainDecoratorName, dottedName_eq, nameParts, joinParts]
  | «attribute» pos value attr => exact fullCallName_eq (.attribute pos value attr)
  | _ => rfl

def isCall : Node → Bool
  | .call .. => true
  | _ => false

theorem decoratorName_eq {decorator : Node} (plain : isCall decorator = false) :
    decoratorName decorator = dottedName decorator := by
  cases decorator with
  | call => cases plain
  | name pos id => simp [decoratorName, dottedName_eq, nameParts, joinParts]
  | _ => rfl

theorem contains_getD_eq {table : List String} (named : table.contains "" = false)
    (name : Option String) : table.contains (name.getD "") = name.any table.contains := by
  cases name with
  | none => exact named
  | some name => rfl

theorem isStrictEquality_eq (callee : Node) :
    isStrictEquality callee = (dottedName callee).any strictEqualityNames.contains := by
  rw [isStrictEquality, fullCallName_eq, contains_getD_eq (by decide)]

/-- Callees and decorators are each read in a way of their own, with the same outcome. -/
theorem isStrictDecorator_eq (decorator : Node) :
    isStrictDecorator decorator = isStrictEquality decorator := by
  rw [isStrictDecorator, plainDecoratorName_eq, isStrictEquality, fullCallName_eq]

end ContractLint.Lint
