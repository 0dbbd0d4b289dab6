import ContractLint.Proofs.Source.Occurrences
import ContractLint.Proofs.Source.Statements

/-! Trees of which some nodes are not entered: what is left of a tree then, and how much is lost
when further nodes are not entered either. -/

namespace ContractLint.Source

/-- The nodes of a tree that are not below a closed one, each before the nodes below it. -/
def Node.nodesOutside (closed : Node → Bool) (node : Node) : List Node :=
  ((node.walk (fun hidden outer => hidden || closed outer) false).filter (!·.1)).map (·.2)

theorem Node.filter_walk_hidden (closed : Node → Bool) (node : Node) :
    (node.walk (fun hidden outer => hidden || closed outer) true).filter (!·.1) = [] := by
  induction node using Node.inductOnChildren with
  | step node ih =>
      rw [Node.walk_eq, List.filter_cons, List.filter_flatMap]
      simpa using ih

theorem Node.nodesOutside_eq (closed : Node → Bool) (node : Node) :
    node.nodesOutside closed =
      node :: if closed node then [] else node.children.flatMap (Node.nodesOutside closed) := by
  unfold Node.nodesOutside
  rw [Node.walk_eq, List.filter_cons, List.filter_flatMap]
  cases closed node with
  | true => simp [Node.filter_walk_hidden]
  | false => simp [List.map_flatMap]

theorem Node.mem_nodesOutside_self {closed : Node → Bool} (node : Node) :
    node ∈ node.nodesOutside closed := by
  rw [Node.nodesOutside_eq]
  exact List.mem_cons_self

theorem Node.exists_child_of_mem {closed : Node → Bool} {node inner : Node}
    (below : inner ∈ if closed node then [] else
      node.children.flatMap (Node.nodesOutside closed)) :
    closed node = false ∧ ∃ child ∈ node.children, inner ∈ child.nodesOutside closed := by
  cases isClosed : closed node with
  | true => simp [isClosed] at below
  | false =>
      rw [if_neg (by simp [isClosed])] at below
      exact ⟨rfl, List.mem_flatMap.mp below⟩

theorem Node.mem_nodesOutside_child {closed : Node → Bool} {node child inner : Node}
    (isOpen : closed node = false) (isChild : child ∈ node.children)
    (isInner : inner ∈ child.nodesOutside closed) : inner ∈ node.nodesOutside closed := by
  rw [Node.nodesOutside_eq, if_neg (by simp [isOpen])]
  exact List.mem_cons_of_mem _ (List.mem_flatMap.mpr ⟨child, isChild, isInner⟩)

theorem Node.mem_nodesOutside_trans {closed : Node → Bool} {node outer inner : Node}
    (isOuter : outer ∈ node.nodesOutside closed) (isInner : inner ∈ outer.nodesOutside closed) :
    inner ∈ node.nodesOutside closed := by
  induction node using Node.inductOnChildren with
  | step node ih =>
      rw [Node.nodesOutside_eq, List.mem_cons] at isOuter
      rcases isOuter with rfl | below
      · exact isInner
      · obtain ⟨isOpen, child, isChild, isOuter⟩ := Node.exists_child_of_mem below
        exact Node.mem_nodesOutside_child isOpen isChild (ih child isChild isOuter)

theorem sublist_flatMap {α β : Type} {items : List α} {first second : α → List β}
    (each : ∀ item ∈ items, (first item).Sublist (second item)) :
    (items.flatMap first).Sublist (items.flatMap second) := by
  induction items with
  | nil => exact List.Sublist.refl []
  | cons item rest ih =>
      rw [List.forall_mem_cons] at each
      exact each.1.append (ih each.2)

theorem flatMap_eq_iff {α β : Type} {items : List α} {first second : α → List β}
    (each : ∀ item ∈ items, (first item).Sublist (second item)) :
    items.flatMap first = items.flatMap second ↔ ∀ item ∈ items, first item = second item := by
  induction items with
  | nil => simp
  | cons item rest ih =>
      rw [List.forall_mem_cons] at each ⊢
      rw [← ih each.2, List.flatMap_cons, List.flatMap_cons]
      constructor
      · intro same
        have lengths := congrArg List.length same
        have here := each.1.length_le
        have later := (sublist_flatMap each.2).length_le
        rw [List.length_append, List.length_append] at lengths
        exact ⟨each.1.eq_of_length (by omega), (sublist_flatMap each.2).eq_of_length (by omega)⟩
      · rintro ⟨here, later⟩
        rw [here, later]

section Passed

variable {closed passed chosen : Node → Bool}

theorem Node.nodesOutside_or_sublist (node : Node) :
    (node.nodesOutside fun outer => closed outer || passed outer).Sublist
      (node.nodesOutside closed) := by
  induction node using Node.inductOnChildren with
  | step node ih =>
      rw [Node.nodesOutside_eq, Node.nodesOutside_eq]
      refine List.Sublist.cons_cons _ ?_
      cases closed node with
      | true => simp
      | false =>
          cases passed node with
          | true => simp
          | false => simpa using sublist_flatMap ih

theorem Node.mem_nodesOutside_or {node inner : Node} (isInner : inner ∈ node.nodesOutside closed) :
    (inner ∈ node.nodesOutside fun outer => closed outer || passed outer) ∨
      ∃ outer ∈ node.nodesOutside closed, passed outer = true ∧
        inner ∈ outer.nodesOutside closed := by
  induction node using Node.inductOnChildren with
  | step node ih =>
      cases isPassed : passed node with
      | true => exact .inr ⟨node, node.mem_nodesOutside_self, isPassed, isInner⟩
      | false =>
          rw [Node.nodesOutside_eq, List.mem_cons] at isInner
          rcases isInner with rfl | below
          · exact .inl (Node.mem_nodesOutside_self _)
          · obtain ⟨isOpen, child, isChild, isInner⟩ := Node.exists_child_of_mem below
            rcases ih child isChild isInner with kept | ⟨outer, isOuter, held⟩
            · exact .inl (Node.mem_nodesOutside_child (by simp [isOpen, isPassed]) isChild kept)
            · exact .inr ⟨outer, Node.mem_nodesOutside_child isOpen isChild isOuter, held⟩

def NoneChosen (closed passed chosen : Node → Bool) (nodes : List Node) : Prop :=
  ∀ outer ∈ nodes.flatMap (Node.nodesOutside closed), passed outer = true →
    ∀ inner ∈ outer.nodesOutside closed, chosen inner = false

theorem noneChosen_iff {nodes : List Node} : NoneChosen closed passed chosen nodes ↔
    ∀ node ∈ nodes, NoneChosen closed passed chosen [node] := by
  simp only [NoneChosen, List.mem_flatMap, List.mem_singleton, exists_eq_left]
  constructor
  · exact fun none node member outer isOuter => none outer ⟨node, member, isOuter⟩
  · exact fun none outer ⟨node, member, isOuter⟩ => none node member outer isOuter

theorem filter_flatMap_nodesOutside_or_eq_iff {nodes : List Node}
    (each : ∀ node ∈ nodes,
      (node.nodesOutside fun outer => closed outer || passed outer).filter chosen =
        (node.nodesOutside closed).filter chosen ↔ NoneChosen closed passed chosen [node]) :
    (nodes.flatMap (Node.nodesOutside fun outer => closed outer || passed outer)).filter chosen =
        (nodes.flatMap (Node.nodesOutside closed)).filter chosen ↔
      NoneChosen closed passed chosen nodes := by
  rw [List.filter_flatMap, List.filter_flatMap, noneChosen_iff,
    flatMap_eq_iff fun node _ => node.nodesOutside_or_sublist.filter chosen]
  exact forall₂_congr each

theorem Node.filter_nodesOutside_or_eq_iff
    (apart : ∀ node, passed node = true → chosen node = false) (node : Node) :
    (node.nodesOutside fun outer => closed outer || passed outer).filter chosen =
        (node.nodesOutside closed).filter chosen ↔ NoneChosen closed passed chosen [node] := by
  induction node using Node.inductOnChildren with
  | step node ih =>
      have below := filter_flatMap_nodesOutside_or_eq_iff ih
      unfold NoneChosen at below ⊢
      rw [List.flatMap_singleton]
      cases isPassed : passed node with
      | true =>
          -- Nothing below the node is kept, and it stands for all passed nodes below it.
          have kept : (node.nodesOutside fun outer => closed outer || passed outer) = [node] := by
            rw [Node.nodesOutside_eq, if_pos (by simp [isPassed])]
          rw [kept, List.filter_singleton, apart node isPassed, cond_false, eq_comm,
            List.filter_eq_nil_iff]
          simp only [Bool.not_eq_true]
          constructor
          · intro none outer isOuter _ inner isInner
            exact none inner (Node.mem_nodesOutside_trans isOuter isInner)
          · intro none
            exact none node node.mem_nodesOutside_self isPassed
      | false =>
          rw [Node.nodesOutside_eq, Node.nodesOutside_eq closed node, isPassed, Bool.or_false]
          cases closed node with
          | true => simp [isPassed]
          | false =>
              simp only [Bool.false_eq_true, if_false, List.forall_mem_cons, isPassed,
                IsEmpty.forall_iff, true_and]
              rw [← below, List.filter_cons, List.filter_cons]
              split
              · exact List.cons_inj_right node
              · exact Iff.rfl

theorem filter_nodesOutside_or_eq_iff (apart : ∀ node, passed node = true → chosen node = false)
    (nodes : List Node) :
    (nodes.flatMap (Node.nodesOutside fun outer => closed outer || passed outer)).filter chosen =
        (nodes.flatMap (Node.nodesOutside closed)).filter chosen ↔
      NoneChosen closed passed chosen nodes :=
  filter_flatMap_nodesOutside_or_eq_iff fun node _ => node.filter_nodesOutside_or_eq_iff apart

end Passed

end ContractLint.Source
