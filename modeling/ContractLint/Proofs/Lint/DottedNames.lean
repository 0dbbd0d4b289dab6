import ContractLint.Proofs.Lint.CallNames

/-! Dotted names. All readers of full names read the same name: the identifiers from a name on,
climbed from the end of the expression. No two chains of identifiers share one. -/

namespace ContractLint.Lint

open Source Text

/-- An expression is a chain of identifiers: a name with attributes behind it. -/
def Spells (node : Node) (ids : List String) : Prop :=
  ∃ pos id parts, Followed (.name pos id) parts node ∧ ids = id :: parts

theorem Spells.ne_nil {node : Node} {ids : List String} (spells : Spells node ids) : ids ≠ [] := by
  obtain ⟨pos, id, parts, _, rfl⟩ := spells
  exact List.cons_ne_nil id parts

theorem spells_iff {node : Node} {ids : List String} :
    Spells node ids ↔ nameParts node = some ids := by
  constructor
  · rintro ⟨pos, id, parts, followed, rfl⟩
    rw [followed.nameParts_eq]
    rfl
  · intro named
    rcases exists_followed node with ⟨pos, id, parts, followed⟩ | ⟨value, parts, unnamed, followed⟩
    · rw [followed.nameParts_eq] at named
      exact ⟨pos, id, parts, followed, (Option.some.inj named).symm⟩
    · rw [followed.nameParts_eq, nameParts_of_unnamed unnamed] at named
      cases named

theorem dottedName_eq_some_iff {node : Node} {name : String} :
    dottedName node = some name ↔ ∃ ids, Spells node ids ∧ joinParts ids = name := by
  simp only [dottedName_eq, Option.map_eq_some_iff, spells_iff]

theorem dottedName_eq_none_iff {node : Node} :
    dottedName node = none ↔ ¬∃ ids, Spells node ids := by
  rw [dottedName_eq, Option.map_eq_none_iff, Option.eq_none_iff_forall_ne_some]
  simp only [spells_iff, not_exists, ne_eq]

/-- An expression calls the callee, or calls what such a call gives, to any depth. -/
inductive Applied (callee : Node) : Node → Prop
  | here : Applied callee callee
  | further {node pos args keywords} : Applied callee node →
      Applied callee (.call pos node args keywords)

theorem Applied.decoratorName_eq {callee node : Node} (applied : Applied callee node) :
    decoratorName node = decoratorName callee := by
  induction applied with
  | here => rfl
  | further _ ih => rw [decoratorName, ih]

theorem joinParts_cons (first next : String) (rest : List String) :
    joinParts (first :: next :: rest) = first ++ "." ++ joinParts (next :: rest) :=
  String.intercalate_cons_cons

theorem joinParts_injective {ids others : List String} (inner : ids ≠ []) (alsoInner : others ≠ [])
    (undotted : ∀ id ∈ ids, '.' ∉ id.toList) (alsoUndotted : ∀ id ∈ others, '.' ∉ id.toList)
    (same : joinParts ids = joinParts others) : ids = others := by
  induction ids generalizing others with
  | nil => exact absurd rfl inner
  | cons first rest ih =>
      obtain ⟨other, more, rfl⟩ := List.exists_cons_of_ne_nil alsoInner
      have noDot := undotted first List.mem_cons_self
      have alsoNoDot := alsoUndotted other List.mem_cons_self
      cases rest with
      | nil =>
          cases more with
          | nil => rw [show first = other by simpa [joinParts] using same]
          | cons next more =>
              rw [joinParts_cons, show joinParts [first] = first by simp [joinParts]] at same
              exact absurd (by simp [same]) noDot
      | cons next rest =>
          cases more with
          | nil =>
              rw [joinParts_cons, show joinParts [other] = other by simp [joinParts]] at same
              exact absurd (by simp [← same]) alsoNoDot
          | cons otherNext more =>
              have chars : first.toList ++ '.' :: (joinParts (next :: rest)).toList =
                  other.toList ++ '.' :: (joinParts (otherNext :: more)).toList := by
                simpa [joinParts_cons] using congrArg String.toList same
              obtain ⟨sameFirst, sameRest⟩ := append_mark_inj noDot alsoNoDot chars
              rw [String.toList_inj.mp sameFirst, ih (List.cons_ne_nil _ _) (List.cons_ne_nil _ _)
                (fun id member => undotted id (List.mem_cons_of_mem _ member))
                (fun id member => alsoUndotted id (List.mem_cons_of_mem _ member))
                (String.toList_inj.mp sameRest)]

theorem joinParts_ne_empty {first : String} (labelled : first ≠ "") (rest : List String) :
    joinParts (first :: rest) ≠ "" := by
  cases rest with
  | nil => simpa [joinParts] using labelled
  | cons next rest => simp [joinParts_cons]

def Stands (node : Node) : Prop :=
  ∃ source module above, parse source = .ok module ∧ (above, node) ∈ module.occurrences

theorem Stands.undotted {node : Node} (stands : Stands node) {ids : List String}
    (spells : Spells node ids) : ∀ id ∈ ids, '.' ∉ id.toList := by
  obtain ⟨source, module, above, parsed, occurs⟩ := stands
  rw [← trailingParts_eq (spells_iff.mp spells)]
  intro id member
  exact dot_notMem_of_word (trailingParts_words (parse_formed parsed) occurs id member)

theorem Followed.stands {value node : Node} {parts : List String}
    (followed : Followed value parts node) (stands : Stands node) : Stands value := by
  induction followed with
  | here => exact stands
  | further _ ih =>
      obtain ⟨source, module, above, parsed, occurs⟩ := stands
      exact ih ⟨source, module, _, parsed,
        Module.occurrences_inner occurs List.mem_cons_self⟩

theorem Stands.dottedName_ne_empty {node : Node} (stands : Stands node) :
    dottedName node ≠ some "" := by
  intro spelled
  obtain ⟨_, ⟨pos, id, parts, followed, rfl⟩, isEmpty⟩ := dottedName_eq_some_iff.mp spelled
  obtain ⟨source, module, above, parsed, occurs⟩ := followed.stands stands
  exact joinParts_ne_empty ((parse_formed parsed).fits occurs).labelled parts isEmpty

/-- All readers read one name from an expression, whatever they make of it and of its absence, and it
tells the chain of identifiers: an expression without one is no such chain, a decorator goes by its
innermost callee, and of two expressions with one name both are the same chain. -/
theorem full_names_agree (node : Node) :
    (∀ {α : Type} (found : String → α) (absent : α),
      climbedName found absent node = ((dottedName node).map found).getD absent) ∧
    fullCallName? node = dottedName node ∧
    fullCallName node = (dottedName node).getD "" ∧
    plainDecoratorName node = (dottedName node).getD "" ∧
    (isCall node = false → decoratorName node = dottedName node) ∧
    (∀ decorator, Applied node decorator → isCall node = false →
      decoratorName decorator = dottedName node) ∧
    (dottedName node = none ↔ ¬∃ ids, Spells node ids) ∧
    (Stands node → (fullCallName node = "" ↔ ¬∃ ids, Spells node ids)) ∧
    (Stands node → (plainDecoratorName node = "" ↔ ¬∃ ids, Spells node ids)) ∧
    ∀ other name, Stands node → Stands other → dottedName node = some name →
      dottedName other = some name → ∃ ids, Spells node ids ∧ Spells other ids := by
  have emptied (stands : Stands node) :
      (dottedName node).getD "" = "" ↔ ¬∃ ids, Spells node ids := by
    rw [← dottedName_eq_none_iff]
    have notEmpty := stands.dottedName_ne_empty
    cases spelled : dottedName node with
    | none => simp
    | some name =>
        rw [spelled] at notEmpty
        simpa using notEmpty
  refine ⟨fun found absent => climbedName_eq found absent node, fullCallName?_eq node,
    fullCallName_eq node, plainDecoratorName_eq node, decoratorName_eq, ?_, dottedName_eq_none_iff,
    ?_, ?_, ?_⟩
  · intro decorator applied plain
    rw [applied.decoratorName_eq, decoratorName_eq plain]
  · rw [fullCallName_eq]
    exact emptied
  · rw [plainDecoratorName_eq]
    exact emptied
  · intro other name stands otherStands spelled otherSpelled
    obtain ⟨ids, spells, joined⟩ := dottedName_eq_some_iff.mp spelled
    obtain ⟨others, otherSpells, otherJoined⟩ := dottedName_eq_some_iff.mp otherSpelled
    have same := joinParts_injective spells.ne_nil otherSpells.ne_nil (stands.undotted spells)
      (otherStands.undotted otherSpells) (joined.trans otherJoined.symm)
    rw [← same] at otherSpells
    exact ⟨ids, spells, otherSpells⟩

theorem exists_stands (text : String) (holds : Node → Bool)
    (found : (parse text).toOption.any (·.nodes.any holds) = true) :
    ∃ node, Stands node ∧ holds node = true := by
  obtain ⟨module, parsed, facts⟩ := exists_parsed found
  obtain ⟨node, isNode, holdsNode⟩ := List.any_eq_true.mp facts
  rw [Module.nodes_eq_map] at isNode
  obtain ⟨⟨above, _⟩, occurs, rfl⟩ := List.mem_map.mp isNode
  exact ⟨_, ⟨text, module, above, parsed, occurs⟩, holdsNode⟩

theorem full_names_agree_spaced : ∃ node other ids, Stands node ∧ Stands other ∧
    dottedName node = some "gl.nondet.web" ∧ dottedName other = some "gl.nondet.web" ∧
    Spells node ids ∧ Spells other ids ∧ fullCallName node ≠ "" ∧
    decoratorName (.call ⟨1, 0⟩ (.call ⟨1, 0⟩ node [] []) [] []) = dottedName node := by
  obtain ⟨node, stands, facts⟩ := exists_stands "(gl . nondet\n) . web()"
    (dottedName · = some "gl.nondet.web") (by decide +kernel)
  obtain ⟨other, otherStands, otherFacts⟩ := exists_stands "gl.nondet.web"
    (dottedName · = some "gl.nondet.web") (by decide +kernel)
  simp only [decide_eq_true_eq] at facts otherFacts
  obtain ⟨_, _, _, _, _, nested, _, filled, _, sameChain⟩ := full_names_agree node
  obtain ⟨ids, spells, otherSpells⟩ := sameChain other _ stands otherStands facts otherFacts
  refine ⟨node, other, ids, stands, otherStands, facts, otherFacts, spells, otherSpells, ?_, ?_⟩
  · exact fun isEmpty => (filled stands).mp isEmpty ⟨ids, spells⟩
  · refine nested _ (.further (.further .here)) ?_
    cases node with
    | call => cases facts
    | _ => rfl

end ContractLint.Lint
