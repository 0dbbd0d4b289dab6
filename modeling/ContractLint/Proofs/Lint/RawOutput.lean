import ContractLint.Proofs.Lint.ReturnStatements

/-! The search for raw output among the returns of a function. It ends at the first return that is
raw or that calls a known function; if that function has no raw output, the returns after it are not
looked at any more. -/

namespace ContractLint.Lint

open Source

/-- What a return statement comes to: a raw call, the first of a variable that is given raw calls
only, or the raw output of a known function, in which no further function is followed. A known
function may have none; all other return statements come to nothing. -/
inductive ComesTo (definitions : Definitions) (body : List Node) : Node → Option RawCall → Prop
  | call {pos value raw} : rawCall? value = some raw →
      ComesTo definitions body (.returning pos (some value)) (some raw)
  | passed {pos value place id first rest source} : awaited value = .name place id →
      (bodyAssignments body).filter (·.target = id) = first :: rest →
      (∀ assignment ∈ first :: rest, assignment.source ≠ none) → first.source = some source →
      ComesTo definitions body (.returning pos (some value)) (some ⟨source, first.line⟩)
  | helper {pos value place spot id args keywords inner} : rawCall? value = none →
      awaited value = .call place (.name spot id) args keywords →
      definitions.lookup id = some inner →
      ComesTo definitions body (.returning pos (some value)) (directRawOutput inner)

def outcomeAt? (assignments : List VariableAssignment)
    (follow : String → Option (Option RawCall)) : Node → Option (Option RawCall)
  | .returning _ (some value) =>
    match rawCall? value with
    | some call => some (some call)
    | none =>
      match awaited value with
      | .name _ id => (rawVariable? assignments id).map some
      | .call _ (.name _ id) _ _ => follow id
      | _ => none
  | _ => none

theorem firstRaw_eq (assignments : List VariableAssignment)
    (follow : String → Option (Option RawCall)) (returns : List Node) :
    firstRaw assignments follow returns =
      (returns.findSome? (outcomeAt? assignments follow)).join := by
  fun_induction firstRaw assignments follow returns with
  | case1 => rfl
  | case2 pos value rest call isCall => simp [outcomeAt?, isCall]
  | case3 pos value rest notCall place id isName call isVariable =>
      simp [outcomeAt?, notCall, isName, isVariable]
  | case4 pos value rest notCall place id isName notVariable ih =>
      simp [outcomeAt?, notCall, isName, notVariable, ih]
  | case5 pos value rest notCall place spot id args keywords isCall outcome follows =>
      simp [outcomeAt?, notCall, isCall, follows]
  | case6 pos value rest notCall place spot id args keywords isCall notKnown ih =>
      simp [outcomeAt?, notCall, isCall, notKnown, ih]
  | case7 pos value rest notCall notName notBare ih =>
      have goesOn : outcomeAt? assignments follow (.returning pos (some value)) = none := by
        simp only [outcomeAt?, notCall]
      simp only [List.findSome?_cons, goesOn, ih]
  | case8 returned rest bare ih =>
      have goesOn : outcomeAt? assignments follow returned = none := by
        unfold outcomeAt?
        split
        next pos value => exact absurd rfl (bare pos value)
        next => rfl
      simp only [List.findSome?_cons, goesOn, ih]

theorem rawVariable?_eq_some_iff {assignments : List VariableAssignment} {id : String}
    {raw : RawCall} : rawVariable? assignments id = some raw ↔
      ∃ first rest source, assignments.filter (·.target = id) = first :: rest ∧
        (∀ assignment ∈ first :: rest, assignment.source ≠ none) ∧ first.source = some source ∧
        ⟨source, first.line⟩ = raw := by
  unfold rawVariable?
  constructor
  · intro found
    split at found
    next => cases found
    next first rest listed =>
      obtain ⟨allRaw, named⟩ := Option.ite_none_right_eq_some.mp found
      obtain ⟨source, isSource, same⟩ := Option.map_eq_some_iff.mp named
      refine ⟨first, rest, source, listed, fun assignment member => ?_, isSource, same⟩
      exact Option.isSome_iff_ne_none.mp (List.all_eq_true.mp allRaw assignment member)
  · rintro ⟨first, rest, source, listed, allRaw, isSource, same⟩
    have all : (first :: rest).all (·.source.isSome) = true :=
      List.all_eq_true.mpr fun assignment member =>
        Option.isSome_iff_ne_none.mpr (allRaw assignment member)
    simp only [listed, all, if_true, isSource, Option.map_some, same]

section

variable {definitions : Definitions} {body : List Node} {returned : Node}

def outcome? (definitions : Definitions) (body : List Node) : Node → Option (Option RawCall) :=
  outcomeAt? (bodyAssignments body) fun id => (definitions.lookup id).map directRawOutput

theorem rawOutput_eq (definitions : Definitions) (body : List Node) :
    rawOutput definitions body = ((bodyReturns body).findSome? (outcome? definitions body)).join :=
  firstRaw_eq _ _ _

theorem outcome?_eq_some_iff {outcome : Option RawCall} :
    outcome? definitions body returned = some outcome ↔
      ComesTo definitions body returned outcome := by
  constructor
  · intro ends
    unfold outcome? outcomeAt? at ends
    split at ends
    next pos value =>
      split at ends
      next call isCall =>
        cases ends
        exact .call isCall
      next notCall =>
        split at ends
        next place id isName =>
          obtain ⟨raw, found, rfl⟩ := Option.map_eq_some_iff.mp ends
          obtain ⟨first, rest, source, listed, allRaw, isSource, rfl⟩ :=
            rawVariable?_eq_some_iff.mp found
          exact .passed isName listed allRaw isSource
        next isCall =>
          obtain ⟨inner, known, rfl⟩ := Option.map_eq_some_iff.mp ends
          exact .helper notCall isCall known
        next => cases ends
    next => cases ends
  · intro comesTo
    cases comesTo with
    | call isCall => simp [outcome?, outcomeAt?, isCall]
    | @passed _ value _ _ _ _ _ isName listed allRaw isSource =>
        have notCall : rawCall? value = none := by
          rw [rawCall?, isName]
          rfl
        have found := rawVariable?_eq_some_iff.mpr ⟨_, _, _, listed, allRaw, isSource, rfl⟩
        simp [outcome?, outcomeAt?, notCall, isName, found]
    | helper notCall isCall known => simp [outcome?, outcomeAt?, notCall, isCall, known]

theorem outcome?_eq_none_iff :
    outcome? definitions body returned = none ↔
      ∀ outcome, ¬ComesTo definitions body returned outcome := by
  simp only [Option.eq_none_iff_forall_ne_some, ne_eq, outcome?_eq_some_iff]

theorem ComesTo.unique {first second : Option RawCall}
    (comesTo : ComesTo definitions body returned first)
    (alsoTo : ComesTo definitions body returned second) : first = second :=
  Option.some.inj ((outcome?_eq_some_iff.mpr comesTo).symm.trans (outcome?_eq_some_iff.mpr alsoTo))

/-- The search ends at a return statement, with what that comes to. -/
def EndsAt (definitions : Definitions) (body : List Node) (returned : Node)
    (outcome : Option RawCall) : Prop :=
  ∃ before after, bodyReturns body = before ++ returned :: after ∧
    ComesTo definitions body returned outcome ∧
    ∀ earlier ∈ before, ∀ other, ¬ComesTo definitions body earlier other

theorem search_eq_some_iff {outcome : Option RawCall} :
    (bodyReturns body).findSome? (outcome? definitions body) = some outcome ↔
      ∃ returned, EndsAt definitions body returned outcome := by
  rw [List.findSome?_eq_some_iff]
  simp only [outcome?_eq_some_iff, outcome?_eq_none_iff]
  exact exists_comm

theorem rawOutput_eq_some_iff {raw : RawCall} :
    rawOutput definitions body = some raw ↔
      ∃ returned, EndsAt definitions body returned (some raw) := by
  rw [rawOutput_eq, Option.join_eq_some_iff, search_eq_some_iff]

theorem EndsAt.rawOutput_eq {outcome : Option RawCall}
    (ends : EndsAt definitions body returned outcome) : rawOutput definitions body = outcome := by
  rw [Lint.rawOutput_eq, search_eq_some_iff.mpr ⟨returned, ends⟩]
  rfl

theorem EndsAt.mem_bodyReturns {outcome : Option RawCall}
    (ends : EndsAt definitions body returned outcome) : returned ∈ bodyReturns body := by
  obtain ⟨before, after, split, _⟩ := ends
  simp [split]

theorem exists_endsAt {outcome : Option RawCall} (member : returned ∈ bodyReturns body)
    (comesTo : ComesTo definitions body returned outcome) :
    ∃ last final, EndsAt definitions body last final := by
  have found : ((bodyReturns body).findSome? (outcome? definitions body)).isSome = true := by
    rw [List.findSome?_isSome_iff]
    exact ⟨returned, member, by rw [outcome?_eq_some_iff.mpr comesTo]; rfl⟩
  obtain ⟨final, isFinal⟩ := Option.isSome_iff_exists.mp found
  obtain ⟨last, ends⟩ := search_eq_some_iff.mp isFinal
  exact ⟨last, final, ends⟩

theorem rawOutput_eq_none_of_helper {before after : List Node}
    (split : bodyReturns body = before ++ returned :: after)
    (comesTo : ComesTo definitions body returned none)
    (none : ∀ earlier ∈ before, ∀ raw, ¬ComesTo definitions body earlier (some raw)) :
    rawOutput definitions body = .none := by
  rw [rawOutput_eq, split, List.findSome?_append]
  cases found : before.findSome? (outcome? definitions body) with
  | none => simp [outcome?_eq_some_iff.mpr comesTo]
  | some outcome =>
      obtain ⟨earlier, member, isOutcome⟩ := List.exists_of_findSome?_eq_some found
      cases outcome with
      | none => rfl
      | some raw => exact absurd (outcome?_eq_some_iff.mp isOutcome) (none earlier member raw)

end

/-- There is raw output exactly if some return statement of the body comes to it, and then it is
what the first such statement comes to. -/
def FindsFirst (definitions : Definitions) (body : List Node) : Prop :=
  (rawOutput definitions body ≠ none ↔
    ∃ returned ∈ bodyReturns body, ∃ raw, ComesTo definitions body returned (some raw)) ∧
  ∀ raw, rawOutput definitions body = some raw →
    ∃ before returned after, bodyReturns body = before ++ returned :: after ∧
      ComesTo definitions body returned (some raw) ∧
      ∀ earlier ∈ before, ∀ other, ¬ComesTo definitions body earlier (some other)

/-- The search finds what the first return statement that comes to anything comes to. So it finds
the first raw output exactly if no return statement before all the raw ones calls a known function
that has none. -/
theorem rawOutput_findsFirst_iff (definitions : Definitions) (body : List Node) :
    (∀ raw, rawOutput definitions body = some raw ↔
      ∃ returned, EndsAt definitions body returned (some raw)) ∧
    (FindsFirst definitions body ↔
      ∀ before returned after, bodyReturns body = before ++ returned :: after →
        ComesTo definitions body returned none →
        (∃ earlier ∈ before, ∃ raw, ComesTo definitions body earlier (some raw)) ∨
          ∀ later ∈ after, ∀ raw, ¬ComesTo definitions body later (some raw)) := by
  refine ⟨fun raw => rawOutput_eq_some_iff, ?_, ?_⟩
  · rintro ⟨finds, _⟩ before returned after split comesTo
    by_contra missed
    push Not at missed
    obtain ⟨noneBefore, later, member, raw, isRaw⟩ := missed
    refine finds.mpr ⟨later, ?_, raw, isRaw⟩ (rawOutput_eq_none_of_helper split comesTo noneBefore)
    rw [split]
    exact List.mem_append_right _ (List.mem_cons_of_mem _ member)
  · intro reaches
    have first : ∀ raw, rawOutput definitions body = some raw →
        ∃ before returned after, bodyReturns body = before ++ returned :: after ∧
          ComesTo definitions body returned (some raw) ∧
          ∀ earlier ∈ before, ∀ other, ¬ComesTo definitions body earlier (some other) := by
      intro raw found
      obtain ⟨returned, before, after, split, comesTo, nothing⟩ := rawOutput_eq_some_iff.mp found
      exact ⟨before, returned, after, split, comesTo, fun earlier member other =>
        nothing earlier member (some other)⟩
    refine ⟨⟨fun found => ?_, ?_⟩, first⟩
    · obtain ⟨raw, isRaw⟩ := Option.ne_none_iff_exists'.mp found
      obtain ⟨before, returned, after, split, comesTo, _⟩ := first raw isRaw
      exact ⟨returned, by simp [split], raw, comesTo⟩
    · rintro ⟨returned, member, raw, isRaw⟩ missing
      obtain ⟨last, final, ends⟩ := exists_endsAt member isRaw
      have noFinal : final = none := ends.rawOutput_eq.symm.trans missing
      subst noFinal
      obtain ⟨before, after, split, comesTo, nothing⟩ := ends
      rw [split, List.mem_append, List.mem_cons] at member
      rcases member with earlier | rfl | later
      · exact nothing returned earlier _ isRaw
      · cases comesTo.unique isRaw
      · rcases reaches before last after split comesTo with ⟨other, sooner, _, alsoRaw⟩ | noneAfter
        · exact nothing other sooner _ alsoRaw
        · exact noneAfter returned later raw isRaw

def helperFirstText : String :=
  "def h():return 0\ndef f():\n if x:return h()\n return exec_prompt()"

theorem raw_output_after_helper_unseen : ∃ module function own body,
    parse helperFirstText = .ok module ∧ ([], function) ∈ module.occurrences ∧
      functionBody? function = some (own, body) ∧
      rawOutput (definitionsIn module.body) body = none ∧
      (∃ returned ∈ bodyReturns body,
        ComesTo (definitionsIn module.body) body returned (some ⟨"exec_prompt", 4⟩)) ∧
      ¬FindsFirst (definitionsIn module.body) body := by
  obtain ⟨module, function, own, body, parsed, occurs, defines, facts⟩ :=
    exists_function helperFirstText
      (fun module body => decide (rawOutput (definitionsIn module.body) body = none ∧
        (bodyReturns body).any (fun returned => decide (outcome? (definitionsIn module.body) body
          returned = some (some ⟨"exec_prompt", 4⟩))) = true))
      (by decide +kernel)
  obtain ⟨missing, raw⟩ := of_decide_eq_true facts
  obtain ⟨returned, member, isRaw⟩ := List.any_eq_true.mp raw
  have comesTo := outcome?_eq_some_iff.mp (of_decide_eq_true isRaw)
  refine ⟨module, function, own, body, parsed, occurs, defines, missing,
    ⟨returned, member, comesTo⟩, ?_⟩
  rintro ⟨finds, _⟩
  exact finds.mpr ⟨returned, member, _, comesTo⟩ missing

end ContractLint.Lint
