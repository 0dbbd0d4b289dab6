import ContractLint.Lint.Check
import ContractLint.Proofs.Text.Patterns

/-! When the rules on structure leave the header of a contract alone: the comment lines at its start
name dependencies and the runner among them, whatever the rest of the contract is. -/

namespace ContractLint.Lint

open Source (Module Node Pos)

def structureCodes : List String :=
  ["E011", "E012", "E013", "E014", "E015", "E016", "E017", "E018", "E019", "W020", "E021", "E022"]

def Coded (findings : List Finding) : Prop := ∀ finding ∈ findings, finding.code ∈ structureCodes

namespace Coded

theorem nil : Coded [] := nofun

theorem append {first second : List Finding} (isFirst : Coded first) (isSecond : Coded second) :
    Coded (first ++ second) :=
  fun finding member => (List.mem_append.mp member).elim (isFirst finding) (isSecond finding)

theorem flatMap {α : Type} {values : List α} {rule : α → List Finding}
    (each : ∀ value, Coded (rule value)) : Coded (values.flatMap rule) := by
  intro finding member
  obtain ⟨value, _, isFound⟩ := List.mem_flatMap.mp member
  exact each value finding isFound

theorem singleton {issue : Issue} (coded : issue.code ∈ structureCodes) (pos : Pos) :
    Coded [findingAt issue pos] := by
  intro finding member
  rw [List.mem_singleton.mp member]
  exact coded

theorem findIf {issue : Issue} (coded : issue.code ∈ structureCodes) (condition : Bool)
    (pos : Pos) : Coded (findIf condition (findingAt issue pos)) := by
  cases condition with
  | false => exact nil
  | true => exact singleton coded pos

end Coded

theorem Method.findings_coded (method : Method) : Coded method.findings := by
  simp only [Method.findings]
  refine .append (.append (.append (.append (.append (.append ?_ ?_) ?special) ?_) ?variadic)
    ?keywords) ?_
  case special | variadic | keywords =>
    split
    · exact .findIf (by simp [Issue.code, structureCodes]) _ _
    · exact .nil
  all_goals
    apply Coded.findIf
    simp [Issue.code, structureCodes]

theorem containerFindings_coded (pos : Pos) (field type : String) :
    Coded (containerFindings pos field type) := by
  rw [containerFindings]
  split
  · exact .singleton (by simp [Issue.code, structureCodes]) pos
  · exact .nil

theorem arrayFindings_coded (pos : Pos) (field : String) (index : Node) :
    Coded (arrayFindings pos field index) := by
  rw [arrayFindings.eq_def]
  split
  · exact .findIf (by simp [Issue.code, structureCodes]) _ _
  · exact .nil

theorem mapFindings_coded (pos : Pos) (field : String) (index : Node) :
    Coded (mapFindings pos field index) := by
  rw [mapFindings.eq_def]
  split
  · exact .findIf (by simp [Issue.code, structureCodes]) _ _
  · exact .nil

theorem fieldFindings_coded (pos : Pos) (field : String) (declared : Node) :
    Coded (fieldFindings pos field declared) := by
  rw [fieldFindings.eq_def]
  split
  case h_1 =>
    exact .append (.findIf (by simp [Issue.code, structureCodes]) _ _)
      (containerFindings_coded _ _ _)
  case h_2 =>
    refine .append (.append (containerFindings_coded _ _ _) ?_) ?_ <;> split
    · exact arrayFindings_coded _ _ _
    · exact .nil
    · exact mapFindings_coded _ _ _
    · exact .nil
  case h_3 => exact .nil

theorem undeclaredClasses_coded (module : Module) : Coded (undeclaredClasses module) := by
  intro finding member
  rw [undeclaredClasses, List.mem_mergeSort] at member
  obtain ⟨type, _, isUndeclared⟩ := List.mem_filterMap.mp member
  rw [undeclared?] at isUndeclared
  split at isUndeclared
  · cases isUndeclared
  · obtain ⟨pos, _, rfl⟩ := Option.map_eq_some_iff.mp isUndeclared
    simp [findingAt, Finding.code, Issue.code, structureCodes]

theorem structureFindings_coded (module : Module) : Coded (structureFindings module) := by
  refine .append (.append ?_ ?_) (undeclaredClasses_coded module)
  · refine .flatMap fun contract => .flatMap fun statement => ?_
    rw [memberFindings.eq_def]
    split
    · exact Method.findings_coded _
    · exact fieldFindings_coded _ _ _
    · exact .nil
  · intro finding member
    obtain ⟨contract, _, rfl⟩ := List.mem_map.mp member
    simp [findingAt, Finding.code, Issue.code, structureCodes]

theorem headerFindings_eq_nil_iff {source : String} : headerFindings source = [] ↔
    "\"Depends\"".toList <:+: (headerComments source.toList).flatten ∧
      "py-genlayer:".toList <:+: (headerComments source.toList).flatten := by
  rw [headerFindings, ← Text.occursIn_iff, ← Text.occursIn_iff]
  generalize Text.occursIn "\"Depends\"".toList _ = named
  generalize Text.occursIn "py-genlayer:".toList _ = runs
  cases named <;> cases runs <;> simp

theorem code_of_mem_headerFindings {source : String} {finding : Finding}
    (member : finding ∈ headerFindings source) : finding.code = "W010" ∨ finding.code = "W011" := by
  rw [headerFindings] at member
  generalize Text.occursIn "\"Depends\"".toList _ = named at member
  generalize Text.occursIn "py-genlayer:".toList _ = runs at member
  cases named <;> cases runs <;> simp_all [Finding.code, Issue.code]

/-- The header is reported neither as missing nor as one without the runner. -/
def HeaderAccepted (source : String) : Prop :=
  ∀ finding ∈ checkStructure source, finding.code ≠ "W010" ∧ finding.code ≠ "W011"

theorem headerAccepted_iff {source : String} : HeaderAccepted source ↔
    "\"Depends\"".toList <:+: (headerComments source.toList).flatten ∧
      "py-genlayer:".toList <:+: (headerComments source.toList).flatten := by
  rw [← headerFindings_eq_nil_iff]
  constructor
  · intro accepted
    refine List.eq_nil_iff_forall_not_mem.mpr fun finding member => ?_
    obtain ⟨notMissing, notWithout⟩ := accepted finding (List.mem_append_left _ member)
    exact (code_of_mem_headerFindings member).elim notMissing notWithout
  · intro silent finding member
    rw [checkStructure, silent, List.nil_append, findingsIn] at member
    split at member
    case h_1 module parsed =>
      have coded := structureFindings_coded module finding member
      constructor <;> intro same <;> rw [same] at coded <;> revert coded <;> decide
    case h_2 => cases member

theorem mem_of_mem_strip {text : List Char} {c : Char} (member : c ∈ Text.strip text) :
    c ∈ text := by
  rw [Text.strip, List.mem_reverse] at member
  exact (List.dropWhile_suffix _).subset
    (List.mem_reverse.mp ((List.dropWhile_suffix _).subset member))

theorem mem_of_mem_commentText {line comment : List Char} {c : Char}
    (isComment : commentText line = some comment) (member : c ∈ comment) : c ∈ line := by
  rw [commentText.eq_def] at isComment
  split at isComment
  · cases isComment
    exact List.mem_cons_of_mem _ (List.mem_cons_of_mem _ (mem_of_mem_strip member))
  · cases isComment
    exact List.mem_cons_of_mem _ member
  · cases isComment

theorem newline_notMem_headerComments {text line : List Char}
    (isLine : line ∈ headerComments text) : '\n' ∉ line := by
  intro member
  obtain ⟨found, isFound, rfl⟩ := List.mem_filterMap.mp isLine
  obtain ⟨whole, isWhole, isComment⟩ := List.mem_map.mp ((List.takeWhile_subset _) isFound)
  have unmarked := Text.not_isMark_of_mem_splitWhere isWhole '\n'
    (mem_of_mem_commentText isComment member)
  simp at unmarked

theorem filter_intercalate {lines : List (List Char)} (single : ∀ line ∈ lines, '\n' ∉ line) :
    (['\n'].intercalate lines).filter (· ≠ '\n') = lines.flatten := by
  have all : ∀ line ∈ lines, line.filter (· ≠ '\n') = line := fun line isLine =>
    List.filter_eq_self.mpr fun c member => by
      simpa using fun same : c = '\n' => single line isLine (same ▸ member)
  induction lines with
  | nil => rfl
  | cons line rest ih =>
      have more := ih (fun other member => single other (List.mem_cons_of_mem _ member))
        fun other member => all other (List.mem_cons_of_mem _ member)
      have first := all line List.mem_cons_self
      cases rest with
      | nil => simpa using first
      | cons next rest =>
          rw [List.intercalate_cons_cons, List.filter_append, List.filter_append, more, first]
          simp

theorem infix_flatten_headerComments {text part : List Char} (single : '\n' ∉ part)
    (within : part <:+: ['\n'].intercalate (headerComments text)) :
    part <:+: (headerComments text).flatten := by
  have whole : part.filter (· ≠ '\n') = part := List.filter_eq_self.mpr fun c member => by
    simpa using fun same : c = '\n' => single (same ▸ member)
  rw [← whole, ← filter_intercalate fun _ => newline_notMem_headerComments]
  exact within.filter _

end ContractLint.Lint
