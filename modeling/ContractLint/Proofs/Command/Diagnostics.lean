import ContractLint.Command.TypeCheck
import ContractLint.Proofs.Files.Texts
import ContractLint.Proofs.Json.Access
import ContractLint.Proofs.Release.Downloads
import ContractLint.Proofs.Stubs.Served

/-! What a type check reports about a contract. The type checker is told the path of the contract,
but what it says is picked by the name of the contract alone, wherever that occurs in the path of a
file, and it is counted by numbers where it may speak in words. So the report is about the contract
exactly if every diagnostic that it picks is, and is counted exactly if each has a number. -/

namespace ContractLint.Command

open Files (Path)
open Json (Value bind_eq_ok_iff mapM_eq_ok_iff)

def ownFile (world : World) (contract : Path) : String :=
  ((Path.ofRoot world.here).join contract).text

inductive Severity
  | error
  | warning
  | information

def Severity.level : Severity → Int
  | .error => 1
  | .warning => 2
  | .information => 3

def Severity.word : Severity → String
  | .error => "error"
  | .warning => "warning"
  | .information => "information"

def Severity.written (severity : Severity) (inWords : Bool) : Value :=
  if inWords then .string severity.word else .int severity.level

/-- A diagnostic as the type checker writes it, in whatever order and with whatever else. -/
structure IsDiagnostic (diagnostic : Value) : Prop where
  file : ∃ file, diagnostic.field? "file" = some (.string file)
  message : ∃ message, diagnostic.field? "message" = some (.string message)
  severity : ∃ (severity : Severity) (inWords : Bool),
    diagnostic.field? "severity" = some (severity.written inWords)

def fileOf (diagnostic : Value) : String := ((diagnostic.field? "file").bind (·.string?)).getD ""

def isAbout (file : String) (diagnostic : Value) : Bool := fileOf diagnostic = file

def isPicked (name : String) (diagnostic : Value) : Bool := Text.contains (fileOf diagnostic) name

def isAtLevel (level : Int) (diagnostic : Value) : Bool :=
  ((diagnostic.field? "severity").getD .null).equalsInt level

def isNumbered (diagnostic : Value) : Bool :=
  match diagnostic.field? "severity" with
  | some (.int _) => true
  | _ => false

theorem getOr_eq_of_field? {value found : Value} {key : String} (absent : Value)
    (isField : value.field? key = some found) : value.getOr key absent = .ok found := by
  cases value with
  | object fields => exact Value.getOr_eq_ok_iff.mpr ⟨fields, rfl, congrArg (·.getD absent) isField⟩
  | _ => cases isField

theorem mapM_eq_ok_map {ε α β : Type} {read : α → Except ε β} {items : List α} (result : α → β)
    (isRead : ∀ item ∈ items, read item = .ok (result item)) :
    items.mapM read = .ok (items.map result) := by
  rw [mapM_eq_ok_iff, List.forall₂_map_right_iff, List.forall₂_same]
  exact isRead

theorem diagnosticsFor_eq {output : Value} {diagnostics : List Value}
    (listed : output.getOr "generalDiagnostics" (.array []) = .ok (.array diagnostics))
    (formed : ∀ diagnostic ∈ diagnostics, IsDiagnostic diagnostic) (name : String) :
    diagnosticsFor name output = .ok (diagnostics.filter (isPicked name)) := by
  refine bind_eq_ok_iff.mpr ⟨_, listed, bind_eq_ok_iff.mpr ⟨diagnostics, rfl,
    bind_eq_ok_iff.mpr ⟨_, mapM_eq_ok_map (fun diagnostic => (diagnostic, isPicked name diagnostic))
      fun diagnostic member => ?_, ?_⟩⟩⟩
  · obtain ⟨file, isFile⟩ := (formed diagnostic member).file
    rw [getOr_eq_of_field? _ isFile, isPicked, fileOf, isFile]
    rfl
  · refine congrArg Except.ok ?_
    rw [List.filter_map, List.map_map]
    simp [Function.comp_def]

theorem countLevel_eq {diagnostics : List Value}
    (formed : ∀ diagnostic ∈ diagnostics, IsDiagnostic diagnostic) (level : Int) :
    countLevel level diagnostics = .ok (diagnostics.countP (isAtLevel level)) := by
  refine bind_eq_ok_iff.mpr ⟨_, mapM_eq_ok_map (fun diagnostic =>
    (diagnostic.field? "severity").getD .null) fun diagnostic member => ?_, ?_⟩
  · obtain ⟨severity, inWords, written⟩ := (formed diagnostic member).severity
    rw [Value.get, getOr_eq_of_field? _ written, written]
    rfl
  · refine congrArg Except.ok ?_
    rw [List.countP_map]
    rfl

theorem IsDiagnostic.levels {diagnostic : Value} (isDiagnostic : IsDiagnostic diagnostic) :
    (isAtLevel 1 diagnostic).toNat + (isAtLevel 2 diagnostic).toNat +
      (isAtLevel 3 diagnostic).toNat = (isNumbered diagnostic).toNat := by
  obtain ⟨severity, inWords, written⟩ := isDiagnostic.severity
  simp only [isAtLevel, isNumbered, written]
  cases inWords with
  | false => cases severity <;> rfl
  | true => rfl

theorem counts_add {diagnostics : List Value}
    (formed : ∀ diagnostic ∈ diagnostics, IsDiagnostic diagnostic) :
    diagnostics.countP (isAtLevel 1) + diagnostics.countP (isAtLevel 2) +
      diagnostics.countP (isAtLevel 3) = diagnostics.countP isNumbered := by
  induction diagnostics with
  | nil => rfl
  | cons diagnostic rest ih =>
      have rests := ih fun other member => formed other (List.mem_cons_of_mem _ member)
      have here := (formed diagnostic List.mem_cons_self).levels
      have counts (test : Value → Bool) :
          (diagnostic :: rest).countP test = rest.countP test + (test diagnostic).toNat := by
        rw [List.countP_cons]
        cases test diagnostic <;> rfl
      rw [counts, counts, counts, counts]
      omega

theorem suffix_joinWith (above : List String) (last : String) :
    last.toList <:+ (Text.joinWith "/" (above ++ [last])).toList := by
  rw [Text.joinWith]
  by_cases inner : above = []
  · simp [inner]
  · rw [String.intercalate_append_of_ne_nil inner (List.cons_ne_nil _ _), String.toList_append,
      String.intercalate_singleton]
    exact List.suffix_append _ _

theorem contains_last (slashes : Nat) (above : List String) (last : String) :
    Text.contains (⟨slashes, above ++ [last]⟩ : Path).text last = true := by
  rw [Text.contains, Text.occursIn_iff, Path.text]
  have ends : last.toList <:+ (String.ofList (List.replicate slashes '/') ++
      Text.joinWith "/" (above ++ [last])).toList := by
    rw [String.toList_append]
    exact (suffix_joinWith above last).trans (List.suffix_append _ _)
  dsimp only
  split
  next isEmpty =>
    rw [String.isEmpty_iff.mp isEmpty, String.toList_empty, List.suffix_nil] at ends
    rw [ends]
    exact List.nil_infix
  next => exact ends.isInfix

theorem contains_name (start contract : Path) :
    Text.contains (start.join contract).text contract.name = true := by
  obtain ⟨slashes, parts⟩ := contract
  rcases List.eq_nil_or_concat parts with rfl | ⟨above, last, rfl⟩
  · rw [Text.contains, Text.occursIn_iff]
    exact List.nil_infix
  · rw [Path.name, List.concat_eq_append, List.getLast?_concat, Option.getD_some, Path.join]
    split
    · exact contains_last _ _ _
    · rw [← List.append_assoc]
      exact contains_last _ _ _

/-- What comes before the type checker: the contract is read and the SDK that it asks for is got. -/
def sdkFor (contract : Path) : Action (List String) := do
  let dependencies ← headerOf contract
  let bundle ← Release.download .null Release.silent
  modulesFor bundle dependencies

theorem modulesFor_settles (bundle : Path) (dependencies : List (String × String)) :
    (modulesFor bundle dependencies).Settles := by
  refine .bind (Sdk.extract_settles bundle dependencies) fun extracted =>
    .bind (.mapM (fun path => ?_) _) fun _ world => .refl world
  refine .bind (fun world => .refl world) fun there => ?_
  split
  · exact fun world => .refl world
  · exact fun world => .refl world

theorem sdkFor_settles (contract : Path) : (sdkFor contract).Settles := by
  have reads : (headerOf contract).Settles := by
    refine .bind (.bind (Action.Idle.onTree _).settles fun content => ?_) fun _ world => .refl world
    exact (Runner.textOf_treeless content).settled
  exact .bind reads fun _ => .bind (Release.download_settles Release.silent_settles .null)
    fun bundle => modulesFor_settles bundle _

def started (contract : Path) (strict all : Bool) (paths : List String) (world ready : World) :
    World :=
  { ready with launches := ready.launches ++
      [.typeChecker (checkerSettings paths strict all) (ownFile world contract)] }

theorem checkTypes_run {contract : Path} {world ready : World} {paths : List String}
    {printed : String} (prepared : (sdkFor contract).runIn world = (.ok paths, ready))
    (prints : ready.typeChecker = some printed) (strict all : Bool) :
    (checkTypes contract true strict all).runIn world =
      (reportDiagnostics contract true printed).runIn
        (started contract strict all paths world ready) := by
  have settled : world.Settled ready := by
    simpa only [prepared] using sdkFor_settles contract world
  obtain ⟨dependencies, read, reads, more⟩ := Action.runIn_bind_eq_ok_iff.mp prepared
  obtain ⟨bundle, downloaded, downloads, extracts⟩ := Action.runIn_bind_eq_ok_iff.mp more
  have launches (launched : Launch) : (Action.launch launched).runIn ready =
      (.ok (), { ready with launches := ready.launches ++ [launched] }) := rfl
  simp only [checkTypes, Bool.not_true, Bool.false_eq_true, if_false, if_true, Bool.false_and,
    Action.runIn_bind, reads, Action.runIn_outcome, downloads, extracts, absolute,
    Action.runIn_get, Action.runIn_pure, launches, prints, settled.here, started, ownFile]

structure Reports (listed : List Value) (answer : Value) (code : Nat) : Prop where
  diagnostics : answer.field? "diagnostics" = some (.array listed)
  ok : answer.field? "ok" = some (.bool true) ↔ listed = []
  code : code = 0 ↔ listed = []

def AddsUp (total : Nat) (answer : Value) : Prop :=
  ∃ summary errors warnings info, answer.field? "summary" = some summary ∧
    summary.field? "errors" = some (.nat errors) ∧
    summary.field? "warnings" = some (.nat warnings) ∧
    summary.field? "info" = some (.nat info) ∧ errors + warnings + info = total

def summaryOf (listed : List Value) : Value :=
  .object [("errors", .nat (listed.countP (isAtLevel 1))),
    ("warnings", .nat (listed.countP (isAtLevel 2))),
    ("info", .nat (listed.countP (isAtLevel 3)))]

def answerOf (listed : List Value) : Value :=
  .object [("ok", .bool listed.isEmpty), ("diagnostics", .array listed),
    ("summary", summaryOf listed)]

theorem diagnosticsValue_eq {listed : List Value}
    (formed : ∀ diagnostic ∈ listed, IsDiagnostic diagnostic) :
    diagnosticsValue listed = .ok (answerOf listed) := by
  exact bind_eq_ok_iff.mpr ⟨_, countLevel_eq formed 1,
    bind_eq_ok_iff.mpr ⟨_, countLevel_eq formed 2,
      bind_eq_ok_iff.mpr ⟨_, countLevel_eq formed 3, rfl⟩⟩⟩

theorem reports_answerOf (listed : List Value) :
    Reports listed (answerOf listed) (exitCode listed.isEmpty) where
  diagnostics := rfl
  ok := by cases listed <;> simp [answerOf, Value.field?]
  code := by cases listed <;> simp [exitCode]

theorem reports_answerOf_iff {listed other : List Value} :
    Reports other (answerOf listed) (exitCode listed.isEmpty) ↔ listed = other := by
  constructor
  · intro reports
    exact Value.array.inj (Option.some.inj reports.diagnostics)
  · rintro rfl
    exact reports_answerOf listed

theorem addsUp_answerOf_iff {listed : List Value} {total : Nat} :
    AddsUp total (answerOf listed) ↔ listed.countP (isAtLevel 1) + listed.countP (isAtLevel 2) +
      listed.countP (isAtLevel 3) = total := by
  constructor
  · rintro ⟨_, _, _, _, isSummary, isErrors, isWarnings, isInfo, sum⟩
    cases isSummary
    cases isErrors
    cases isWarnings
    cases isInfo
    exact sum
  · intro sum
    exact ⟨_, _, _, _, rfl, rfl, rfl, rfl, sum⟩

theorem addsUp_length_iff {listed : List Value}
    (formed : ∀ diagnostic ∈ listed, IsDiagnostic diagnostic) :
    AddsUp listed.length (answerOf listed) ↔
      ∀ diagnostic ∈ listed, isNumbered diagnostic = true := by
  rw [addsUp_answerOf_iff, counts_add formed, List.countP_eq_length]

theorem reportDiagnostics_run {contract : Path} {printed : String} {output : Value}
    {diagnostics : List Value} {world : World}
    (isRead : checkerOutput world.nesting printed = .ok output)
    (listed : output.getOr "generalDiagnostics" (.array []) = .ok (.array diagnostics))
    (formed : ∀ diagnostic ∈ diagnostics, IsDiagnostic diagnostic) :
    (reportDiagnostics contract true printed).runIn world =
      (.ok (exitCode (diagnostics.filter (isPicked contract.name)).isEmpty), { world with
        output := world.output ++
          ((answerOf (diagnostics.filter (isPicked contract.name))).pretty ++ "\n") }) := by
  have picked := diagnosticsFor_eq listed formed contract.name
  have valued := diagnosticsValue_eq fun diagnostic member =>
    formed diagnostic (List.mem_of_mem_filter (p := isPicked contract.name) member)
  simp only [reportDiagnostics, Action.runIn_bind, Action.runIn_get, isRead, picked,
    Action.attempt, valued, if_true, Action.runIn_pure]
  rfl

theorem filter_picked_eq_iff (world : World) (contract : Path) (diagnostics : List Value) :
    diagnostics.filter (isPicked contract.name) =
        diagnostics.filter (isAbout (ownFile world contract)) ↔
      ∀ diagnostic ∈ diagnostics, isPicked contract.name diagnostic = true →
        isAbout (ownFile world contract) diagnostic = true := by
  constructor
  · intro same diagnostic member picked
    have isMember := List.mem_filter.mpr ⟨member, picked⟩
    rw [same] at isMember
    exact (List.mem_filter.mp isMember).2
  · intro own
    refine List.filter_congr fun diagnostic member => Bool.eq_iff_iff.mpr ⟨own diagnostic member, ?_⟩
    intro about
    rw [isPicked, of_decide_eq_true about]
    exact contains_name _ _

/-- A type check answers with the diagnostics whose file has the name of the contract in its path.
These are the contract's own, and their counts add up, exactly if each of them is about the path of
the contract and has a number for its severity. -/
theorem own_diagnostics_reported_iff {contract : Path} {world ready : World} {paths : List String}
    {printed : String} {output : Value} {diagnostics : List Value}
    (prepared : (sdkFor contract).runIn world = (.ok paths, ready))
    (prints : ready.typeChecker = some printed)
    (isRead : checkerOutput ready.nesting printed = .ok output)
    (listed : output.getOr "generalDiagnostics" (.array []) = .ok (.array diagnostics))
    (formed : ∀ diagnostic ∈ diagnostics, IsDiagnostic diagnostic) (strict all : Bool) :
    ∃ answer code,
      (checkTypes contract true strict all).runIn world =
        (.ok code, { started contract strict all paths world ready with
          output := ready.output ++ (answer.pretty ++ "\n") }) ∧
      Reports (diagnostics.filter (isPicked contract.name)) answer code ∧
      (Reports (diagnostics.filter (isAbout (ownFile world contract))) answer code ∧
          AddsUp (diagnostics.filter (isAbout (ownFile world contract))).length answer ↔
        ∀ diagnostic ∈ diagnostics, isPicked contract.name diagnostic = true →
          isAbout (ownFile world contract) diagnostic = true ∧ isNumbered diagnostic = true) := by
  refine ⟨_, _, (checkTypes_run prepared prints strict all).trans
    (reportDiagnostics_run isRead listed formed), reports_answerOf _, ?_⟩
  have pickedFormed : ∀ diagnostic ∈ diagnostics.filter (isPicked contract.name),
      IsDiagnostic diagnostic := fun diagnostic member =>
    formed diagnostic (List.mem_of_mem_filter member)
  rw [reports_answerOf_iff]
  constructor
  · rintro ⟨same, sum⟩
    rw [← same, addsUp_length_iff pickedFormed] at sum
    intro diagnostic member picked
    exact ⟨(filter_picked_eq_iff world contract diagnostics).mp same diagnostic member picked,
      sum diagnostic (List.mem_filter.mpr ⟨member, picked⟩)⟩
  · intro own
    have same := (filter_picked_eq_iff world contract diagnostics).mpr
      fun diagnostic member picked => (own diagnostic member picked).1
    refine ⟨same, ?_⟩
    rw [← same, addsUp_length_iff pickedFormed]
    intro diagnostic member
    obtain ⟨isMember, picked⟩ := List.mem_filter.mp member
    exact (own diagnostic isMember picked).2

theorem checkerOutput_spaced {value : Value} (exact : value.Exact) {nesting : Nat}
    (within : value.Within ⟨some Json.digitLimit, some nesting⟩) :
    checkerOutput nesting value.spaced = .ok value := by
  have isRead := Json.load_spaced exact within
  rw [checkerOutput]
  split
  next isEmpty =>
    rw [String.isEmpty_iff.mp isEmpty] at isRead
    cases isRead
  next => exact isRead

def diagnosticAbout (file : String) (severity : Severity) (inWords : Bool) : Value :=
  .object [("file", .string file), ("severity", severity.written inWords),
    ("message", .string "m")]

def checkerValue (diagnostics : List Value) : Value :=
  .object [("generalDiagnostics", .array diagnostics)]

def diagnosticsIn (inWords : Bool) (found : List (String × Severity)) : List Value :=
  found.map fun (file, severity) => diagnosticAbout file severity inWords

theorem diagnosticsIn_formed (inWords : Bool) (found : List (String × Severity)) :
    ∀ diagnostic ∈ diagnosticsIn inWords found, IsDiagnostic diagnostic := by
  intro diagnostic member
  obtain ⟨⟨file, severity⟩, _, rfl⟩ := List.mem_map.mp member
  exact ⟨⟨file, rfl⟩, ⟨_, rfl⟩, severity, inWords, rfl⟩

theorem diagnosticsIn_exact (inWords : Bool) (found : List (String × Severity)) :
    (checkerValue (diagnosticsIn inWords found)).Exact := by
  refine .object (by simp) ?_
  rw [List.forall_mem_singleton]
  refine .array fun diagnostic member => ?_
  obtain ⟨⟨file, severity⟩, _, rfl⟩ := List.mem_map.mp member
  refine .object (by simp) ?_
  simp only [List.forall_mem_cons, List.not_mem_nil, false_imp_iff, implies_true, and_true]
  refine ⟨.string file, ?_, .string _⟩
  cases inWords with
  | false => exact .int _
  | true => exact .string _

theorem diagnosticsIn_within (inWords : Bool) (found : List (String × Severity)) (world : World) :
    (checkerValue (diagnosticsIn inWords found)).Within
      ⟨some Json.digitLimit, some world.nesting⟩ := by
  refine .object rfl ?_
  rw [List.forall_mem_singleton]
  refine .array rfl fun diagnostic member => ?_
  obtain ⟨⟨file, severity⟩, _, rfl⟩ := List.mem_map.mp member
  refine .object rfl ?_
  simp only [List.forall_mem_cons, List.not_mem_nil, false_imp_iff, implies_true, and_true]
  refine ⟨.string file, ?_, .string _⟩
  cases inWords with
  | false => cases severity <;> exact .int (by rintro limit ⟨⟩; decide)
  | true => exact .string _

def checkedWorld (diagnostics : List Value) : World :=
  let stocked := Stubs.stockedCache ["genvm-universal-genlayerlabs-genvm-manager-v1.tar.xz"]
    "genlayerlabs-genvm-manager-v1.tar"
  { stocked with
    tree := ⟨(["W", "a.py"], .file (.ofText "# \x7b \"Depends\": \"py-genlayer:ab12\" \x7d")) ::
      stocked.tree.entries⟩
    environment := [("GENVM_VERSION", "v1")]
    typeChecker := some (checkerValue diagnostics).spaced }

theorem exists_prepared (contract : Path) (diagnostics : List Value)
    (found : ((do
        let _ ← sdkFor contract
        return (← get).typeChecker : Action (Option String)).runIn
          (checkedWorld diagnostics)).1.toOption = some (some (checkerValue diagnostics).spaced)) :
    ∃ paths ready, (sdkFor contract).runIn (checkedWorld diagnostics) = (.ok paths, ready) ∧
      ready.typeChecker = some (checkerValue diagnostics).spaced := by
  rw [Action.runIn_bind] at found
  rcases run : (sdkFor contract).runIn (checkedWorld diagnostics) with ⟨_ | paths, ready⟩
  · rw [run] at found
    cases found
  · rw [run] at found
    exact ⟨paths, ready, rfl, Option.some.inj found⟩

def numbered : List Value := diagnosticsIn false [("/W/a.py", .warning), ("/W/sdk.py", .error)]

theorem own_diagnostics_reported_numbered :
    ∃ paths ready,
      (sdkFor ⟨0, ["a.py"]⟩).runIn (checkedWorld numbered) = (.ok paths, ready) ∧
      ready.typeChecker = some (checkerValue numbered).spaced ∧
      checkerOutput ready.nesting (checkerValue numbered).spaced = .ok (checkerValue numbered) ∧
      (∀ diagnostic ∈ numbered, IsDiagnostic diagnostic) ∧
      ∃ answer code after,
        (checkTypes ⟨0, ["a.py"]⟩ true true false).runIn (checkedWorld numbered) =
          (.ok code, after) ∧
        after.output = ready.output ++ (answer.pretty ++ "\n") ∧
        Reports [diagnosticAbout "/W/a.py" .warning false] answer code ∧ AddsUp 1 answer := by
  obtain ⟨paths, ready, prepared, prints⟩ :=
    exists_prepared ⟨0, ["a.py"]⟩ numbered (by decide +kernel)
  have isRead : checkerOutput ready.nesting (checkerValue numbered).spaced =
      .ok (checkerValue numbered) :=
    checkerOutput_spaced (diagnosticsIn_exact false _) (diagnosticsIn_within false _ ready)
  have formed : ∀ diagnostic ∈ numbered, IsDiagnostic diagnostic := diagnosticsIn_formed false _
  obtain ⟨answer, code, run, _, exactly⟩ :=
    own_diagnostics_reported_iff prepared prints isRead rfl formed true false
  refine ⟨paths, ready, prepared, prints, isRead, formed, answer, code, _, run, rfl, exactly.mpr ?_⟩
  simp only [numbered, diagnosticsIn, List.map_cons, List.map_nil, List.forall_mem_cons,
    List.not_mem_nil, false_imp_iff, implies_true, and_true]
  decide

def worded : List Value := diagnosticsIn true [("/W/aa.py", .warning), ("/W/a.py", .error)]

theorem foreign_diagnostic_reported :
    (∀ diagnostic ∈ worded, IsDiagnostic diagnostic) ∧
    ∃ answer code after before,
      (checkTypes ⟨0, ["a.py"]⟩ true false false).runIn (checkedWorld worded) = (.ok code, after) ∧
      after.output = before ++ (answer.pretty ++ "\n") ∧
      answer.field? "diagnostics" = some (.array worded) ∧
      ¬Reports (worded.filter (isAbout (ownFile (checkedWorld worded) ⟨0, ["a.py"]⟩))) answer code ∧
      ¬AddsUp (worded.filter (isAbout (ownFile (checkedWorld worded) ⟨0, ["a.py"]⟩))).length
        answer := by
  obtain ⟨paths, ready, prepared, prints⟩ :=
    exists_prepared ⟨0, ["a.py"]⟩ worded (by decide +kernel)
  have isRead : checkerOutput ready.nesting (checkerValue worded).spaced =
      .ok (checkerValue worded) :=
    checkerOutput_spaced (diagnosticsIn_exact true _) (diagnosticsIn_within true _ ready)
  have formed : ∀ diagnostic ∈ worded, IsDiagnostic diagnostic := diagnosticsIn_formed true _
  have picked : worded.filter (isPicked (⟨0, ["a.py"]⟩ : Path).name) = worded := by
    simp only [List.filter_eq_self, worded, diagnosticsIn, List.map_cons, List.map_nil,
      List.forall_mem_cons, List.not_mem_nil, false_imp_iff, implies_true, and_true]
    decide
  have run := (checkTypes_run prepared prints false false).trans
    (reportDiagnostics_run isRead rfl formed)
  rw [picked] at run
  refine ⟨formed, answerOf worded, _, _, ready.output, run, rfl, rfl, ?_, ?_⟩
  · rw [reports_answerOf_iff]
    exact fun same => absurd (congrArg List.length same) (by decide)
  · rw [addsUp_answerOf_iff]
    decide

end ContractLint.Command
