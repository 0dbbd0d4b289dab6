import ContractLint.Proofs.Files.Texts
import ContractLint.Proofs.Release.Cleaning
import ContractLint.Proofs.Release.Downloads
import ContractLint.Proofs.Runner.Sources

/-! Kept indexes along any run of downloads, looks at indexes and cleanings. The first index that is
made of a bundle stays for good, so it is right as long as the bundle is what it was. -/

namespace ContractLint

theorem setEntry_keys {κ α : Type} [DecidableEq κ] {entries : List (κ × α)} {key : κ} {value : α}
    (different : (entries.map (·.1)).Nodup) : ((setEntry entries key value).map (·.1)).Nodup := by
  rw [keys_setEntry]
  split
  case isTrue => exact different
  case isFalse absent =>
    rw [← List.concat_eq_append, List.nodup_concat]
    exact ⟨absent, different⟩

namespace Runner

open Files (Content IsName Path Place Tree)
open Json (Value)

/-! Indexes as they are written. -/

theorem Index.ofPaths_keys (paths : List String) : ((Index.ofPaths paths).map (·.1)).Nodup := by
  have nothing : (([] : Index).map (·.1)).Nodup := List.nodup_nil
  refine List.foldlRecOn (motive := fun index : Index => (index.map (·.1)).Nodup) paths _ nothing
    fun index different path _ => ?_
  split
  · exact setEntry_keys different
  · exact different

theorem Index.json_exact {index : Index} (different : (index.map (·.1)).Nodup) : index.json.Exact := by
  refine .object ?_ ?_
  · rwa [List.map_map]
  · simp only [List.mem_map, forall_exists_index, and_imp, forall_apply_eq_imp_iff₂]
    refine fun entry _ => .array ?_
    simp only [List.mem_map, forall_exists_index, and_imp, forall_apply_eq_imp_iff₂]
    exact fun path _ => .string path

theorem scanBundle_ok_iff {bundle : Path} {world after : World} {value : Value} :
    (scanBundle bundle).runIn world = (.ok value, after) ↔ after = world ∧ ∃ content members,
      world.tree.read world.here bundle = .ok content ∧ content.packedMembers = .ok members ∧
      value = (Index.ofPaths (members.map (·.1))).json := by
  simp only [scanBundle, Action.read, Action.runIn_bind, Action.runIn_onTree]
  cases read : world.tree.read world.here bundle with
  | error fault => simp [Except.mapError]
  | ok content =>
      simp only [Except.mapError]
      cases members : content.packedMembers with
      | error problem => simp [orNotArchive, members]
      | ok found => simp [orNotArchive, members, eq_comm, and_comm]

theorem scanBundle_idle (bundle : Path) : (scanBundle bundle).Idle := by
  refine .bind (.onTree _) fun content => .bind (fun _ => ?_) fun _ _ => rfl
  cases content.packedMembers <;> rfl

theorem scanBundle_exact {bundle : Path} {world after : World} {value : Value}
    (done : (scanBundle bundle).runIn world = (.ok value, after)) : value.Exact := by
  obtain ⟨_, _, members, _, _, rfl⟩ := scanBundle_ok_iff.mp done
  exact Index.json_exact (Index.ofPaths_keys _)

/-! Where the index of a bundle is kept. -/

def indexName (name : String) : String := name ++ ".index-v2.json"

theorem indexName_isName {name : String} (isName : IsName name) : IsName (indexName name) := by
  have long (other : String) (short : other.length < 14) : indexName name ≠ other := by
    rintro rfl
    rw [indexName, String.length_append] at short
    exact absurd short (Nat.not_lt.mpr (Nat.le_add_left 14 _))
  refine ⟨?_, long "" (by decide), long "." (by decide), long ".." (by decide)⟩
  rw [indexName, String.toList_append, List.mem_append, not_or]
  exact ⟨isName.single, by decide⟩

theorem indexPath_child {name : String} (isName : IsName name) (directory : Path) :
    indexPath (directory.child name) = directory.child (indexName name) := by
  rw [Path.child_name isName, Path.child_name (indexName_isName isName)]
  simp [indexPath, Path.withName, Path.name, indexName]

theorem indexName_not_bundle (name : String) :
    ¬Release.bundleEnding.toList <:+ (indexName name).toList := by
  rintro ⟨start, same⟩
  have lasts := congrArg List.getLast? same
  simp [indexName, Release.bundleEnding, List.getLast?_append] at lasts

theorem indexName_unlike (name : String) : Text.matchesPattern
    (Release.bundleStart ++ "*" ++ Release.bundleEnding) (indexName name) = false := by
  refine Bool.eq_false_iff.mpr fun fits => ?_
  obtain ⟨middle, same⟩ := (Text.matchesPattern_star_iff (Text.isPlain_of_all (by decide))
    (Text.isPlain_of_all (by decide))).mp fits
  exact indexName_not_bundle name (same ▸ List.suffix_append _ _)

section

variable {world after : World} {directory : Path} {name : String} {value : Value}

theorem readText_ok {path : Path} {text : String}
    (done : (Action.readText path).runIn world = (.ok text, after)) :
    after = world ∧ ∃ content, world.tree.read world.here path = .ok content ∧
      content.text = .ok text := by
  obtain ⟨content, middle, read, made⟩ := Action.runIn_bind_eq_ok_iff.mp done
  have isContent := Action.onTree_eq_ok (congrArg Prod.fst read)
  rw [Action.read, Action.runIn_onTree] at read
  obtain rfl : world = middle := congrArg Prod.snd read
  cases isText : content.text with
  | error fault =>
      rw [Action.textOf, isText] at made
      cases made
  | ok found =>
      rw [Action.textOf, isText] at made
      cases made
      exact ⟨rfl, content, isContent, isText⟩

theorem parseJson_ok {text : String}
    (done : (Action.parseJson text).runIn world = (.ok value, after)) :
    after = world ∧ Json.read text = .ok value := by
  rw [Action.runIn_parseJson] at done
  cases loaded : Json.load world.nesting text with
  | error problem =>
      rw [loaded] at done
      cases done
  | ok found =>
      rw [loaded] at done
      cases done
      exact ⟨rfl, Json.read_of_readWithin loaded⟩

theorem bundleIndex_ok (isName : IsName name)
    (done : (bundleIndex (directory.child name)).runIn world = (.ok value, after)) :
    world.tree.hasDirectory world.here directory = true ∧
      ((after = world ∧ ∃ content text,
          world.tree.at? (directory.place world.here ++ [indexName name]) = some (.file content) ∧
          content.text = .ok text ∧ Json.read text = .ok value) ∨
        (world.tree.at? (directory.place world.here ++ [indexName name]) = none ∧
          (scanBundle (directory.child name)).runIn world = (.ok value, world) ∧
          after.tree.at? (directory.place world.here ++ [indexName name]) =
            some (.file (.ofText value.spaced)))) := by
  have isIndex := indexName_isName isName
  simp only [bundleIndex, indexPath_child isName, Action.has, Action.runIn_bind,
    Action.runIn_ask] at done
  cases kept : world.tree.has world.here (directory.child (indexName name)) with
  | true =>
      simp only [kept, if_true] at done
      obtain ⟨there, found⟩ := (Tree.has_child_iff isIndex).mp kept
      obtain ⟨text, middle, read, parsed⟩ := Action.runIn_bind_eq_ok_iff.mp done
      obtain ⟨same, content, isContent, isText⟩ := readText_ok read
      obtain ⟨sameAgain, isValue⟩ := parseJson_ok parsed
      have isFile := Tree.find?_of_read isContent
      rw [Tree.find?_child isIndex there] at isFile
      exact ⟨there, .inl ⟨sameAgain.trans same, content, text, isFile, isText, isValue⟩⟩
  | false =>
      simp only [kept, Bool.false_eq_true, if_false] at done
      obtain ⟨index, middle, scanned, made⟩ := Action.runIn_bind_eq_ok_iff.mp done
      obtain ⟨_, written, wrote, returned⟩ := Action.runIn_bind_eq_ok_iff.mp made
      cases returned
      obtain ⟨same, content, _, isContent, _, _⟩ := scanBundle_ok_iff.mp scanned
      obtain rfl : world = middle := same.symm
      have hasBundle : world.tree.has world.here (directory.child name) = true := by
        rw [Tree.has, Tree.find?_of_read isContent]
        rfl
      have there := ((Tree.has_child_iff isName).mp hasBundle).1
      have absent : world.tree.at? (directory.place world.here ++ [indexName name]) = none := by
        rw [← Tree.find?_child isIndex there]
        exact Option.isNone_iff_eq_none.mp (by simpa [Tree.has] using kept)
      obtain ⟨tree, put, rfl⟩ := Action.changeTree_eq_ok wrote
      obtain ⟨_, _, _, rfl⟩ := Tree.write_eq_ok put
      rw [Path.place_child_name isIndex]
      exact ⟨there, .inr ⟨absent, scanned, Tree.at?_put_self (by simp) _⟩⟩

theorem readIndex_idle (path : Path) :
    (Action.readText path >>= fun text => Action.parseJson text).Idle := by
  refine .bind (.bind (.onTree _) fun content world => ?_) fun text world => ?_
  · rw [Action.textOf]
    cases content.text <;> rfl
  · rw [Action.runIn_parseJson]

theorem bundleIndex_error {bundle : Path} {failure : Failure}
    (failed : (bundleIndex bundle).runIn world = (.error failure, after)) : after = world := by
  simp only [bundleIndex, Action.has, Action.runIn_bind, Action.runIn_ask] at failed
  split at failed
  · have same := readIndex_idle (indexPath bundle) world
    rwa [failed] at same
  · have same := scanBundle_idle bundle world
    rw [Action.runIn_bind] at failed
    split at failed
    case h_2 scanned =>
      rw [scanned] at same
      exact (congrArg Prod.snd failed).symm.trans same
    case h_1 index middle scanned =>
      rw [scanned] at same
      rw [Action.runIn_bind, Action.writeText, Action.write, Action.runIn_changeTree] at failed
      split at failed
      case h_1 => cases failed
      case h_2 written =>
        split at written
        case h_1 => cases written
        case h_2 =>
          cases written
          exact (congrArg Prod.snd failed).symm.trans same

end

/-! Runs. -/

/-- The bundle of a version, in the cache. -/
def bundleOf (world : World) (version : String) : Path :=
  world.cache.child (Release.bundleName world.repository version)

/-- What can happen to a cache: servers change what they send, a version is downloaded, the index
of its bundle is asked for, or versions are cleaned away. -/
inductive CacheStep
  | serve (replies : List (String × Reply))
  | download (version : String) {report : Release.Progress} (quiet : report.Quiet)
  | index (version : String) (single : '/' ∉ version.toList)
  | clean (keep : List String) (keepLatest : Bool)

/-- The world after a step, whether it failed or not. -/
def CacheStep.run (step : CacheStep) (world : World) : World :=
  match step with
  | .serve replies => { world with replies }
  | @CacheStep.download version report _ =>
    ((Release.download (.string version) report).runIn world).2
  | .index version _ => ((bundleIndex (bundleOf world version)).runIn world).2
  | .clean keep keepLatest => ((Release.clean keep keepLatest).runIn world).2

def runSteps (world : World) (steps : List CacheStep) : World :=
  steps.foldl (fun world step => step.run world) world

def CacheStep.answer? (step : CacheStep) (version : String) (world : World) : Option Value :=
  match step with
  | .index other _ =>
    if other = version then ((bundleIndex (bundleOf world version)).runIn world).1.toOption else none
  | _ => none

/-- The first index that any step returns for the version. -/
def firstAnswer? (version : String) : List CacheStep → World → Option Value
  | [], _ => none
  | step :: rest, world =>
    (step.answer? version world).or (firstAnswer? version rest (step.run world))

/-- If the step is a cleaning, it keeps the bundle of the version. -/
def CacheStep.Spares (step : CacheStep) (version : String) (world : World) : Prop :=
  match step with
  | .clean keep keepLatest => Release.IsKept world keep keepLatest
      (Release.keptName (Release.bundleName world.repository version))
  | _ => True

/-- Every cleaning keeps the bundle of the version. -/
def Spared (version : String) : List CacheStep → World → Prop
  | [], _ => True
  | step :: rest, world => step.Spares version world ∧ Spared version rest (step.run world)

/-- Whenever the index of the bundle can be had, it is what a scan of the bundle gives. -/
def Fresh (world : World) (version : String) : Prop :=
  ∀ index after, (bundleIndex (bundleOf world version)).runIn world = (.ok index, after) →
    (scanBundle (bundleOf world version)).runIn world = (.ok index, world)

def indexPlace (world : World) (version : String) : Place :=
  world.cache.place world.here ++ [indexName (Release.bundleName world.repository version)]

section

variable {world : World} {version : String} {first : Value} {spared : Prop}

theorem indexPlace_settled {after : World} (settled : world.Settled after) (version : String) :
    indexPlace after version = indexPlace world version := by
  rw [indexPlace, indexPlace, settled.here, settled.cache, settled.repository]

theorem place_indexPath_bundleOf (single : '/' ∉ version.toList) :
    (indexPath (bundleOf world version)).place world.here = indexPlace world version := by
  have isName := Release.bundleName_isName world.repository single
  rw [bundleOf, indexPath_child isName, Path.place_child_name (indexName_isName isName), indexPlace]

theorem indexPlace_inj {other : String} (same : indexPlace world other = indexPlace world version) :
    other = version := by
  have names := List.singleton_inj.mp (List.append_cancel_left same)
  rw [indexName, indexName, String.append_left_inj, Release.bundleName, Release.bundleName,
    String.append_left_inj, String.append_right_inj] at names
  exact names

theorem index_grows (world : World) (single : '/' ∉ version.toList) :
    World.Grows (fun _ => False) (· = indexPlace world version) world
      ((bundleIndex (bundleOf world version)).runIn world).2 :=
  bundleIndex_growing (place_indexPath_bundleOf single) world rfl rfl

namespace CacheStep

theorem settled (step : CacheStep) (based : world.tree.Based) : world.Settled (step.run world) := by
  cases step with
  | serve replies => exact ⟨rfl, rfl, rfl⟩
  | download version quiet =>
      rw [run]
      exact (Release.download_grows based quiet version).toSettled
  | index version single =>
      rw [run]
      exact (index_grows world single).toSettled
  | clean keep keepLatest =>
      rw [run]
      exact Release.clean_settles keep keepLatest world

theorem based (step : CacheStep) (based : world.tree.Based) : (step.run world).tree.Based := by
  cases step with
  | serve replies => exact based
  | download version quiet =>
      rw [run]
      exact (Release.download_grows based quiet version).tree.isBased based
  | index version single =>
      rw [run]
      exact (index_grows world single).tree.isBased based
  | clean keep keepLatest =>
      rw [run]
      exact Release.clean_based keep keepLatest world based

theorem undisturbed (step : CacheStep) (based : world.tree.Based)
    (other : ∀ single, step ≠ .index version single) :
    Tree.Undisturbed (indexPlace world version) world.tree (step.run world).tree := by
  cases step with
  | serve replies => exact .inl rfl
  | download otherVersion quiet =>
      rw [run]
      refine (Release.download_grows based quiet otherVersion).tree.undisturbed ?_
      rintro ⟨_, area, last, same, ends⟩
      obtain rfl := List.singleton_inj.mp (List.append_inj_right' same rfl)
      exact indexName_not_bundle _ ends
  | index otherVersion single =>
      rw [run]
      refine (index_grows world single).tree.undisturbed fun same => ?_
      obtain rfl := indexPlace_inj same
      exact other single rfl
  | clean keep keepLatest =>
      rw [run, indexPlace]
      exact Release.clean_undisturbed keep keepLatest world (indexName_unlike _)

theorem answer?_other (step : CacheStep) (other : ∀ single, step ≠ .index version single) :
    step.answer? version world = none := by
  cases step with
  | index otherVersion single =>
      refine if_neg ?_
      rintro rfl
      exact other single rfl
  | serve _ => rfl
  | download _ _ => rfl
  | clean _ _ => rfl

end CacheStep

/-- No index of the version is kept. -/
def Unkept (world : World) (version : String) : Prop :=
  ∀ content, world.tree.at? (indexPlace world version) ≠ some (.file content)

def Scanned (world : World) (version : String) (index : Value) : Prop :=
  ∃ content members, world.tree.at? (Release.bundlePlace world version) = some (.file content) ∧
    content.packedMembers = .ok members ∧ index = (Index.ofPaths (members.map (·.1))).json

/-- The first index is kept, and is still what a scan gives if the bundle was spared. -/
structure Recalled (spared : Prop) (world : World) (version : String) (first : Value) : Prop where
  exact : first.Exact
  kept : world.tree.at? (indexPlace world version) = some (.file (.ofText first.spaced))
  scanned : spared → Scanned world version first

theorem scanned_iff (single : '/' ∉ version.toList)
    (there : world.tree.hasDirectory world.here world.cache = true) :
    Scanned world version first ↔
      (scanBundle (bundleOf world version)).runIn world = (.ok first, world) := by
  have isName := Release.bundleName_isName world.repository single
  rw [scanBundle_ok_iff, Scanned, Release.bundlePlace, Path.place_child_name isName]
  constructor
  · rintro ⟨content, members, found, isMembers, isIndex⟩
    exact ⟨rfl, content, members, Tree.read_child isName there found, isMembers, isIndex⟩
  · rintro ⟨_, content, members, read, isMembers, isIndex⟩
    have found := Tree.find?_of_read read
    rw [bundleOf, Tree.find?_child isName there] at found
    exact ⟨content, members, found, isMembers, isIndex⟩

theorem CacheStep.scanned (step : CacheStep) (single : '/' ∉ version.toList)
    (based : world.tree.Based) (spares : step.Spares version world)
    (scanned : Scanned world version first) : Scanned (step.run world) version first := by
  obtain ⟨content, members, found, rest⟩ := scanned
  have settled := step.settled based
  have samePlace : Release.bundlePlace (step.run world) version =
      Release.bundlePlace world version := by
    rw [Release.bundlePlace, Release.bundlePlace, settled.here, settled.cache, settled.repository]
  refine ⟨content, members, ?_, rest⟩
  rw [samePlace]
  cases step with
  | serve replies => exact found
  | download other quiet =>
      rw [run]
      refine (Release.download_grows based quiet other).tree.still ?_ found
      rintro ⟨absent, _⟩
      rw [found] at absent
      cases absent
  | index other otherSingle =>
      rw [run]
      refine (index_grows world otherSingle).tree.still (fun same => ?_) found
      rw [Release.bundlePlace, Path.place_child_name (Release.bundleName_isName _ single),
        indexPlace] at same
      have names := List.singleton_inj.mp (List.append_cancel_left same)
      refine indexName_not_bundle (Release.bundleName world.repository other) ?_
      rw [← names, Release.bundleName_toList]
      exact List.suffix_append _ _
  | clean keep keepLatest =>
      rw [run]
      exact Release.clean_spares_kept single found spares

theorem Recalled.step (step : CacheStep) (single : '/' ∉ version.toList)
    (based : world.tree.Based) (recalled : Recalled spared world version first) :
    Recalled (spared ∧ step.Spares version world) (step.run world) version first := by
  refine ⟨recalled.exact, ?_, fun both => step.scanned single based both.2 (recalled.scanned both.1)⟩
  rw [indexPlace_settled (step.settled based)]
  by_cases other : ∀ single, step ≠ .index version single
  · rcases step.undisturbed based other with same | ⟨absent, _⟩
    · exact same.trans recalled.kept
    · rw [recalled.kept] at absent
      cases absent
  · -- A look at the index itself finds it kept, and writes nothing.
    simp only [not_forall, not_not] at other
    obtain ⟨_, rfl⟩ := other
    rw [CacheStep.run]
    rcases run : (bundleIndex (bundleOf world version)).runIn world with ⟨failure | value, after⟩
    · rw [bundleIndex_error run]
      exact recalled.kept
    · obtain ⟨_, ⟨same, _⟩ | ⟨absent, _⟩⟩ :=
        bundleIndex_ok (Release.bundleName_isName _ single) run
      · rw [same]
        exact recalled.kept
      · rw [← indexPlace, recalled.kept] at absent
        cases absent

theorem Recalled.run (single : '/' ∉ version.toList) (based : world.tree.Based)
    (recalled : Recalled spared world version first) (steps : List CacheStep) :
    Recalled (spared ∧ Spared version steps world) (runSteps world steps) version first := by
  induction steps generalizing world spared with
  | nil => exact ⟨recalled.exact, recalled.kept, fun both => recalled.scanned both.1⟩
  | cons step rest ih =>
      have after := ih (step.based based) (recalled.step step single based)
      exact ⟨after.exact, after.kept, fun both => after.scanned ⟨⟨both.1, both.2.1⟩, both.2.2⟩⟩

theorem Unkept.step (step : CacheStep) (single : '/' ∉ version.toList) (based : world.tree.Based)
    (unkept : Unkept world version) :
    (step.answer? version world = none → Unkept (step.run world) version) ∧
      ∀ first, step.answer? version world = some first →
        Recalled True (step.run world) version first := by
  have samePlace := indexPlace_settled (step.settled based) version
  by_cases other : ∀ single, step ≠ .index version single
  · refine ⟨fun _ content => ?_, fun first answered => ?_⟩
    · rw [samePlace]
      rcases step.undisturbed based other with same | ⟨_, isDirectory⟩
      · rw [same]
        exact unkept content
      · rw [isDirectory]
        nofun
    · rw [step.answer?_other other] at answered
      cases answered
  · simp only [not_forall, not_not] at other
    obtain ⟨_, rfl⟩ := other
    have answer : (CacheStep.index version single).answer? version world =
        ((bundleIndex (bundleOf world version)).runIn world).1.toOption := if_pos rfl
    rcases run : (bundleIndex (bundleOf world version)).runIn world with ⟨failure | value, after⟩
    · rw [answer, CacheStep.run, run, bundleIndex_error run]
      exact ⟨fun _ => unkept, nofun⟩
    · obtain ⟨there, ⟨_, content, _, found, _⟩ | ⟨_, scan, kept⟩⟩ :=
        bundleIndex_ok (Release.bundleName_isName _ single) run
      · exact absurd found (unkept content)
      · have scanned := (CacheStep.index version single).scanned single based trivial
          ((scanned_iff single there).mpr scan)
        rw [answer, run]
        rw [← indexPlace, ← samePlace, CacheStep.run, run] at kept
        rw [CacheStep.run, run] at scanned ⊢
        refine ⟨nofun, fun first same => ?_⟩
        cases same
        exact ⟨scanBundle_exact scan, kept, fun _ => scanned⟩

theorem Unkept.run (single : '/' ∉ version.toList) (based : world.tree.Based)
    (unkept : Unkept world version) (steps : List CacheStep) :
    (firstAnswer? version steps world = none → Unkept (runSteps world steps) version) ∧
      ∀ first, firstAnswer? version steps world = some first →
        Recalled (Spared version steps world) (runSteps world steps) version first := by
  induction steps generalizing world with
  | nil => exact ⟨fun _ => unkept, nofun⟩
  | cons step rest ih =>
      obtain ⟨none, some⟩ := unkept.step step single based
      rw [firstAnswer?]
      cases answered : step.answer? version world with
      | none =>
          obtain ⟨restNone, restSome⟩ := ih (step.based based) (none answered)
          refine ⟨restNone, fun first found => ?_⟩
          have recalled := restSome first found
          exact ⟨recalled.exact, recalled.kept, fun spared => recalled.scanned spared.2⟩
      | some first =>
          refine ⟨nofun, fun other same => ?_⟩
          cases same
          have recalled := (some first answered).run single (step.based based) rest
          exact ⟨recalled.exact, recalled.kept, fun spared => recalled.scanned ⟨trivial, spared.2⟩⟩

theorem Unkept.fresh (single : '/' ∉ version.toList) (unkept : Unkept world version) :
    Fresh world version := by
  intro index after run
  obtain ⟨_, ⟨_, content, _, found, _⟩ | ⟨_, scanned, _⟩⟩ :=
    bundleIndex_ok (Release.bundleName_isName _ single) run
  · exact absurd found (unkept content)
  · exact scanned

theorem Recalled.answer (single : '/' ∉ version.toList)
    (recalled : Recalled spared world version first) {index : Value} {after : World}
    (run : (bundleIndex (bundleOf world version)).runIn world = (.ok index, after)) :
    index = first ∧ world.tree.hasDirectory world.here world.cache = true := by
  obtain ⟨there, ⟨_, content, text, found, isText, read⟩ | ⟨absent, _⟩⟩ :=
    bundleIndex_ok (Release.bundleName_isName _ single) run
  · obtain ⟨sameText, sameIndex⟩ := Json.read_spaced recalled.exact
    rw [← indexPlace, recalled.kept] at found
    cases found
    cases sameText.symm.trans isText
    exact ⟨Except.ok.inj (read.symm.trans sameIndex), there⟩
  · rw [← indexPlace, recalled.kept] at absent
    cases absent

/-- After any run from a cache in which no index of the version is kept, an index that can be had
is what a scan gives exactly if a scan gives what the first answer was. It does if every cleaning
kept the bundle. -/
theorem fresh_runSteps_iff (single : '/' ∉ version.toList) (based : world.tree.Based)
    (unkept : Unkept world version) (steps : List CacheStep) :
    (Fresh (runSteps world steps) version ↔
      ∀ first, firstAnswer? version steps world = some first →
        ((bundleIndex (bundleOf (runSteps world steps) version)).runIn
          (runSteps world steps)).1.isOk = true →
        ((scanBundle (bundleOf (runSteps world steps) version)).runIn (runSteps world steps)).1 =
          .ok first) ∧
    (Spared version steps world → Fresh (runSteps world steps) version) := by
  obtain ⟨none, some⟩ := unkept.run single based steps
  generalize runSteps world steps = final at none some ⊢
  cases answered : firstAnswer? version steps world with
  | none =>
      have fresh := (none answered).fresh single
      exact ⟨⟨fun _ _ => nofun, fun _ => fresh⟩, fun _ => fresh⟩
  | some first =>
      have recalled := some first answered
      refine ⟨⟨fun fresh other same isOk => ?_, fun still index after run => ?_⟩,
        fun spared index after run => ?_⟩
      · cases same
        rcases run : (bundleIndex (bundleOf final version)).runIn final with ⟨_ | index, after⟩
        · rw [run] at isOk
          cases isOk
        · rw [fresh index after run, (recalled.answer single run).1]
      · obtain ⟨rfl, _⟩ := recalled.answer single run
        exact Prod.ext (still index rfl (by rw [run]; rfl)) (scanBundle_idle _ _)
      · obtain ⟨rfl, there⟩ := recalled.answer single run
        exact (scanned_iff single there).mp (recalled.scanned spared)

end

def serveRunner (name : String) : CacheStep :=
  .serve [(Release.assetUrl "genlayerlabs/genvm-manager" "v1" "genvm-runners-all.tar.xz",
    .body (.archive true [(name, some (.archive false []))]) none none)]

def renewal (keep : List String) : List CacheStep :=
  [serveRunner "runners/k/aa/b.tar", .download "v1" Release.noteProgress_quiet,
    .index "v1" (by decide), serveRunner "runners/k/cc/d.tar", .clean keep false,
    .download "v1" Release.noteProgress_quiet]

def emptyCache : World := { cache := .ofRoot ["cache"] }

theorem emptyCache_unkept (version : String) : Unkept emptyCache version := by
  intro content
  have nothing : emptyCache.tree.at? (indexPlace emptyCache version) = none :=
    Tree.at?_of_ne (by simp [indexPlace])
  rw [nothing]
  nofun

theorem fresh_renewal_keeping :
    ('/' ∉ "v1".toList ∧ emptyCache.tree.Sound ∧ Unkept emptyCache "v1") ∧
    Fresh (runSteps emptyCache (renewal ["genlayerlabs-genvm-manager-v1"])) "v1" := by
  have sound : emptyCache.tree.Sound := by decide
  refine ⟨⟨by decide, sound, emptyCache_unkept "v1"⟩, ?_⟩
  refine (fresh_runSteps_iff (by decide) sound.based (emptyCache_unkept "v1") _).2 ?_
  exact ⟨trivial, trivial, trivial, trivial, .inl (by decide +kernel), trivial, trivial⟩

theorem not_fresh_renewal : ¬Fresh (runSteps emptyCache (renewal [])) "v1" := by
  intro fresh
  have shown :
      (((bundleIndex (bundleOf (runSteps emptyCache (renewal [])) "v1")).runIn
          (runSteps emptyCache (renewal []))).1.toOption.map Value.spaced,
        ((scanBundle (bundleOf (runSteps emptyCache (renewal [])) "v1")).runIn
          (runSteps emptyCache (renewal []))).1.toOption.map Value.spaced) =
      (some "\x7b\"k\": [\"runners/k/aa/b.tar\"]\x7d",
        some "\x7b\"k\": [\"runners/k/cc/d.tar\"]\x7d") := by
    decide +kernel
  rcases run : (bundleIndex (bundleOf (runSteps emptyCache (renewal [])) "v1")).runIn
      (runSteps emptyCache (renewal [])) with ⟨failure | index, after⟩
  · rw [run] at shown
    cases shown
  · rw [run, fresh index after run] at shown
    obtain ⟨old, new⟩ := Prod.mk.inj shown
    exact absurd (old.symm.trans new) (by decide)

end Runner

end ContractLint
