import ContractLint.Command.Run
import ContractLint.Proofs.Release.Cleaning
import ContractLint.Proofs.Release.Isolation

/-! The preview of a cleaning. It reads the version off the name of a bundle where the cleaning looks
up what is left of the name, so that the two agree only on bundles for which either is kept or
neither. -/

namespace ContractLint.Release

open Json (Value)

theorem fetchText_steady (world : World) (url : String) : (fetchText url).Steady world := by
  refine .bind (.request url) fun body => ?_
  split
  · exact .throw _
  · split
    · exact .pure _
    · exact .throw _

theorem listedVersion_steady (world : World) : listedVersion?.Steady world := by
  refine .reading (.bind (fetchText_steady world _) fun text => ?_) fun _ _ _ => rfl
  refine .bind ?_ fun listing => .bind (.reading (.pure _) fun _ _ _ => rfl) fun early => ?_
  · refine .reading ?_ fun _ _ _ => rfl
    split
    · exact .pure _
    · exact .throw _
  · dsimp only [Action.attempt]
    split
    · exact .pure _
    · exact .throw _

theorem latestVersion_steady (world : World) : latestVersion.Steady world := by
  refine .reading (.bind (listedVersion_steady world).outcome fun found => ?_) fun _ _ _ => rfl
  split
  · exact .pure _
  · exact .bind (.complain _) fun _ => .pure _
  · exact .bind (.complain _) fun _ => .pure _

def newest (world : World) : Value := (latestVersion.runIn world).1.toOption.getD .null

theorem latestVersion_run (world : World) (output errors : String) (requests : List String) :
    ∃ said asked, latestVersion.runIn (world.heard output errors requests) =
      (.ok (newest world), world.heard output said asked) := by
  obtain ⟨result, runs⟩ := latestVersion_steady world
  obtain ⟨version, found⟩ := latestVersion_ok world
  obtain ⟨_, _, here⟩ := runs world.output world.errors world.requests
  have same : result = .ok (newest world) := by
    rw [newest, found]
    exact (congrArg Prod.fst here).symm.trans found
  rw [← same]
  exact runs output errors requests

def isNewest (world : World) (version : String) : Bool :=
  match newest world with
  | .string latest => version = latest
  | _ => false

theorem isNewest_iff {world : World} {version : String} :
    isNewest world version = true ↔ newest world = .string version := by
  unfold isNewest
  cases newest world with
  | string latest => simp [eq_comm]
  | _ => simp

theorem isKept_iff {world : World} {keep : List String} {keepLatest : Bool} {version : String} :
    IsKept world keep keepLatest version ↔
      version ∈ keep ∨ keepLatest = true ∧ newest world = .string version := by
  obtain ⟨found, isFound⟩ := latestVersion_ok world
  simp [IsKept, newest, isFound, Except.toOption]

end ContractLint.Release

namespace ContractLint.Command

open Files (Path)
open Release

/-- What a preview says about a version. -/
inductive Notice
  | keeps (version : String)
  | deletes (version : String)
deriving Repr, DecidableEq

def Notice.line : Notice → String
  | .keeps version => "Would keep: " ++ version ++ "\n"
  | .deletes version => "Would delete: " ++ version ++ "\n"

@[simp] theorem Notice.line_keeps (version : String) :
    (Notice.keeps version).line = "Would keep: " ++ version ++ "\n" := rfl

@[simp] theorem Notice.line_deletes (version : String) :
    (Notice.deletes version).line = "Would delete: " ++ version ++ "\n" := rfl

def notice? (world : World) (keep : List String) (all : Bool) (version : String) : Option Notice :=
  if version ∈ keep then some (.keeps version)
  else if all = false ∧ isNewest world version then none
  else some (.deletes version)

/-- The line about the newest version that a preview starts with. -/
def heading (world : World) (all : Bool) : String :=
  if all then "" else "Would keep latest: " ++ (newest world).plain ++ "\n"

/-- The versions in the cache, as far as the repository lists them. -/
def listedVersions (world : World) : List String :=
  versionsIn world.tree (world.cache.place world.here) world.repository

def notices (world : World) (keep : List String) (all : Bool) : List Notice :=
  (listedVersions world).filterMap (notice? world keep all)

theorem printLine_run (text : String) (world : World) (output errors : String)
    (requests : List String) : (Action.printLine text).runIn (world.heard output errors requests) =
      (.ok (), world.heard (output ++ (text ++ "\n")) errors requests) := rfl

theorem previewVersion_run (world : World) (keep : List String) (all : Bool) (version : String)
    (output errors : String) (requests : List String) : ∃ said asked,
      (previewVersion keep all version).runIn (world.heard output errors requests) =
        (.ok (), world.heard (output ++ String.join
          ((notice? world keep all version).toList.map Notice.line)) said asked) := by
  unfold previewVersion notice?
  by_cases kept : version ∈ keep
  · refine ⟨errors, requests, ?_⟩
    rw [if_pos (List.contains_iff_mem.mpr kept), if_pos kept, printLine_run]
    simp
  · cases all with
    | true => exact ⟨errors, requests, by simp [kept, printLine_run]⟩
    | false =>
        obtain ⟨said, asked, run⟩ := latestVersion_run world output errors requests
        refine ⟨said, asked, ?_⟩
        simp only [List.contains_iff_mem, kept, Bool.false_eq_true, if_false, Action.runIn_bind, run,
          isNewest]
        cases newest world with
        | string latest =>
            by_cases isLatest : version = latest
            · simp [isLatest]
            · simp [isLatest, printLine_run]
        | _ => simp [printLine_run]

theorem previewVersions_run (world : World) (keep : List String) (all : Bool)
    (versions : List String) (output errors : String) (requests : List String) : ∃ said asked,
      (versions.forM (previewVersion keep all)).runIn (world.heard output errors requests) =
        (.ok (), world.heard (output ++ String.join
          ((versions.filterMap (notice? world keep all)).map Notice.line)) said asked) := by
  induction versions generalizing output errors requests with
  | nil => exact ⟨errors, requests, by simp [String.join]⟩
  | cons version rest ih =>
      obtain ⟨said, asked, first⟩ := previewVersion_run world keep all version output errors requests
      obtain ⟨said, asked, more⟩ := ih (output ++ String.join
        ((notice? world keep all version).toList.map Notice.line)) said asked
      refine ⟨said, asked, ?_⟩
      rw [List.forM, Action.runIn_bind, first]
      dsimp only
      rw [more, List.filterMap_cons]
      cases notice? world keep all version with
      | none => simp
      | some notice => simp [String.append_assoc]

theorem previewClean_run {world : World}
    (there : world.tree.hasDirectory world.here world.cache = true) (keep : List String)
    (all : Bool) : ∃ said asked, (previewClean keep all).runIn world =
      (.ok 0, world.heard (world.output ++ heading world all ++
        String.join ((notices world keep all).map Notice.line)) said asked) := by
  have listed := cachedVersions_of_there there
  unfold heading notices
  cases all with
  | true =>
      obtain ⟨said, asked, run⟩ := previewVersions_run world keep true (listedVersions world)
        world.output world.errors world.requests
      refine ⟨said, asked, ?_⟩
      have said : ((listedVersions world).forM (previewVersion keep true)).runIn world = _ := run
      simp only [previewClean, Action.runIn_bind, listed, Bool.not_true, Bool.false_eq_true, if_false]
      rw [← listedVersions, said]
      simp
  | false =>
      obtain ⟨said, asked, found⟩ := latestVersion_run world world.output world.errors world.requests
      obtain ⟨said, asked, run⟩ := previewVersions_run world keep false (listedVersions world)
        (world.output ++ ("Would keep latest: " ++ (newest world).plain ++ "\n")) said asked
      refine ⟨said, asked, ?_⟩
      have found : latestVersion.runIn world = _ := found
      simp only [previewClean, Action.runIn_bind, listed, Bool.not_false, if_true, found,
        printLine_run]
      rw [← listedVersions, run]
      simp

def WouldDelete (world : World) (keep : List String) (all : Bool) (version : String) : Prop :=
  .deletes version ∈ notices world keep all

def Removes (world : World) (keep : List String) (all : Bool) (version : String) : Prop :=
  (world.tree.at? (bundlePlace world version)).isSome ∧
    ((Request.cacheClean keep all false).run.runIn world).2.tree.at? (bundlePlace world version) =
      none

/-- The versions that a preview would delete are those whose bundles a cleaning takes away. -/
def PreviewAgrees (world : World) (keep : List String) (all : Bool) : Prop :=
  ∀ version, '/' ∉ version.toList →
    (WouldDelete world keep all version ↔ Removes world keep all version)

/-- A cache as downloads leave it: each listed bundle has the name that its version gives it, and no
bundle is a directory. -/
structure TidyCache (world : World) : Prop where
  there : world.tree.hasDirectory world.here world.cache = true
  plain : ∀ c ∈ world.repository.toList, Text.IsPlain c
  named : ∀ name ∈ world.tree.namesLike (world.cache.place world.here)
      (repositoryStart world.repository ++ "*" ++ bundleEnding),
    bundleName world.repository (versionOf world.repository name) = name
  files : ∀ name ∈ world.tree.namesLike (world.cache.place world.here)
      (bundleStart ++ "*" ++ bundleEnding),
    world.tree.at? (world.cache.place world.here ++ [name]) ≠ some .directory

theorem notice?_eq_deletes_iff {world : World} {keep : List String} {all : Bool}
    {version other : String} : notice? world keep all other = some (.deletes version) ↔
      other = version ∧ ¬IsKept world keep (!all) version := by
  unfold notice?
  rw [isKept_iff, ← isNewest_iff]
  by_cases kept : other ∈ keep
  · simp only [kept, if_true]
    constructor
    · intro same
      cases same
    · rintro ⟨rfl, notKept⟩
      exact absurd (.inl kept) notKept
  · by_cases passed : all = false ∧ isNewest world other = true
    · simp only [kept, passed, and_self, if_false, if_true]
      constructor
      · intro same
        cases same
      · rintro ⟨rfl, notKept⟩
        exact absurd (.inr ⟨rfl, passed.2⟩) notKept
    · simp only [kept, passed, if_false]
      constructor
      · intro same
        cases same
        refine ⟨rfl, ?_⟩
        rintro (isKept | ⟨keepsLatest, isLatest⟩)
        · exact kept isKept
        · exact passed ⟨by simpa using keepsLatest, isLatest⟩
      · rintro ⟨rfl, _⟩
        rfl

theorem wouldDelete_iff {world : World} {keep : List String} {all : Bool} {version : String} :
    WouldDelete world keep all version ↔
      version ∈ listedVersions world ∧ ¬IsKept world keep (!all) version := by
  unfold WouldDelete notices
  simp only [List.mem_filterMap, notice?_eq_deletes_iff]
  constructor
  · rintro ⟨_, listed, rfl, notKept⟩
    exact ⟨listed, notKept⟩
  · rintro ⟨listed, notKept⟩
    exact ⟨version, listed, rfl, notKept⟩

theorem cleanCache_tree (world : World) (keep : List String) (all : Bool) :
    ((cleanCache keep all).runIn world).2.tree = ((clean keep !all).runIn world).2.tree := by
  rw [cleanCache, Action.runIn_bind]
  rcases (clean keep !all).runIn world with ⟨_ | cleaned, after⟩
  · rfl
  · dsimp only
    split <;> rfl

theorem mem_listedVersions_iff {world : World} {version : String} :
    version ∈ listedVersions world ↔ ∃ name ∈ world.tree.namesLike (world.cache.place world.here)
      (repositoryStart world.repository ++ "*" ++ bundleEnding),
        versionOf world.repository name = version := by
  rw [listedVersions, versionsIn, newestFirst, List.mem_mergeSort, List.mem_map]

theorem TidyCache.listed_iff {world : World} (tidy : TidyCache world) {version : String} :
    version ∈ listedVersions world ↔ (world.tree.at? (world.cache.place world.here ++
      [bundleName world.repository version])).isSome := by
  rw [mem_listedVersions_iff]
  constructor
  · rintro ⟨name, listed, rfl⟩
    rw [tidy.named name listed]
    exact (mem_namesLike_iff.mp listed).1
  · intro there
    have listed := mem_namesLike_iff.mpr ⟨there, (Release.listed_iff tidy.plain).mpr
      (List.prefix_append _ _)⟩
    exact ⟨_, listed, bundleName_injective (tidy.named _ listed)⟩

theorem TidyCache.removes_iff {world : World} (tidy : TidyCache world) {keep : List String}
    {all : Bool} {version : String} (single : '/' ∉ version.toList) :
    Removes world keep all version ↔ version ∈ listedVersions world ∧
      ¬IsKept world keep (!all) (keptName (bundleName world.repository version)) := by
  have place : bundlePlace world version =
      world.cache.place world.here ++ [bundleName world.repository version] :=
    Path.place_child_name (bundleName_isName _ single) _ _
  have same : ((Request.cacheClean keep all false).run.runIn world).2.tree =
      ((clean keep !all).runIn world).2.tree := cleanCache_tree world keep all
  rw [Removes, tidy.listed_iff, same, place]
  refine and_congr_right fun there => ?_
  obtain ⟨names, found, isName⟩ := keptVersions_ok world keep !all
  obtain ⟨middle, sameTree, run⟩ := clean_of_there tidy.there found
  rw [run, ← isName]
  constructor
  · intro gone kept
    rw [at?_cleanDirectory_of_kept kept, sameTree] at gone
    rw [gone] at there
    cases there
  · intro notKept
    rw [← sameTree] at there
    refine at?_cleanDirectory_of_not_kept notKept (bundleName_mem_namesLike there) (.inr ?_)
    intro name doomed
    rw [sameTree] at doomed ⊢
    exact tidy.files name (List.mem_filter.mp doomed).1

/-- A preview prints its notices and nothing else. In a tidy cache it agrees with the cleaning
exactly if no version is kept without what is left of its bundle's name, or the other way round. -/
theorem previewAgrees_iff {world : World} (tidy : TidyCache world) (keep : List String)
    (all : Bool) :
    (∃ said asked, (Request.cacheClean keep all true).run.runIn world =
      (.ok 0, world.heard (world.output ++ heading world all ++
        String.join ((notices world keep all).map Notice.line)) said asked)) ∧
    (PreviewAgrees world keep all ↔ ∀ version ∈ listedVersions world, '/' ∉ version.toList →
      (IsKept world keep (!all) version ↔
        IsKept world keep (!all) (keptName (bundleName world.repository version)))) := by
  refine ⟨previewClean_run tidy.there keep all, ?_, ?_⟩
  · intro agrees version listed single
    have same := agrees version single
    rw [wouldDelete_iff, tidy.removes_iff single] at same
    exact not_iff_not.mp ⟨fun notKept => (same.mp ⟨listed, notKept⟩).2,
      fun notKept => (same.mpr ⟨listed, notKept⟩).2⟩
  · intro same version single
    rw [wouldDelete_iff, tidy.removes_iff single]
    exact and_congr_right fun listed => not_congr (same version listed single)

theorem tidy_oneBundle {repository version : String}
    (plain : ∀ c ∈ repository.toList, Text.IsPlain c)
    (reads : versionOf repository (bundleName repository version) = version) :
    TidyCache (oneBundle repository version) := by
  have entry (name : String) : (oneBundle repository version).tree.at?
      ((oneBundle repository version).cache.place (oneBundle repository version).here ++ [name]) =
        if name = bundleName repository version then some (.file (.bytes [])) else none :=
    at?_oneBundle repository version name
  refine ⟨rfl, plain, ?_, ?_⟩
  · intro name listed
    have there := (mem_namesLike_iff.mp listed).1
    rw [entry] at there
    by_cases same : name = bundleName repository version
    · rw [same]
      exact congrArg (bundleName repository) reads
    · rw [if_neg same] at there
      cases there
  · intro name _
    rw [entry]
    split <;> simp

theorem listed_oneBundle {repository version other : String}
    (tidy : TidyCache (oneBundle repository version)) :
    other ∈ listedVersions (oneBundle repository version) ↔ other = version := by
  have entry := at?_oneBundle repository version (bundleName repository other)
  refine tidy.listed_iff.trans ?_
  change ((oneBundle repository version).tree.at? (["cache"] ++ [bundleName repository other])).isSome
    ↔ other = version
  rw [entry]
  constructor
  · intro there
    by_cases same : bundleName repository other = bundleName repository version
    · exact bundleName_injective same
    · rw [if_neg same] at there
      cases there
  · rintro rfl
    simp

theorem not_isKept_of_notMem {world : World} {keep : List String} {version : String}
    (absent : version ∉ keep) : ¬IsKept world keep false version := by
  rintro (listed | ⟨latest, _⟩)
  · exact absent listed
  · cases latest

def defaultBundle : World := oneBundle "genlayerlabs/genvm-manager" "v1"

theorem defaultBundle_tidy : TidyCache defaultBundle :=
  tidy_oneBundle (Text.isPlain_of_all (by decide)) (by decide)

theorem previewAgrees_other_kept : TidyCache defaultBundle ∧
    WouldDelete defaultBundle ["v2"] true "v1" ∧ PreviewAgrees defaultBundle ["v2"] true := by
  have listed {version : String} : version ∈ listedVersions defaultBundle ↔ version = "v1" :=
    listed_oneBundle defaultBundle_tidy
  have notKept : ¬IsKept defaultBundle ["v2"] false "v1" := not_isKept_of_notMem (by decide)
  refine ⟨defaultBundle_tidy, wouldDelete_iff.mpr ⟨listed.mpr rfl, notKept⟩,
    (previewAgrees_iff defaultBundle_tidy ["v2"] true).2.mpr ?_⟩
  intro version isListed single
  obtain rfl := listed.mp isListed
  exact iff_of_false notKept (not_isKept_of_notMem (by decide))

theorem not_previewAgrees_default : ¬PreviewAgrees defaultBundle ["v1"] true := by
  intro agrees
  have listed := (listed_oneBundle defaultBundle_tidy).mpr rfl
  have removes : Removes defaultBundle ["v1"] true "v1" :=
    (defaultBundle_tidy.removes_iff (by decide)).mpr
      ⟨listed, not_isKept_of_notMem (by decide)⟩
  have announced := (agrees "v1" (by decide)).mpr removes
  exact (wouldDelete_iff.mp announced).2 (.inl List.mem_cons_self)

end ContractLint.Command
