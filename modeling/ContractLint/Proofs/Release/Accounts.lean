import Mathlib.Algebra.BigOperators.Group.List.Basic
import Mathlib.Algebra.Ring.Nat
import Mathlib.Data.List.Induction
import ContractLint.Proofs.Files.Listings
import ContractLint.Proofs.Release.Cleaning

/-! What a cleaning takes away and what it counts. It goes over the cache three times, for bundles,
extracted runners and stubs; each time it counts the files that go, and nothing else goes. -/

namespace ContractLint.Release

open Files (Content Entry Path Place Tree)

def filesIn (entries : List (Place × Entry)) : List (Place × Content) :=
  entries.filterMap fun (place, entry) =>
    match entry with
    | .file content => some (place, content)
    | .directory => none

theorem mem_filesIn_iff {entries : List (Place × Entry)} {place : Place} {content : Content} :
    (place, content) ∈ filesIn entries ↔ (place, .file content) ∈ entries := by
  rw [filesIn, List.mem_filterMap]
  constructor
  · rintro ⟨⟨other, _ | found⟩, member, chosen⟩
    · cases chosen
    · cases chosen
      exact member
  · exact fun member => ⟨_, member, rfl⟩

theorem places_filesIn_sublist (entries : List (Place × Entry)) :
    ((filesIn entries).map (·.1)).Sublist (entries.map (·.1)) := by
  induction entries with
  | nil => exact .slnil
  | cons entry entries ih =>
      obtain ⟨place, _ | content⟩ := entry
      · exact ih.cons place
      · exact ih.cons_cons place

theorem countFiles_eq (entries : List (Place × Entry)) : countFiles entries =
    ⟨(filesIn entries).length, ((filesIn entries).map fun file => file.2.size).sum⟩ := by
  induction entries using List.reverseRecOn with
  | nil => rfl
  | append_singleton entries entry ih =>
      rw [countFiles] at ih ⊢
      rw [List.foldl_append, ih]
      obtain ⟨place, _ | content⟩ := entry
      · simp [filesIn]
      · simp [filesIn]

theorem countFiles_add {entries first second : List (Place × Entry)}
    (parts : entries.Perm (first ++ second)) :
    countFiles entries = (countFiles first).add (countFiles second) := by
  have files : (filesIn entries).Perm (filesIn first ++ filesIn second) := by
    rw [filesIn, filesIn, filesIn, ← List.filterMap_append]
    exact parts.filterMap _
  have sizes := (files.map fun file => file.2.size).sum_eq
  simp only [countFiles_eq, Cleaned.add, files.length_eq, sizes, List.map_append, List.sum_append,
    List.length_append]

/-- The second tree is the first one without some places, and the files at these were counted. -/
structure Swept (gone : Place → Bool) (tree after : Tree) (cleaned : Cleaned) : Prop where
  entries : after.entries = tree.entries.filter fun entry => !gone entry.1
  counted : cleaned = countFiles (tree.entries.filter fun entry => gone entry.1)

namespace Swept

variable {gone more : Place → Bool} {tree middle after : Tree} {cleaned further : Cleaned}

theorem trans (first : Swept gone tree middle cleaned) (second : Swept more middle after further) :
    Swept (fun place => gone place || more place) tree after (cleaned.add further) where
  entries := by
    rw [second.entries, first.entries, List.filter_filter]
    simp [Bool.and_comm]
  counted := by
    rw [first.counted, second.counted, first.entries, List.filter_filter]
    refine (countFiles_add ?_).symm
    have parted := List.filter_append_perm (fun entry : Place × Entry => gone entry.1)
      (tree.entries.filter fun entry => gone entry.1 || more entry.1)
    rw [List.filter_filter, List.filter_filter] at parted
    refine parted.symm.trans (.of_eq ?_)
    congr 1 <;> refine List.filter_congr fun entry _ => ?_ <;>
      by_cases here : gone entry.1 = true <;> simp [here]

theorem at?_after (swept : Swept gone tree after cleaned) {place : Place} (inner : place ≠ []) :
    after.at? place = if gone place then none else tree.at? place := by
  rw [Tree.at?_of_ne inner, Tree.at?_of_ne inner, swept.entries]
  refine (Tree.lookup_filter_places fun found => !gone found).trans ?_
  cases gone place <;> rfl

theorem isDistinct (swept : Swept gone tree after cleaned) (distinct : tree.Distinct) :
    after.Distinct := by
  rw [Tree.Distinct, swept.entries]
  exact distinct.sublist (List.filter_sublist.map _)

theorem exists_lost (swept : Swept gone tree after cleaned) (distinct : tree.Distinct)
    (root : gone [] = false) : ∃ lost : List (Place × Content), (lost.map (·.1)).Nodup ∧
      (∀ place content, (place, content) ∈ lost ↔
        tree.at? place = some (.file content) ∧ after.at? place = none) ∧
      cleaned = ⟨lost.length, (lost.map fun file => file.2.size).sum⟩ := by
  refine ⟨_, distinct.sublist ((places_filesIn_sublist _).trans (List.filter_sublist.map _)), ?_,
    swept.counted.trans (countFiles_eq _)⟩
  intro place content
  rw [mem_filesIn_iff, List.mem_filter]
  by_cases inner : place = []
  · simp [inner, root, Tree.at?_root]
  · rw [distinct.mem_entries_iff inner, swept.at?_after inner]
    by_cases isGone : gone place = true
    · simp [isGone]
    · simp only [isGone, and_false, false_iff, not_and, Bool.false_eq_true, if_false]
      rintro found missing
      cases found.symm.trans missing

end Swept

def isWithin (directory : Place) (names : List String) (place : Place) : Bool :=
  names.any fun name => (directory ++ [name]).isPrefixOf place

theorem isWithin_iff {directory place : Place} {names : List String} :
    isWithin directory names place = true ↔ ∃ name ∈ names, directory ++ [name] <+: place := by
  simp [isWithin]

theorem swept_removeNames (tree : Tree) (directory : Place) (names : List String) :
    Swept (isWithin directory names) tree (removeNames tree directory names)
      (countNames tree directory names) := by
  refine ⟨?_, rfl⟩
  induction names generalizing tree with
  | nil => simp [removeNames, isWithin]
  | cons name names ih =>
      refine (ih (tree.remove (directory ++ [name]))).trans ?_
      rw [Tree.remove, List.filter_filter]
      refine List.filter_congr fun entry _ => ?_
      simp [isWithin, Bool.and_comm]

theorem runIn_cleanBundles {place : Place} {keep : List String} {world : World} (path : Path)
    (files : ∀ name ∈ doomedBundles world.tree place keep,
      world.tree.at? (place ++ [name]) ≠ some .directory) :
    (cleanBundles path place keep).runIn world =
      (.ok (countNames world.tree place (doomedBundles world.tree place keep)),
        { world with
          tree := removeNames world.tree place (doomedBundles world.tree place keep) }) := by
  simp only [cleanBundles, Action.runIn_bind, Action.runIn_get, Action.runIn_changeTree,
    takeWhile_files files, List.drop_length, pure, Except.pure]
  rfl

theorem runIn_cleanVersions {place : Place} {name : String} {world : World} (path : Path)
    (keep : List String)
    (notFile : ∀ content, world.tree.at? (place ++ [name]) ≠ some (.file content)) :
    (cleanVersions path place keep name).runIn world =
      (.ok (countNames world.tree (place ++ [name])
          (doomedDirectories world.tree (place ++ [name]) keep)),
        { world with
          tree := removeNames world.tree (place ++ [name])
            (doomedDirectories world.tree (place ++ [name]) keep) }) := by
  rw [cleanVersions, Action.runIn_bind, Action.runIn_get]
  dsimp only
  rcases found : world.tree.at? (place ++ [name]) with _ | _ | content
  · rfl
  · rfl
  · exact absurd found (notFile content)

/-- A cache of files and directories: what is called like a bundle is a file, and the runners and
stubs are kept in directories. -/
structure CacheTree (tree : Tree) (cache : Place) : Prop where
  based : tree.Based
  distinct : tree.Distinct
  bundles : ∀ name, Text.matchesPattern (bundleStart ++ "*" ++ bundleEnding) name = true →
    tree.at? (cache ++ [name]) ≠ some .directory
  extracted : ∀ content, tree.at? (cache ++ ["extracted"]) ≠ some (.file content)
  stubs : ∀ content, tree.at? (cache ++ ["stubs"]) ≠ some (.file content)

/-- What is to go: bundles, and all below the directories of runners and stubs, whose names are not
to be kept. -/
inductive Doomed (tree : Tree) (cache : Place) (isKept : String → Prop) (place : Place) : Prop
  | bundle {name : String} (isPlace : place = cache ++ [name])
      (isBundle : Text.matchesPattern (bundleStart ++ "*" ++ bundleEnding) name = true)
      (notKept : ¬isKept (keptName name))
  | version {area name : String} (isArea : area = "extracted" ∨ area = "stubs")
      (isDirectory : tree.at? (cache ++ [area] ++ [name]) = some .directory)
      (notKept : ¬isKept name) (below : cache ++ [area] ++ [name] <+: place)

section

variable {tree : Tree} {cache place : Place} {keep : List String} {name : String}

theorem mem_doomedBundles_iff : name ∈ doomedBundles tree cache keep ↔
    (tree.at? (cache ++ [name])).isSome ∧
      Text.matchesPattern (bundleStart ++ "*" ++ bundleEnding) name = true ∧
      keptName name ∉ keep := by
  rw [doomedBundles, List.mem_filter, mem_namesLike_iff, and_assoc]
  simp

theorem mem_doomedDirectories_iff (distinct : tree.Distinct) :
    name ∈ doomedDirectories tree place keep ↔
      tree.at? (place ++ [name]) = some .directory ∧ name ∉ keep := by
  rw [doomedDirectories, List.mem_filter, distinct.mem_directoriesIn_iff]
  simp

theorem isWithin_doomedBundles_apart {rest : List String}
    (unlike : Text.matchesPattern (bundleStart ++ "*" ++ bundleEnding) name = false) :
    isWithin cache (doomedBundles tree cache keep) (cache ++ name :: rest) = false := by
  refine Bool.eq_false_iff.mpr fun within => ?_
  obtain ⟨bundle, isDoomed, below⟩ := isWithin_iff.mp within
  obtain rfl : bundle = name := by simpa using below
  rw [(mem_doomedBundles_iff.mp isDoomed).2.1] at unlike
  cases unlike

theorem isWithin_apart {other : String} {names rest : List String} (different : other ≠ name) :
    isWithin (cache ++ [other]) names (cache ++ name :: rest) = false := by
  refine Bool.eq_false_iff.mpr fun within => different ?_
  obtain ⟨version, _, below⟩ := isWithin_iff.mp within
  rw [List.append_assoc, List.prefix_append_right_inj, List.singleton_append,
    List.cons_prefix_cons] at below
  exact below.1

def goes (tree : Tree) (cache : Place) (keep : List String) (place : Place) : Bool :=
  isWithin cache (doomedBundles tree cache keep) place ||
    isWithin (cache ++ ["extracted"]) (doomedDirectories tree (cache ++ ["extracted"]) keep)
      place ||
    isWithin (cache ++ ["stubs"]) (doomedDirectories tree (cache ++ ["stubs"]) keep) place

theorem Swept.exists_cleanVersions {gone : Place → Bool} {cleaned : Cleaned} (world : World)
    (swept : Swept gone tree world.tree cleaned) (distinct : tree.Distinct) (path : Path)
    (keep : List String) (apart : ∀ rest, gone (cache ++ name :: rest) = false)
    (notFile : ∀ content, tree.at? (cache ++ [name]) ≠ some (.file content)) :
    ∃ after further, (cleanVersions path cache keep name).runIn world =
        (.ok further, { world with tree := after }) ∧
      Swept (fun place => gone place ||
          isWithin (cache ++ [name]) (doomedDirectories tree (cache ++ [name]) keep) place)
        tree after (cleaned.add further) := by
  have same (rest : List String) : world.tree.at? (cache ++ name :: rest) =
      tree.at? (cache ++ name :: rest) := by
    rw [swept.at?_after (by simp), apart rest]
    rfl
  have sameDoomed (version : String) :
      version ∈ doomedDirectories world.tree (cache ++ [name]) keep ↔
        version ∈ doomedDirectories tree (cache ++ [name]) keep := by
    rw [mem_doomedDirectories_iff distinct, mem_doomedDirectories_iff (swept.isDistinct distinct),
      List.append_assoc, List.singleton_append, same]
  have sameWithin :
      isWithin (cache ++ [name]) (doomedDirectories world.tree (cache ++ [name]) keep) =
        isWithin (cache ++ [name]) (doomedDirectories tree (cache ++ [name]) keep) := by
    funext place
    rw [Bool.eq_iff_iff, isWithin_iff, isWithin_iff]
    simp only [sameDoomed]
  refine ⟨_, _, runIn_cleanVersions path keep fun content => ?_, ?_⟩
  · rw [same []]
    exact notFile content
  · rw [← sameWithin]
    exact swept.trans (swept_removeNames _ _ _)

theorem runIn_cleanDirectory {world : World} (isCache : CacheTree world.tree cache) (path : Path)
    (keep : List String) : ∃ after cleaned, (cleanDirectory path cache keep).runIn world =
        (.ok cleaned, { world with tree := after }) ∧
      Swept (goes world.tree cache keep) world.tree after cleaned := by
  have files : ∀ name ∈ doomedBundles world.tree cache keep,
      world.tree.at? (cache ++ [name]) ≠ some .directory := fun name isDoomed =>
    isCache.bundles name (mem_doomedBundles_iff.mp isDoomed).2.1
  obtain ⟨second, extracted, extractedRun, sweptExtracted⟩ :=
    Swept.exists_cleanVersions { world with tree := removeNames world.tree cache _ }
      (swept_removeNames world.tree cache (doomedBundles world.tree cache keep)) isCache.distinct
      path keep (fun _ => isWithin_doomedBundles_apart (by decide +kernel)) isCache.extracted
  obtain ⟨third, stubs, stubsRun, sweptStubs⟩ :=
    Swept.exists_cleanVersions { world with tree := second } sweptExtracted isCache.distinct path
      keep (fun _ => Bool.or_eq_false_iff.mpr
        ⟨isWithin_doomedBundles_apart (by decide +kernel), isWithin_apart (by decide)⟩)
      isCache.stubs
  refine ⟨third, _, ?_, sweptStubs⟩
  simp only [cleanDirectory, Action.runIn_bind, runIn_cleanBundles path files, extractedRun,
    stubsRun]
  rfl

theorem goes_iff_doomed {isKept : String → Prop} (isCache : CacheTree tree cache)
    (kept : ∀ name, name ∈ keep ↔ isKept name) (found : tree.at? place ≠ none) :
    goes tree cache keep place = true ↔ Doomed tree cache isKept place := by
  simp only [goes, Bool.or_eq_true, isWithin_iff, mem_doomedBundles_iff,
    mem_doomedDirectories_iff isCache.distinct, kept]
  constructor
  · rintro ((⟨name, ⟨_, isBundle, notKept⟩, below⟩ | ⟨name, ⟨isDirectory, notKept⟩, below⟩) |
      ⟨name, ⟨isDirectory, notKept⟩, below⟩)
    · -- There is nothing inside a file.
      by_cases isPlace : place = cache ++ [name]
      · exact .bundle isPlace isBundle notKept
      · exact absurd (isCache.based.nothing_inside (isCache.bundles name isBundle) ⟨below, isPlace⟩)
          found
    · exact .version (.inl rfl) isDirectory notKept below
    · exact .version (.inr rfl) isDirectory notKept below
  · rintro (⟨rfl, isBundle, notKept⟩ | ⟨rfl | rfl, isDirectory, notKept, below⟩)
    · have isThere := Option.isSome_iff_ne_none.mpr found
      exact .inl (.inl ⟨_, ⟨isThere, isBundle, notKept⟩, List.prefix_rfl⟩)
    · exact .inl (.inr ⟨_, ⟨isDirectory, notKept⟩, below⟩)
    · exact .inr ⟨_, ⟨isDirectory, notKept⟩, below⟩

theorem goes_root : goes tree cache keep [] = false := by
  refine Bool.eq_false_iff.mpr fun gone => ?_
  simp [goes, isWithin_iff] at gone

end

/-- A cleaning takes away what is to go and leaves all else, and it tells how many files are gone
and how much they held. -/
theorem clean_accounted {world : World} (keep : List String) (keepLatest : Bool)
    (there : world.tree.hasDirectory world.here world.cache = true)
    (isCache : CacheTree world.tree (world.cache.place world.here)) :
    ∃ cleaned after, ∃ lost : List (Place × Content),
      (clean keep keepLatest).runIn world = (.ok cleaned, after) ∧
      (∀ place, Doomed world.tree (world.cache.place world.here) (IsKept world keep keepLatest)
        place → after.tree.at? place = none) ∧
      (∀ place, ¬Doomed world.tree (world.cache.place world.here) (IsKept world keep keepLatest)
        place → after.tree.at? place = world.tree.at? place) ∧
      (lost.map (·.1)).Nodup ∧
      (∀ place content, (place, content) ∈ lost ↔
        world.tree.at? place = some (.file content) ∧ after.tree.at? place = none) ∧
      cleaned.files = lost.length ∧
      cleaned.bytes = (lost.map fun file => file.2.size).sum := by
  obtain ⟨names, found, isName⟩ := keptVersions_ok world keep keepLatest
  obtain ⟨middle, sameTree, run⟩ := clean_of_there there found
  rw [← sameTree] at isCache ⊢
  obtain ⟨after, cleaned, cleanedRun, swept⟩ := runIn_cleanDirectory isCache world.cache names
  obtain ⟨lost, distinct, isLost, counted⟩ := swept.exists_lost isCache.distinct goes_root
  have left (place : Place) : after.at? place =
      if goes middle.tree (world.cache.place world.here) names place then none
      else middle.tree.at? place := by
    by_cases inner : place = []
    · rw [inner, goes_root]
      rfl
    · exact swept.at?_after inner
  refine ⟨cleaned, _, lost, run.trans cleanedRun, fun place doomed => ?_, fun place spared => ?_,
    distinct, isLost, by rw [counted], by rw [counted]⟩
  · change after.at? place = none
    by_cases nothing : middle.tree.at? place = none
    · rw [left, nothing, ite_self]
    · rw [left, if_pos ((goes_iff_doomed isCache isName nothing).mpr doomed)]
  · change after.at? place = _
    by_cases nothing : middle.tree.at? place = none
    · rw [left, nothing, ite_self]
    · rw [left, if_neg (mt (goes_iff_doomed isCache isName nothing).mp spared)]

def twoReleases : World :=
  { tree := ⟨[(["cache"], .directory),
      (["cache", "genvm-universal-v1.tar.xz"], .file (.filler 3)),
      (["cache", "genvm-universal-v2.tar.xz"], .file (.filler 5)),
      (["cache", "extracted"], .directory),
      (["cache", "extracted", "v1"], .directory),
      (["cache", "extracted", "v1", "runner.json"], .file (.filler 7)),
      (["cache", "extracted", "v2"], .directory),
      (["cache", "extracted", "v2", "runner.json"], .file (.filler 11)),
      (["cache", "notes.txt"], .file (.filler 13))]⟩
    cache := .ofRoot ["cache"] }

theorem isCache_twoReleases : CacheTree twoReleases.tree ["cache"] where
  based := (show twoReleases.tree.Sound by decide).based
  distinct := by decide
  bundles := by
    intro name isBundle isDirectory
    have distinct : twoReleases.tree.Distinct := by decide
    obtain rfl : name = "extracted" := by
      simpa [twoReleases] using (distinct.mem_entries_iff (by simp)).mpr isDirectory
    revert isBundle
    decide +kernel
  extracted := by
    intro content isFile
    cases isFile
  stubs := by
    intro content isFile
    cases isFile

theorem clean_accounted_twoReleases :
    twoReleases.tree.hasDirectory twoReleases.here twoReleases.cache = true ∧
    CacheTree twoReleases.tree (twoReleases.cache.place twoReleases.here) ∧
    ∃ after, (clean ["v1"] false).runIn twoReleases = (.ok ⟨2, 16⟩, after) ∧
      after.tree.at? ["cache", "extracted", "v2", "runner.json"] = none ∧
      after.tree.at? ["cache", "notes.txt"] = some (.file (.filler 13)) := by
  have there : twoReleases.tree.hasDirectory twoReleases.here twoReleases.cache = true := by decide
  obtain ⟨cleaned, after, _, run, taken, left, _⟩ :=
    clean_accounted ["v1"] false there isCache_twoReleases
  have counted : ((clean ["v1"] false).runIn twoReleases).1.toOption = some ⟨2, 16⟩ := by
    decide +kernel
  rw [run] at counted
  cases counted
  refine ⟨there, isCache_twoReleases, after, run, taken _ ?_, left _ ?_⟩
  · exact .version (.inl rfl) rfl (by simp [IsKept]) ⟨["runner.json"], rfl⟩
  · rintro (⟨isPlace, isBundle, _⟩ | ⟨_, _, _, below⟩)
    · cases isPlace
      revert isBundle
      decide +kernel
    · exact absurd (show 3 ≤ 2 from below.length_le) (by decide)

end ContractLint.Release
