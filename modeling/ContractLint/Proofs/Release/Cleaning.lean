import Mathlib.Data.List.TakeWhile
import ContractLint.Proofs.Release.Bundles
import ContractLint.Release.Clean

/-! Which bundles a cleaning spares. A bundle is looked for among the versions to keep by what is
left of its name, which is hardly ever its version. -/

namespace ContractLint.Release

open Files (Content Entry Path Place Tree)

/-- The version is to be kept, as one of those listed or as the newest one. -/
def IsKept (world : World) (keep : List String) (keepLatest : Bool) (version : String) : Prop :=
  version ∈ keep ∨ keepLatest = true ∧ (latestVersion.runIn world).1 = .ok (.string version)

def bundlePlace (world : World) (version : String) : Place :=
  (world.cache.child (bundleName world.repository version)).place world.here

/-- Whatever there is in the world, a cleaning leaves the bundle of the version as it is if the
version is to be kept. -/
def Spares (repository version : String) : Prop :=
  ∀ (world : World) (keep : List String) (keepLatest : Bool) (content : Content),
    world.repository = repository → IsKept world keep keepLatest version →
    world.tree.at? (bundlePlace world version) = some (.file content) →
    ((clean keep keepLatest).runIn world).2.tree.at? (bundlePlace world version) =
      some (.file content)

theorem latestVersion_ok (world : World) : ∃ version, (latestVersion.runIn world).1 = .ok version := by
  simp only [latestVersion, Action.runIn_bind, Action.runIn_get, Action.runIn_outcome]
  split
  · exact ⟨_, rfl⟩
  · exact ⟨_, rfl⟩
  · exact ⟨_, rfl⟩

theorem keptVersions_ok (world : World) (keep : List String) (keepLatest : Bool) :
    ∃ names, ((keptVersions keep keepLatest).runIn world).1 = .ok names ∧
      ∀ name, name ∈ names ↔ IsKept world keep keepLatest name := by
  cases keepLatest with
  | false => exact ⟨keep, rfl, by simp [IsKept]⟩
  | true =>
      obtain ⟨version, found⟩ := latestVersion_ok world
      rcases run : latestVersion.runIn world with ⟨_, after⟩
      rw [run] at found
      subst found
      simp only [keptVersions, if_true, Action.runIn_bind, run]
      split
      case h_1 newest => exact ⟨newest :: keep, rfl, by simp [IsKept, run, or_comm, eq_comm]⟩
      case h_2 other =>
        refine ⟨keep, rfl, fun name => ?_⟩
        have different : version ≠ .string name := other name
        simp [IsKept, run, different]

theorem keptVersions_treeless (keep : List String) (keepLatest : Bool) :
    (keptVersions keep keepLatest).Treeless := by
  cases keepLatest with
  | false => exact .pure _
  | true =>
      refine .bind latestVersion_treeless fun version => ?_
      split
      · exact .pure _
      · exact .pure _

theorem at?_removeNames {tree : Tree} {place other : Place} {names : List String}
    (inner : other ≠ []) : (removeNames tree place names).at? other =
      if ∃ name ∈ names, place ++ [name] <+: other then none else tree.at? other := by
  induction names generalizing tree with
  | nil => simp [removeNames]
  | cons first rest ih =>
      rw [removeNames, List.foldl_cons]
      change (removeNames (tree.remove (place ++ [first])) place rest).at? other = _
      rw [ih, Tree.at?_remove inner]
      by_cases here : place ++ [first] <+: other
      · simp [here]
      · simp [here]

theorem takeWhile_files {tree : Tree} {place : Place} {names : List String}
    (files : ∀ name ∈ names, tree.at? (place ++ [name]) ≠ some .directory) :
    names.takeWhile (fun name => !((tree.at? (place ++ [name])).any Entry.isDirectory)) = names := by
  refine List.takeWhile_eq_self_iff.mpr fun name member => ?_
  have notDirectory := files name member
  rcases found : tree.at? (place ++ [name]) with _ | _ | _
  · rfl
  · exact absurd found notDirectory
  · rfl

theorem cleanBundles_removes (path : Path) (place : Place) (keep : List String) (world : World) :
    ∃ names, names <+: doomedBundles world.tree place keep ∧
      ((cleanBundles path place keep).runIn world).2 =
        { world with tree := removeNames world.tree place names } ∧
      ((∃ cleaned, ((cleanBundles path place keep).runIn world).1 = .ok cleaned) ∨
        (∀ name ∈ doomedBundles world.tree place keep,
          world.tree.at? (place ++ [name]) ≠ some .directory) →
        names = doomedBundles world.tree place keep) := by
  set doomed := doomedBundles world.tree place keep with isDoomed
  set files := doomed.takeWhile fun name =>
    !((world.tree.at? (place ++ [name])).any Entry.isDirectory) with isFiles
  have after : ((cleanBundles path place keep).runIn world).2 =
      { world with tree := removeNames world.tree place files } := by
    simp only [cleanBundles, Action.runIn_bind, Action.runIn_get, Action.runIn_changeTree,
      ← isDoomed, ← isFiles, pure, Except.pure]
    cases doomed.drop files.length <;> rfl
  have start : files <+: doomed := List.takeWhile_prefix _
  have whole : doomed.drop files.length = [] → files = doomed := fun nothing =>
    start.eq_of_length_le (List.drop_eq_nil_iff.mp nothing)
  refine ⟨files, start, after, ?_⟩
  rintro (⟨cleaned, done⟩ | noDirectory)
  · simp only [cleanBundles, Action.runIn_bind, Action.runIn_get, Action.runIn_changeTree,
      ← isDoomed, ← isFiles, pure, Except.pure] at done
    cases rest : doomed.drop files.length with
    | nil => exact whole rest
    | cons name more =>
        rw [rest] at done
        cases done
  · exact takeWhile_files noDirectory

theorem cleanVersions_leaves (path : Path) (place : Place) (keep : List String)
    (name bundle : String) :
    (cleanVersions path place keep name).Leaves (place ++ [bundle]) := by
  intro world
  simp only [cleanVersions, Action.runIn_bind, Action.runIn_get]
  split
  · rfl
  · change (removeNames world.tree (place ++ [name]) _).at? (place ++ [bundle]) = _
    rw [at?_removeNames (by simp), if_neg]
    rintro ⟨version, _, below⟩
    have long := below.length_le
    simp at long

theorem at?_cleanDirectory (path : Path) (place : Place) (keep : List String) (bundle : String)
    (world : World) :
    ((cleanDirectory path place keep).runIn world).2.tree.at? (place ++ [bundle]) =
      ((cleanBundles path place keep).runIn world).2.tree.at? (place ++ [bundle]) := by
  rw [cleanDirectory, Action.runIn_bind]
  rcases (cleanBundles path place keep).runIn world with ⟨_ | bundles, middle⟩
  · rfl
  · refine Action.Leaves.bind (cleanVersions_leaves _ _ _ _ _) (fun _ => ?_) middle
    exact .bind (cleanVersions_leaves _ _ _ _ _) fun _ => .pure _ _

theorem at?_cleanDirectory_of_kept {path : Path} {place : Place} {keep : List String}
    {bundle : String} (kept : keptName bundle ∈ keep) (world : World) :
    ((cleanDirectory path place keep).runIn world).2.tree.at? (place ++ [bundle]) =
      world.tree.at? (place ++ [bundle]) := by
  obtain ⟨names, start, after, _⟩ := cleanBundles_removes path place keep world
  rw [at?_cleanDirectory, after]
  change (removeNames world.tree place names).at? _ = _
  rw [at?_removeNames (by simp), if_neg]
  rintro ⟨name, member, below⟩
  obtain rfl : name = bundle := by simpa using below.eq_of_length (by simp)
  have doomed := start.subset member
  simp [doomedBundles, kept] at doomed

theorem at?_cleanDirectory_of_not_kept {path : Path} {place : Place} {keep : List String}
    {bundle : String} {world : World} (notKept : keptName bundle ∉ keep)
    (isBundle : bundle ∈ world.tree.namesLike place (bundleStart ++ "*" ++ bundleEnding))
    (removable : (∃ cleaned, ((cleanDirectory path place keep).runIn world).1 = .ok cleaned) ∨
      ∀ name ∈ doomedBundles world.tree place keep,
        world.tree.at? (place ++ [name]) ≠ some .directory) :
    ((cleanDirectory path place keep).runIn world).2.tree.at? (place ++ [bundle]) = none := by
  obtain ⟨names, start, after, all⟩ := cleanBundles_removes path place keep world
  have whole : names = doomedBundles world.tree place keep := by
    refine all (removable.imp_left ?_)
    rintro ⟨cleaned, done⟩
    obtain ⟨bundles, _, first, _⟩ := Action.runIn_bind_eq_ok_iff.mp (Prod.ext done rfl)
    exact ⟨bundles, by rw [first]⟩
  rw [at?_cleanDirectory, after]
  change (removeNames world.tree place names).at? _ = _
  rw [at?_removeNames (by simp), if_pos]
  refine ⟨bundle, ?_, List.prefix_rfl⟩
  rw [whole]
  simp [doomedBundles, isBundle, notKept]

theorem clean_run {world : World} {keep names : List String} {keepLatest : Bool}
    (kept : ((keptVersions keep keepLatest).runIn world).1 = .ok names) :
    ∃ grown, World.Grows (world.cache.OnWay world.here) (fun _ => False) world grown ∧
      ((clean keep keepLatest).runIn world =
          (cleanDirectory world.cache (world.cache.place world.here) names).runIn grown ∨
        world.tree.hasDirectory world.here world.cache = false ∧
          ∃ failure, (clean keep keepLatest).runIn world = (.error failure, grown)) := by
  have treeless := keptVersions_treeless keep keepLatest
  rcases found : (keptVersions keep keepLatest).runIn world with ⟨_, middle⟩
  have settled := treeless.settled world
  have sameTree := treeless.tree world
  rw [found] at kept settled sameTree
  subst kept
  have growing := cacheDirectory_growing world.here world.cache (fun _ => False) middle
    settled.here settled.cache
  rcases made : cacheDirectory.runIn middle with ⟨result, grown⟩
  rw [made] at growing
  have grows : World.Grows (world.cache.OnWay world.here) (fun _ => False) world grown :=
    ⟨settled.trans growing.toSettled, sameTree ▸ growing.tree⟩
  refine ⟨grown, grows, ?_⟩
  simp only [clean, Action.runIn_bind, found, made, Action.runIn_onTree]
  cases result with
  | error failure =>
      refine .inr ⟨Bool.eq_false_iff.mpr fun there => ?_, failure, rfl⟩
      rw [← sameTree, ← settled.here, ← settled.cache] at there
      rw [cacheDirectory_of_there there] at made
      cases made
  | ok path =>
      obtain rfl := cacheDirectory_ok made
      rw [settled.cache]
      dsimp only
      rw [grows.here]
      cases located : grown.tree.locate world.here world.cache with
      | error fault =>
          refine .inr ⟨Bool.eq_false_iff.mpr fun there => ?_, .file fault, rfl⟩
          rw [Tree.locate_of_hasDirectory (grows.tree.hasDirectory there)] at located
          cases located
      | ok place =>
          obtain ⟨rfl, _⟩ := Tree.locate_eq_ok_iff.mp located
          exact .inl rfl

theorem clean_of_there {world : World} {keep names : List String} {keepLatest : Bool}
    (there : world.tree.hasDirectory world.here world.cache = true)
    (kept : ((keptVersions keep keepLatest).runIn world).1 = .ok names) :
    ∃ middle, middle.tree = world.tree ∧ (clean keep keepLatest).runIn world =
      (cleanDirectory world.cache (world.cache.place world.here) names).runIn middle := by
  have treeless := keptVersions_treeless keep keepLatest
  have settled := treeless.settled world
  have sameTree := treeless.tree world
  rcases found : (keptVersions keep keepLatest).runIn world with ⟨_, middle⟩
  rw [found] at kept settled sameTree
  subst kept
  have stillThere : middle.tree.hasDirectory middle.here middle.cache = true := by
    rw [sameTree, settled.here, settled.cache]
    exact there
  refine ⟨middle, sameTree, ?_⟩
  simp only [clean, Action.runIn_bind, found, cacheDirectory_of_there stillThere,
    Action.runIn_onTree, Tree.locate_of_hasDirectory stillThere]
  rw [settled.cache, settled.here]
  rfl

theorem removeNames_based {tree : Tree} (based : tree.Based) (place : Place) (names : List String) :
    (removeNames tree place names).Based := by
  intro other there
  by_cases root : other.dropLast = []
  · rw [root, Tree.at?_root]
  have inner : other ≠ [] := by
    rintro rfl
    exact root rfl
  rw [at?_removeNames inner] at there
  rw [at?_removeNames root]
  split at there
  case isTrue => exact absurd rfl there
  case isFalse kept =>
    rw [if_neg, based other there]
    rintro ⟨name, member, below⟩
    exact kept ⟨name, member, below.trans (List.dropLast_prefix _)⟩

theorem cleanBundles_local (path : Path) (place : Place) (keep : List String) :
    (cleanBundles path place keep).Local := by
  intro world
  obtain ⟨names, _, after, _⟩ := cleanBundles_removes path place keep world
  exact ⟨_, after⟩

theorem cleanBundles_based (path : Path) (place : Place) (keep : List String) :
    (cleanBundles path place keep).Preserves Tree.Based := by
  intro world based
  obtain ⟨names, _, after, _⟩ := cleanBundles_removes path place keep world
  rw [after]
  exact removeNames_based based place names

theorem cleanVersions_removes (path : Path) (place : Place) (keep : List String) (name : String)
    (world : World) : ∃ names, ((cleanVersions path place keep name).runIn world).2 =
      { world with tree := removeNames world.tree (place ++ [name]) names } := by
  simp only [cleanVersions, Action.runIn_bind, Action.runIn_get]
  split
  · exact ⟨[], rfl⟩
  · exact ⟨_, rfl⟩

theorem cleanVersions_local (path : Path) (place : Place) (keep : List String) (name : String) :
    (cleanVersions path place keep name).Local := by
  intro world
  obtain ⟨names, after⟩ := cleanVersions_removes path place keep name world
  exact ⟨_, after⟩

theorem cleanVersions_based (path : Path) (place : Place) (keep : List String) (name : String) :
    (cleanVersions path place keep name).Preserves Tree.Based := by
  intro world based
  obtain ⟨names, after⟩ := cleanVersions_removes path place keep name world
  rw [after]
  exact removeNames_based based _ names

theorem clean_settles (keep : List String) (keepLatest : Bool) : (clean keep keepLatest).Settles := by
  refine .bind (keptVersions_treeless _ _).settled fun names => ?_
  refine .bind cacheDirectory_local.settles fun path => ?_
  refine .bind (Action.Local.of_same fun _ => by simp).settles fun place => ?_
  refine Action.Local.settles (.bind (cleanBundles_local _ _ _) fun _ => ?_)
  refine .bind (cleanVersions_local _ _ _ _) fun _ => .bind (cleanVersions_local _ _ _ _) fun _ => ?_
  exact .of_same fun _ => rfl

theorem clean_based (keep : List String) (keepLatest : Bool) :
    (clean keep keepLatest).Preserves Tree.Based := by
  refine .bind (fun world based => ?_) fun names => ?_
  · rwa [(keptVersions_treeless _ _).tree]
  refine .bind (fun world based => ?_) fun path => ?_
  · exact (cacheDirectory_growing _ _ (fun _ => False) world rfl rfl).tree.isBased based
  refine .bind (fun world based => by simpa using based) fun place => ?_
  refine .bind (cleanBundles_based _ _ _) fun _ => ?_
  exact .bind (cleanVersions_based _ _ _ _) fun _ => .bind (cleanVersions_based _ _ _ _) fun _ =>
    fun _ => id

theorem clean_undisturbed {name : String} (keep : List String) (keepLatest : Bool) (world : World)
    (unlike : Text.matchesPattern (bundleStart ++ "*" ++ bundleEnding) name = false) :
    Tree.Undisturbed (world.cache.place world.here ++ [name]) world.tree
      ((clean keep keepLatest).runIn world).2.tree := by
  obtain ⟨kept, found, _⟩ := keptVersions_ok world keep keepLatest
  obtain ⟨grown, grows, cleaned | ⟨_, failure, failed⟩⟩ := clean_run found
  · obtain ⟨names, start, after, _⟩ :=
      cleanBundles_removes world.cache (world.cache.place world.here) kept grown
    have same : (removeNames grown.tree (world.cache.place world.here) names).at?
        (world.cache.place world.here ++ [name]) =
        grown.tree.at? (world.cache.place world.here ++ [name]) := by
      rw [at?_removeNames (by simp), if_neg]
      rintro ⟨other, member, below⟩
      obtain rfl : other = name := by simpa using below.eq_of_length (by simp)
      have doomed := (List.mem_filter.mp (start.subset member)).1
      rw [(mem_namesLike_iff.mp doomed).2] at unlike
      cases unlike
    rw [cleaned, Tree.Undisturbed, at?_cleanDirectory, after]
    exact same ▸ grows.tree.undisturbed id
  · rw [failed]
    exact grows.tree.undisturbed id

theorem bundleName_mem_namesLike {tree : Tree} {place : Place} {repository version : String}
    (there : (tree.at? (place ++ [bundleName repository version])).isSome) :
    bundleName repository version ∈ tree.namesLike place (bundleStart ++ "*" ++ bundleEnding) := by
  refine mem_namesLike_iff.mpr ⟨there, ?_⟩
  refine (Text.matchesPattern_star_iff (Text.isPlain_of_all (by decide))
    (Text.isPlain_of_all (by decide))).mpr ⟨(slug repository ++ "-" ++ version).toList, ?_⟩
  simp [bundleName, repositoryStart]

section

variable {world : World} {keep : List String} {keepLatest : Bool} {version : String}
  {content : Content}

theorem clean_spares_kept (single : '/' ∉ version.toList)
    (saved : world.tree.at? (bundlePlace world version) = some (.file content))
    (kept : IsKept world keep keepLatest (keptName (bundleName world.repository version))) :
    ((clean keep keepLatest).runIn world).2.tree.at? (bundlePlace world version) =
      some (.file content) := by
  obtain ⟨names, found, isName⟩ := keptVersions_ok world keep keepLatest
  obtain ⟨grown, grows, cleaned | ⟨_, failure, failed⟩⟩ := clean_run found
  · have still := grows.tree.still id saved
    rw [cleaned]
    rw [bundlePlace, Path.place_child_name (bundleName_isName _ single)] at still ⊢
    rw [at?_cleanDirectory_of_kept ((isName _).mpr kept), still]
  · rw [failed]
    exact grows.tree.still id saved

theorem clean_removes_other {cleaned : Cleaned} (single : '/' ∉ version.toList)
    (saved : world.tree.at? (bundlePlace world version) = some (.file content))
    (other : ¬IsKept world keep keepLatest (keptName (bundleName world.repository version)))
    (done : ((clean keep keepLatest).runIn world).1 = .ok cleaned) :
    ((clean keep keepLatest).runIn world).2.tree.at? (bundlePlace world version) = none := by
  obtain ⟨names, found, isName⟩ := keptVersions_ok world keep keepLatest
  obtain ⟨grown, grows, run | ⟨_, failure, failed⟩⟩ := clean_run found
  · have still := grows.tree.still id saved
    rw [run] at done ⊢
    rw [bundlePlace, Path.place_child_name (bundleName_isName _ single)] at still ⊢
    exact at?_cleanDirectory_of_not_kept (mt (isName _).mp other)
      (bundleName_mem_namesLike (by rw [still]; rfl)) (.inl ⟨cleaned, done⟩)
  · rw [failed] at done
    cases done

end

def oneBundle (repository version : String) : World :=
  { tree := ⟨[(["cache"], .directory),
      (["cache", bundleName repository version], .file (.bytes []))]⟩,
    cache := .ofRoot ["cache"], repository }

theorem at?_oneBundle (repository version name : String) :
    (oneBundle repository version).tree.at? (["cache"] ++ [name]) =
      if name = bundleName repository version then some (.file (.bytes [])) else none := by
  rw [Tree.at?_of_ne (by simp)]
  simp only [oneBundle, List.lookup_cons, List.lookup_nil, List.cons_append, List.nil_append]
  by_cases same : name = bundleName repository version
  · simp [same]
  · simp [same, beq_eq_false_iff_ne.mpr same]

theorem keptName_of_spares {repository version : String} (single : '/' ∉ version.toList)
    (spares : Spares repository version) :
    keptName (bundleName repository version) = version := by
  by_contra different
  have place : bundlePlace (oneBundle repository version) version =
      ["cache"] ++ [bundleName repository version] :=
    Path.place_child_name (bundleName_isName repository single) _ _
  have saved := at?_oneBundle repository version (bundleName repository version)
  rw [if_pos rfl] at saved
  have still := spares (oneBundle repository version) [version] false (.bytes []) rfl
    (.inl List.mem_cons_self) (by rw [place, saved])
  have kept : ((keptVersions [version] false).runIn (oneBundle repository version)).1 =
      .ok [version] := rfl
  obtain ⟨grown, grows, run | ⟨missing, _⟩⟩ := clean_run kept
  · have sameThere (name : String) : grown.tree.at? (["cache"] ++ [name]) =
        (oneBundle repository version).tree.at? (["cache"] ++ [name]) := by
      refine grows.tree.unchanged ?_ id
      rintro ⟨way, isWay, same⟩
      rcases List.prefix_cons_iff.mp isWay with rfl | ⟨rest, rfl, isRest⟩
      · cases same
      · rw [List.prefix_nil.mp isRest] at same
        cases same
    have noDirectory (name : String) : grown.tree.at? (["cache"] ++ [name]) ≠ some .directory := by
      rw [sameThere, at?_oneBundle]
      split <;> simp
    have isBundle : bundleName repository version ∈
        grown.tree.namesLike ["cache"] (bundleStart ++ "*" ++ bundleEnding) :=
      bundleName_mem_namesLike (by rw [sameThere, saved]; rfl)
    have notKept : keptName (bundleName repository version) ∉ [version] := by simpa using different
    rw [run, place] at still
    exact nomatch still.symm.trans
      (at?_cleanDirectory_of_not_kept notKept isBundle (.inr fun name _ => noDirectory name))
  · cases missing

theorem removeAll_bundleStart {text : String} (absent : ¬bundleStart.toList <:+: text.toList) :
    Text.removeAll (bundleStart ++ text ++ bundleEnding) bundleStart = text ++ bundleEnding := by
  have none : ∀ other, other <:+ (text ++ bundleEnding).toList → other ≠ [] →
      ¬bundleStart.toList <+: other ++ [] := by
    intro other isEnd _ starts
    rw [List.append_nil] at starts
    have within := starts.isInfix.trans isEnd.isInfix
    rw [String.toList_append] at within
    rcases Text.infix_of_notMem (by decide) within with inText | inEnding
    · exact absent inText
    · revert inEnding
      decide
  have kept := Text.replaceFrom_before [] none
  rw [List.append_nil] at kept
  rw [Text.removeAll, Text.replaceAll, String.append_assoc, String.toList_append, String.toList_empty,
    Text.replaceFrom_start (by decide), kept]
  simp [Text.replaceFrom]

theorem removeAll_bundleEnding {text : String} (absent : ¬bundleEnding.toList <:+: text.toList) :
    Text.removeAll (text ++ bundleEnding) bundleEnding = text := by
  have apart : ∀ other ∈ bundleEnding.toList.inits,
      bundleEnding.toList <+: other ++ bundleEnding.toList →
        other = [] ∨ other = bundleEnding.toList := by decide
  have none : ∀ other, other <:+ text.toList → other ≠ [] →
      ¬bundleEnding.toList <+: other ++ bundleEnding.toList := by
    intro other isEnd inner starts
    rcases List.prefix_or_prefix_of_prefix starts (List.prefix_append _ _) with within | isStart
    · exact absent (within.isInfix.trans isEnd.isInfix)
    · rcases apart other ((List.mem_inits _ _).mpr isStart) starts with isNil | rfl
      · exact inner isNil
      · exact absent isEnd.isInfix
  have last : Text.replaceFrom bundleEnding.toList [] 0 bundleEnding.toList = [] := by decide
  rw [Text.removeAll, Text.replaceAll, String.toList_append, String.toList_empty,
    Text.replaceFrom_before [] none, last]
  simp

theorem keptName_bundleName {repository version : String}
    (noStart : ¬bundleStart.toList <:+: (slug repository ++ "-" ++ version).toList)
    (noEnding : ¬bundleEnding.toList <:+: (slug repository ++ "-" ++ version).toList) :
    keptName (bundleName repository version) = slug repository ++ "-" ++ version := by
  have name : bundleName repository version =
      bundleStart ++ (slug repository ++ "-" ++ version) ++ bundleEnding := by
    simp [bundleName, repositoryStart, String.append_assoc]
  rw [keptName, name, removeAll_bundleStart noStart, removeAll_bundleEnding noEnding]

/-- The bundle of a version is spared for its sake exactly if the version is what is left of the
bundle's name. What is left is looked up instead; mostly the repository is still in front. -/
theorem spares_iff {repository version : String} (single : '/' ∉ version.toList) :
    (Spares repository version ↔ keptName (bundleName repository version) = version) ∧
    (∀ (world : World) (keep : List String) (keepLatest : Bool) (content : Content),
      world.repository = repository →
      world.tree.at? (bundlePlace world version) = some (.file content) →
      (IsKept world keep keepLatest (keptName (bundleName repository version)) →
        ((clean keep keepLatest).runIn world).2.tree.at? (bundlePlace world version) =
          some (.file content)) ∧
      (¬IsKept world keep keepLatest (keptName (bundleName repository version)) →
        ∀ cleaned, ((clean keep keepLatest).runIn world).1 = .ok cleaned →
          ((clean keep keepLatest).runIn world).2.tree.at? (bundlePlace world version) = none)) ∧
    (¬bundleStart.toList <:+: (slug repository ++ "-" ++ version).toList →
      ¬bundleEnding.toList <:+: (slug repository ++ "-" ++ version).toList →
      keptName (bundleName repository version) = slug repository ++ "-" ++ version) := by
  refine ⟨⟨keptName_of_spares single, ?_⟩, ?_, keptName_bundleName⟩
  · rintro same world keep keepLatest content rfl kept saved
    exact clean_spares_kept single saved (same.symm ▸ kept)
  · rintro world keep keepLatest content rfl saved
    exact ⟨clean_spares_kept single saved, fun other _ => clean_removes_other single saved other⟩

theorem spares_universal : '/' ∉ "v0.2.12".toList ∧ Spares "genvm/universal" "v0.2.12" :=
  ⟨by decide, (spares_iff (by decide)).1.mpr (by decide)⟩

theorem not_spares_default : ¬Spares "genlayerlabs/genvm-manager" "v0.2.12" := fun spares =>
  absurd (keptName_of_spares (by decide) spares) (by decide)

end ContractLint.Release
