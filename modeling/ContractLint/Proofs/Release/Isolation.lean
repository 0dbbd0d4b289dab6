import ContractLint.Proofs.Release.Bundles
import ContractLint.Release.Download

/-! Bundles of several repositories in one cache. A repository keeps to its own bundles exactly as
long as what its bundles start with and what the others start with differ before either ends. -/

namespace ContractLint.Release

open Files (Content Path Place Tree)

/-- What the bundles of one repository start with goes on from what those of the other do. -/
def Overlap (owner other : String) : Prop :=
  (repositoryStart owner).toList <+: (repositoryStart other).toList ∨
    (repositoryStart other).toList <+: (repositoryStart owner).toList

instance (owner other : String) : Decidable (Overlap owner other) :=
  inferInstanceAs (Decidable (_ ∨ _))

/-- Whatever bundle of its owner is saved in the cache, the other repository lists and chooses the
versions that it would without it, and never returns that bundle. -/
def Isolated (owner other : String) : Prop :=
  ∀ (world : World) (version : String) (content : Content) (tree : Tree),
    world.repository = other → '/' ∉ version.toList →
    world.tree.hasDirectory world.here world.cache = true →
    world.tree.write world.here (world.cache.child (bundleName owner version)) content = .ok tree →
    (cachedVersions.runIn { world with tree }).1 = (cachedVersions.runIn world).1 ∧
    (resolveVersion.runIn { world with tree }).1 = (resolveVersion.runIn world).1 ∧
    ∀ report path after chosen, (resolveVersion.runIn { world with tree }).1 = .ok chosen →
      '/' ∉ chosen.plain.toList →
      (download .null report).runIn { world with tree } = (.ok path, after) →
      path.place world.here ≠ (world.cache.child (bundleName owner version)).place world.here

theorem isPlain_of_mem_repositoryStart {repository : String}
    (plain : ∀ c ∈ repository.toList, Text.IsPlain c) :
    ∀ c ∈ (repositoryStart repository).toList, Text.IsPlain c := by
  have plainWord : ∀ c ∈ "genvm-universal-".toList, Text.IsPlain c := Text.isPlain_of_all (by decide)
  intro c member
  rcases mem_repositoryStart member with isStart | ⟨isOther, _⟩ | rfl
  · exact plainWord c isStart
  · exact plain c isOther
  · decide

theorem listed_iff {owner other version : String}
    (plain : ∀ c ∈ other.toList, Text.IsPlain c) :
    Text.matchesPattern (repositoryStart other ++ "*" ++ bundleEnding) (bundleName owner version) =
      true ↔ (repositoryStart other).toList <+: (repositoryStart owner).toList ++ version.toList := by
  have plainStart := isPlain_of_mem_repositoryStart plain
  rw [Text.matchesPattern_star_iff plainStart (Text.isPlain_of_all (by decide)), bundleName_toList]
  constructor
  · rintro ⟨middle, same⟩
    exact ⟨middle, (List.append_cancel_right same).symm⟩
  · rintro ⟨middle, same⟩
    exact ⟨middle, by rw [same]⟩

theorem Overlap.of_start {owner other : String} {text : List Char}
    (starts : (repositoryStart other).toList <+: (repositoryStart owner).toList ++ text) :
    Overlap owner other :=
  List.prefix_or_prefix_of_prefix (List.prefix_append _ _) starts

theorem resolveVersion_of_there {world : World}
    (there : world.tree.hasDirectory world.here world.cache = true) :
    resolveVersion.runIn world =
      match (world.environment.lookup "GENVM_VERSION").filter fun value => !value.isEmpty,
        versionsIn world.tree (world.cache.place world.here) world.repository with
      | some version, _ => (.ok (.string version), world)
      | none, version :: _ => (.ok (.string version), world)
      | none, [] => latestVersion.runIn world := by
  have given : (Action.given? "GENVM_VERSION").runIn world =
      (.ok ((world.environment.lookup "GENVM_VERSION").filter fun value => !value.isEmpty),
        world) := rfl
  simp only [resolveVersion, Action.runIn_bind, given]
  cases (world.environment.lookup "GENVM_VERSION").filter fun value => !value.isEmpty with
  | some version => rfl
  | none =>
      simp only [Action.runIn_bind, cachedVersions_of_there there]
      cases versionsIn world.tree (world.cache.place world.here) world.repository <;> rfl

theorem resolveVersion_settled {world : World}
    (there : world.tree.hasDirectory world.here world.cache = true) :
    world.Settled (resolveVersion.runIn world).2 ∧ (resolveVersion.runIn world).2.tree = world.tree := by
  rw [resolveVersion_of_there there]
  split
  · exact ⟨.refl world, rfl⟩
  · exact ⟨.refl world, rfl⟩
  · exact ⟨latestVersion_treeless.settled world, latestVersion_treeless.tree world⟩

theorem bundlePath_of_there {world : World} (version : Json.Value)
    (there : world.tree.hasDirectory world.here world.cache = true) :
    (bundlePath version).runIn world =
      (.ok (world.cache.child (bundleName world.repository version.plain)), world) := by
  simp only [bundlePath, Action.runIn_bind, cacheDirectory_of_there there, Action.runIn_get,
    Action.runIn_pure]

theorem download_null_ok {world after : World} {report : Progress} {path : Path} {chosen : Json.Value}
    (there : world.tree.hasDirectory world.here world.cache = true)
    (chose : (resolveVersion.runIn world).1 = .ok chosen)
    (done : (download .null report).runIn world = (.ok path, after)) :
    path = world.cache.child (bundleName world.repository chosen.plain) := by
  obtain ⟨settled, sameTree⟩ := resolveVersion_settled there
  simp only [download, Action.runIn_bind] at done
  rcases run : resolveVersion.runIn world with ⟨result, middle⟩
  rw [run] at chose settled sameTree done
  cases chose
  have stillThere : middle.tree.hasDirectory middle.here middle.cache = true := by
    rwa [sameTree, settled.here, settled.cache]
  simp only [bundlePath_of_there _ stillThere] at done
  rw [settled.cache, settled.repository] at done
  simp only [Action.has, Action.runIn_ask] at done
  split at done
  · rw [Action.runIn_bind] at done
    split at done
    · exact (Except.ok.inj (congrArg Prod.fst done)).symm
    · cases congrArg Prod.fst done
  · exact (Except.ok.inj (congrArg Prod.fst done)).symm

theorem isolated_of_not_overlap {owner other : String} (plain : ∀ c ∈ other.toList, Text.IsPlain c)
    (apart : ¬Overlap owner other) : Isolated owner other := by
  rintro world version content tree rfl single there saved
  have isName := bundleName_isName owner single
  have stillThere : tree.hasDirectory world.here world.cache = true :=
    Tree.hasDirectory_write saved there
  have unlisted : Text.matchesPattern (repositoryStart world.repository ++ "*" ++ bundleEnding)
      (bundleName owner version) = false :=
    Bool.eq_false_iff.mpr fun listed => apart (.of_start ((listed_iff plain).mp listed))
  have same : versionsIn tree (world.cache.place world.here) world.repository =
      versionsIn world.tree (world.cache.place world.here) world.repository := by
    obtain ⟨_, _, _, isPut⟩ := Tree.write_eq_ok saved
    rw [versionsIn, versionsIn, isPut, Path.place_child_name isName, namesLike_put _ unlisted]
  refine ⟨?_, ?_, ?_⟩
  · rw [cachedVersions_of_there there, cachedVersions_of_there stillThere]
    exact congrArg Except.ok same
  · rw [resolveVersion_of_there there, resolveVersion_of_there stillThere]
    dsimp only
    rw [same, latestVersion_treeless.blind]
    split <;> rfl
  · -- Two bundles of one name would start alike.
    intro report path after chosen chose chosenSingle done equal
    have returned := download_null_ok stillThere chose done
    rw [returned, Path.place_child_name (bundleName_isName _ chosenSingle),
      Path.place_child_name isName] at equal
    have sameName := congrArg String.toList (List.singleton_inj.mp (List.append_cancel_left equal))
    simp only [bundleName_toList] at sameName
    exact apart (.of_start ⟨_, List.append_cancel_right sameName⟩)

theorem Overlap.exists_captured {owner other : String} (overlap : Overlap owner other) :
    ∃ version : String, '/' ∉ version.toList ∧
      (repositoryStart other).toList <+: (repositoryStart owner).toList ++ version.toList := by
  rcases overlap with ⟨rest, same⟩ | before
  · refine ⟨String.ofList rest, ?_, by simp [same]⟩
    have single := slash_notMem_repositoryStart other
    rw [← same] at single
    rw [String.toList_ofList]
    exact fun member => single (List.mem_append_right _ member)
  · exact ⟨"", by decide, by simpa using before⟩

theorem versionsIn_ne_nil {tree : Tree} {place : Place} {repository name : String}
    (listed : name ∈ tree.namesLike place (repositoryStart repository ++ "*" ++ bundleEnding)) :
    versionsIn tree place repository ≠ [] := by
  intro nothing
  have noNames := congrArg List.length nothing
  rw [versionsIn, newestFirst, List.length_mergeSort, List.length_map, List.length_nil,
    List.length_eq_zero_iff] at noNames
  rw [noNames] at listed
  cases listed

def emptyCache (repository : String) : World :=
  { tree := ⟨[(["cache"], .directory)]⟩, cache := .ofRoot ["cache"], repository }

theorem not_isolated_of_overlap {owner other : String}
    (plain : ∀ c ∈ other.toList, Text.IsPlain c) (overlap : Overlap owner other) :
    ¬Isolated owner other := by
  intro isolated
  obtain ⟨version, single, captured⟩ := overlap.exists_captured
  have there : (emptyCache other).tree.hasDirectory (emptyCache other).here
      (emptyCache other).cache = true := rfl
  have isName := bundleName_isName owner single
  have absent : (emptyCache other).tree.at? (["cache"] ++ [bundleName owner version]) = none := rfl
  have saved := Tree.write_of_there isName (.bytes []) there fun isDirectory =>
    nomatch absent.symm.trans isDirectory
  have stillThere := Tree.hasDirectory_write saved there
  have listings := (isolated _ version _ _ rfl single there saved).1
  rw [cachedVersions_of_there there, cachedVersions_of_there stillThere] at listings
  have noNames (pattern : String) : (emptyCache other).tree.namesLike ["cache"] pattern = [] := rfl
  have nothing : versionsIn (emptyCache other).tree ["cache"] other = [] := by
    rw [versionsIn, noNames, List.map_nil, newestFirst, List.mergeSort_nil]
  have saves : ((emptyCache other).tree.put (["cache"] ++ [bundleName owner version])
      (.file (.bytes []))).at? (["cache"] ++ [bundleName owner version]) = some _ :=
    Tree.at?_put_self (by simp) _
  have listed := mem_namesLike_iff.mpr
    ⟨congrArg Option.isSome saves, (listed_iff plain).mpr captured⟩
  exact versionsIn_ne_nil listed ((Except.ok.inj listings).trans nothing)

/-- Repositories keep to their own bundles exactly if their starts part before either ends. -/
theorem isolated_iff {owner other : String} (plain : ∀ c ∈ other.toList, Text.IsPlain c) :
    Isolated owner other ↔ ¬Overlap owner other :=
  ⟨fun isolated overlap => not_isolated_of_overlap plain overlap isolated,
    isolated_of_not_overlap plain⟩

theorem isolated_default_from_fork : (∀ c ∈ "someone/genvm-manager".toList, Text.IsPlain c) ∧
    Isolated "genlayerlabs/genvm-manager" "someone/genvm-manager" :=
  ⟨Text.isPlain_of_all (by decide), (isolated_iff (Text.isPlain_of_all (by decide))).mpr (by decide)⟩

theorem not_isolated_longer_name :
    ¬Isolated "genlayerlabs/genvm-manager" "genlayerlabs/genvm" :=
  not_isolated_of_overlap (Text.isPlain_of_all (by decide)) (by decide)

end ContractLint.Release
