import ContractLint.Proofs.World.Runs
import ContractLint.Release.Cache

/-! Bundles in the cache: their names, the listings they show up in, and the actions that look for
versions without looking at the cache. -/

namespace ContractLint.Release

open Files (Entry IsName Path Place Tree)
open Json (Value)

theorem slug_toList (repository : String) : (slug repository).toList =
    repository.toList.map fun c => if c = '/' then '-' else c := by
  rw [slug, Text.replaceAll, String.toList_ofList]
  change Text.replaceFrom ['/'] ['-'] 0 _ = _
  rw [Text.replaceFrom_char]
  induction repository.toList with
  | nil => rfl
  | cons c rest ih => by_cases same : c = '/' <;> simp [same, ih]

theorem mem_repositoryStart {repository : String} {c : Char}
    (member : c ∈ (repositoryStart repository).toList) :
    c ∈ "genvm-universal-".toList ∨ c ∈ repository.toList ∧ c ≠ '/' ∨ c = '-' := by
  simp only [repositoryStart, bundleStart, String.toList_append, List.mem_append, slug_toList,
    List.mem_map] at member
  rcases member with (isStart | ⟨other, isOther, rfl⟩) | isDash
  · exact .inl isStart
  · by_cases slash : other = '/'
    · simp [slash]
    · simp [slash, isOther]
  · exact .inr (.inr (by simpa using isDash))

theorem slash_notMem_repositoryStart (repository : String) :
    '/' ∉ (repositoryStart repository).toList := by
  intro member
  rcases mem_repositoryStart member with isStart | ⟨_, different⟩ | isDash
  · revert isStart
    decide
  · exact different rfl
  · cases isDash

theorem bundleName_toList (repository version : String) : (bundleName repository version).toList =
    (repositoryStart repository).toList ++ version.toList ++ bundleEnding.toList := by
  simp [bundleName]

theorem bundleName_isName (repository : String) {version : String}
    (single : '/' ∉ version.toList) : IsName (bundleName repository version) := by
  have first : (bundleName repository version).toList.head? = some 'g' := by
    simp [bundleName_toList, repositoryStart, bundleStart]
  refine ⟨?_, ?_, ?_, ?_⟩
  · simp only [bundleName_toList, List.mem_append, not_or]
    exact ⟨⟨slash_notMem_repositoryStart repository, single⟩, by decide⟩
  all_goals
    intro same
    rw [same] at first
    revert first
    decide

theorem bundleName_injective {repository version other : String}
    (same : bundleName repository version = bundleName repository other) : version = other := by
  have sameChars := congrArg String.toList same
  simp only [bundleName_toList] at sameChars
  exact String.toList_inj.mp (List.append_cancel_left (List.append_cancel_right sameChars))

theorem mem_namesLike_iff {tree : Tree} {place : Place} {name pattern : String} :
    name ∈ tree.namesLike place pattern ↔
      (tree.at? (place ++ [name])).isSome ∧ Text.matchesPattern pattern name = true := by
  rw [Tree.namesLike, List.mem_filter, Tree.mem_children_iff]

theorem namesLike_put {tree : Tree} {place : Place} {name pattern : String} (entry : Entry)
    (unfit : Text.matchesPattern pattern name = false) :
    (tree.put (place ++ [name]) entry).namesLike place pattern = tree.namesLike place pattern := by
  rw [Tree.namesLike, Tree.namesLike, Tree.children, Tree.children, Tree.put]
  split
  case isTrue =>
    congr 1
    simp only [List.map_filterMap, List.filterMap_map]
    refine congrArg (List.filterMap · _) (funext fun found => ?_)
    obtain ⟨other, old⟩ := found
    by_cases same : other = place ++ [name]
    · simp [same]
    · simp only [Function.comp, same, if_false]
  case isFalse => simp [List.filterMap_append, unfit]

theorem cacheDirectory_growing (here : Place) (cache : Path) (written : Place → Prop) :
    cacheDirectory.Growing here cache (cache.OnWay here) written := by
  refine .bind .get fun world _ sameHere sameCache found => ?_
  cases found
  subst sameHere sameCache
  refine .bind (.makeDirectories fun way isWay => ⟨way, isWay, rfl⟩) fun _ _ _ _ _ => ?_
  exact .pure _

theorem cacheDirectory_local : cacheDirectory.Local :=
  .bind (.of_same fun _ => rfl) fun _ => .bind (.makeAll _ _) fun _ => .of_same fun _ => rfl

theorem cacheDirectory_ok {world after : World} {path : Path}
    (done : cacheDirectory.runIn world = (.ok path, after)) : path = world.cache := by
  obtain ⟨_, _, found, made⟩ := Action.runIn_bind_eq_ok_iff.mp done
  cases found
  obtain ⟨_, _, _, returned⟩ := Action.runIn_bind_eq_ok_iff.mp made
  exact (Except.ok.inj (congrArg Prod.fst returned)).symm

theorem cacheDirectory_of_there {world : World}
    (there : world.tree.hasDirectory world.here world.cache = true) :
    cacheDirectory.runIn world = (.ok world.cache, world) := by
  simp only [cacheDirectory, Action.runIn_bind, Action.runIn_get,
    Action.makeDirectories_of_there there, Action.runIn_pure]

theorem cachedVersions_of_opened {world opened : World} {path : Path}
    (opens : cacheDirectory.runIn world = (.ok path, opened)) : cachedVersions.runIn world =
      (.ok (versionsIn opened.tree (world.cache.place world.here) world.repository), opened) := by
  have settled := cacheDirectory_local.settles world
  obtain rfl := cacheDirectory_ok opens
  rw [opens] at settled
  have located : opened.tree.locate opened.here world.cache =
      .ok (world.cache.place world.here) := by
    rw [settled.here]
    by_cases inner : world.cache.parts = []
    · refine Tree.locate_eq_ok_iff.mpr ⟨rfl, fun way isWay different => ?_⟩
      rw [inner] at isWay different
      exact absurd (List.prefix_nil.mp isWay) different
    · obtain ⟨_, _, found, made⟩ := Action.runIn_bind_eq_ok_iff.mp opens
      cases found
      obtain ⟨_, _, made, returned⟩ := Action.runIn_bind_eq_ok_iff.mp made
      cases returned
      exact Tree.locate_of_hasDirectory (Action.makeDirectories_ok made inner)
  simp only [cachedVersions, Action.runIn_bind, opens, Action.runIn_get, Action.runIn_onTree,
    located, ← settled.repository]
  rfl

theorem cachedVersions_of_there {world : World}
    (there : world.tree.hasDirectory world.here world.cache = true) :
    cachedVersions.runIn world = (.ok (versionsIn world.tree (world.cache.place world.here)
      world.repository), world) :=
  cachedVersions_of_opened (cacheDirectory_of_there there)

theorem request_treeless (url : String) : (Action.request url).Treeless := by
  refine .bind (.modifying (fun _ _ => rfl) fun _ => ⟨rfl, rfl, rfl⟩) fun _ => ?_
  refine .reading (fun _ _ => rfl) fun world => ?_
  split
  · exact .pure _
  · exact .throw _

theorem fetchText_treeless (url : String) : (fetchText url).Treeless := by
  refine .bind (request_treeless url) fun body => ?_
  split
  · exact .throw _
  · split
    · exact .pure _
    · exact .throw _

theorem complain_treeless (text : String) : (Action.complain text).Treeless :=
  .modifying (fun _ _ => rfl) fun _ => ⟨rfl, rfl, rfl⟩

theorem setting_treeless (name : String) : (Action.setting? name).Treeless :=
  .reading (fun _ _ => rfl) fun _ => .pure _

theorem attempt_treeless {α : Type} (result : Except Json.Mismatch α) :
    (Action.attempt result).Treeless := by
  cases result with
  | ok value => exact .pure value
  | error found => exact .throw _

theorem parseJson_treeless (text : String) : (Action.parseJson text).Treeless := by
  refine .reading (fun _ _ => rfl) fun world => ?_
  split
  · exact .pure _
  · exact .throw _

theorem listedVersion_treeless : listedVersion?.Treeless :=
  .reading (fun _ _ => rfl) fun _ => .bind (fetchText_treeless _) fun text =>
    .bind (parseJson_treeless text) fun _ => .bind (setting_treeless _) fun _ =>
      attempt_treeless _

theorem latestVersion_treeless : latestVersion.Treeless := by
  refine .reading (fun _ _ => rfl) fun _ => .bind listedVersion_treeless.outcome fun found => ?_
  split
  · exact .pure _
  · exact .bind (complain_treeless _) fun _ => .pure _
  · exact .bind (complain_treeless _) fun _ => .pure _

end ContractLint.Release
