import ContractLint.Proofs.Runner.Completeness
import ContractLint.Proofs.Sdk.Directories

/-! What a pinned extraction depends on. The embeddings come from their pin, and the library from a
manifest of the pinned runner: the one in the cache if something is in the directory of the runner,
and the one in the source if not. Other runners show up in notes and in the serialisation library
only. -/

namespace ContractLint.Runner

open Files (Entry Inside IsName Path Place Tree)

section

variable {world now after : World} {source : Path} {kind hash : String}

theorem Aside.steady (aside : Aside world source) : Steady world source world :=
  ⟨.refl world, aside.sound.based, rfl, fun _ _ => rfl, fun _ _ => rfl⟩

theorem Steady.asked (aside : Aside world source) (steady : Steady world source now)
    (grows : World.Grows (fun _ => False) (IsIndex source now) now after) :
    Steady world source after := by
  refine ⟨steady.settled.trans grows.toSettled, grows.tree.isBased steady.based, ?_⟩
  refine steady.same.grown grows aside.found aside.sound.based steady.based ?_ ?_
  · rintro ⟨_, isIndex⟩
    rw [steady.settled.here] at isIndex
    exact indexPath_place_ne source world.here isIndex.symm
  · refine fun isTree place _ => ⟨id, fun isIndex => ?_⟩
    rw [← steady.same.hasDirectory, isIndex.1] at isTree
    cases isTree

theorem Steady.whole_of_vacant (aside : Aside world source) (isKind : IsName kind)
    (isHash : IsName hash) (steady : Steady world source now) {path : Path}
    (nothing : ∀ place, Inside (runnerPlace world source kind hash) place →
      now.tree.at? place = none)
    (run : (extract source kind hash).runIn now = (.ok path, after)) :
    after.here = world.here ∧ path = (kindPath world source kind).child hash ∧
      ∃ members, RunnerTar world source kind hash members ∧
        after.tree.hasDirectory after.here path = true ∧
        Holds after.tree (runnerPlace world source kind hash) members := by
  have still {later : World}
      (grows : World.Grows (Passed world ((kindPath world source kind).child hash)) (fun _ => False)
        now later) (place : Place) (inside : Inside (runnerPlace world source kind hash) place) :
      later.tree.at? place = none := by
    rw [grows.tree.unchanged (aside.not_passed_of_inside isKind isHash inside) id,
      nothing place inside]
  have ending := extract_ending run
  rw [steady.same_kindPath] at ending
  cases ending with
  | found grows filled =>
      rw [steady.same_passed] at grows
      have there := directory_of_isFilled filled
      rw [isFilled_of_directory there, (steady.on_way aside isKind isHash grows).settled.here,
        place_runner isKind isHash, Tree.children_isEmpty_iff.mpr fun name =>
          still grows _ ⟨List.prefix_append _ _, by simp⟩] at filled
      cases filled
  | @written asked reading _ asks _ grows there done =>
      rw [steady.same_passed] at asks grows
      have ready := steady.on_way aside isKind isHash (asks.trans grows)
      obtain ⟨members, tar, holds⟩ :=
        ready.whole_of_written aside isKind isHash (still (asks.trans grows)) done
      have more := Runner.extractInto_grows source ((kindPath world source kind).child hash) kind hash
        reading
      rw [done] at more
      have sameHere : after.here = now.here := more.here.trans (asks.trans grows).here
      refine ⟨sameHere.trans steady.settled.here, rfl, members, tar, ?_, holds⟩
      rw [sameHere]
      exact more.tree.hasDirectory there

theorem extract_of_cached {looked : World}
    (cacheThere : world.tree.hasDirectory world.here world.cache = true)
    (filled : ((isFilled ((kindPath world source kind).child hash)).runIn world).1 = .ok true)
    (grows : World.Grows (fun _ => False) (IsIndex source world) world looked) :
    (extract source kind hash).runIn looked = (.ok ((kindPath world source kind).child hash), looked) ∧
      looked.tree.find? looked.here (((kindPath world source kind).child hash).child "runner.json") =
        world.tree.find? world.here (((kindPath world source kind).child hash).child "runner.json") := by
  have there := directory_of_isFilled filled
  have stillThere := grows.tree.hasDirectory there
  have sameKind : kindPath looked source kind = kindPath world source kind := by
    rw [kindPath, kindPath, grows.cache, grows.here, grows.tree.hasDirectory_eq]
  rw [isFilled_of_directory there] at filled
  obtain ⟨name, isName⟩ : ∃ name, (world.tree.at?
      (((kindPath world source kind).child hash).place world.here ++ [name])).isSome := by
    by_contra nothing
    simp only [not_exists, Option.not_isSome_iff_eq_none] at nothing
    rw [Tree.children_isEmpty_iff.mpr nothing] at filled
    cases filled
  constructor
  · rw [← sameKind] at stillThere isName ⊢
    rw [← grows.here] at stillThere isName
    refine extract_of_filled ?_ stillThere (grows.tree.isSome isName)
    rw [grows.cache, grows.here]
    exact grows.tree.hasDirectory cacheThere
  · rw [grows.here, Tree.find?_child (by decide) there, Tree.find?_child (by decide) stillThere]
    refine grows.tree.unchanged id fun isIndex => ?_
    have same := isIndex.2
    rw [place_indexPath] at same
    have long := congrArg String.length (List.cons.inj (List.append_inj_right' same rfl)).1
    rw [String.length_append] at long
    have short : "runner.json".length < ".index-v2.json".length := by decide
    omega

end

theorem NamesRunner.memberNamed? {kind hash name : String} (names : NamesRunner kind hash name)
    (members : Files.Members) : Files.memberNamed? members name = members.reverse.lookup name := by
  have hashEnds : ".tar".toList <:+ (hashPath hash).toList :=
    ⟨_, String.toList_append.symm⟩
  have ends : ".tar".toList <:+ name.toList := by
    rcases names with rfl | ⟨_, isEnding⟩
    · exact hashEnds.trans ⟨_, String.toList_append.symm⟩
    · have legacyEnds : ".tar".toList <:+ (legacyEnding kind hash).toList :=
        hashEnds.trans ⟨_, String.toList_append.symm⟩
      exact legacyEnds.trans (List.isSuffixOf_iff_suffix.mp isEnding)
  obtain ⟨start, whole⟩ := ends
  have kept : (name.toList.reverse.dropWhile (· = '/')).reverse = name.toList := by
    rw [← whole]
    simp
  rw [Files.memberNamed?, kept, String.ofList_toList]

end ContractLint.Runner

namespace ContractLint.Sdk

open Files (Entry Inside IsName Path)
open Runner (Aside RunnerTar entryIn kindPath runnerDirectory runnerPlace sourceName)

/-- The dependencies name the runner of contracts by its hash, and the embeddings too if they ask
for them. -/
structure Pinned (dependencies : List (String × String)) (pin : String) : Prop where
  runner : dependencies.lookup "py-genlayer" = some pin
  fixed : isFloating pin = false
  embeddings : ∀ hash, dependencies.lookup "py-lib-genlayer-embeddings" = some hash →
    isFloating hash = false

def seenManifest (source : Path) (pin : String) : Action (Option Entry) := do
  let _ ← Runner.findLatest? source "py-genlayer"
  let directory ← Runner.extract source "py-genlayer" pin
  Action.ask fun tree here => tree.find? here (directory.child "runner.json")

def seenEmbeddings (source : Path) (pin : String) : Action (Option String) := do
  let _ ← Runner.findLatest? source "py-genlayer"
  let _ ← Runner.extract source "py-lib-genlayer-std" (← libraryHash source pin)
  let _ ← protobufPath? source
  Runner.findLatest? source "py-lib-genlayer-embeddings"

/-- The source has archives of the runner of contracts with this hash, and this is their manifest. -/
structure Ships (world : World) (source : Path) (pin : String) (manifest : Option Entry) : Prop where
  archive : ∃ members, RunnerTar world source "py-genlayer" pin members
  manifest : ∀ members, RunnerTar world source "py-genlayer" pin members →
    entryIn (runnerPlace world source "py-genlayer" pin) members
      (runnerPlace world source "py-genlayer" pin ++ ["runner.json"]) = manifest

/-- The manifest of the pinned runner that counts. If something is found in the directory of the
runner, it is the one there; if nothing is in it, it is the one in the source. -/
inductive Uses (world : World) (source : Path) (pin : String) : Option Entry → Prop
  | cached (cacheThere : world.tree.hasDirectory world.here world.cache = true)
      (filled : ((Runner.isFilled ((kindPath world source "py-genlayer").child pin)).runIn world).1 =
        .ok true) :
      Uses world source pin (world.tree.find? world.here
        (((kindPath world source "py-genlayer").child pin).child "runner.json"))
  | shipped {manifest : Option Entry} (aside : Aside world source) (isName : IsName pin)
      (vacant : ∀ place, Inside (runnerPlace world source "py-genlayer" pin) place →
        world.tree.at? place = none)
      (ships : Ships world source pin manifest) : Uses world source pin manifest

def Names (cache source : Path) (kind hash : String) (path : Path) : Prop :=
  ∃ isDirectory, path = runnerDirectory cache (sourceName source isDirectory) kind hash

def IsNewer (latest : Except Failure (Option String)) (pin newest : String) : Prop :=
  latest = .ok (some newest) ∧ newest ≠ "" ∧ newest ≠ pin

def noteText (repository kind newest : String) : String :=
  kind ++ ": a newer runner is available (" ++ newest ++ "). See " ++
    Release.releasesUrl repository ++ " for changes."

/-- There is a note exactly if there is a newer runner, and the note names it. -/
def Noted (repository kind pin : String) (latest : Except Failure (Option String))
    (note : Option String) : Prop :=
  ∀ text, note = some text ↔
    ∃ newest, IsNewer latest pin newest ∧ text = noteText repository kind newest

/-- The directories of a pinned extraction and its notes. -/
structure Resolved (world : World) (source : Path) (dependencies : List (String × String))
    (pin library : String) (extracted : Extracted) : Prop where
  paths : ∃ (standard : Path) (protobuf embeddings : Option Path),
    extracted.paths = standard :: protobuf.toList ++ embeddings.toList ∧
    Names world.cache source "py-lib-genlayer-std" library standard ∧
    (∀ path ∈ protobuf, ∃ hash, Names world.cache source "py-lib-protobuf" hash path) ∧
    Option.Rel (Names world.cache source "py-lib-genlayer-embeddings")
      (dependencies.lookup "py-lib-genlayer-embeddings") embeddings
  notes : ∃ runnerNote embeddingsNote : Option String,
    extracted.notes = runnerNote.toList ++ embeddingsNote.toList ∧
    Noted world.repository "py-genlayer" pin
      ((Runner.findLatest? source "py-genlayer").runIn world).1 runnerNote ∧
    (dependencies.lookup "py-lib-genlayer-embeddings" = none → embeddingsNote = none) ∧
    ∀ hash, dependencies.lookup "py-lib-genlayer-embeddings" = some hash →
      Noted world.repository "py-lib-genlayer-embeddings" hash
        ((seenEmbeddings source pin).runIn world).1 embeddingsNote

section

variable {world after : World} {source : Path} {kind pin : String}

theorem noted_newerNote {latest : Option String} {asked : Except Failure (Option String)}
    (found : asked = .ok latest) (repository kind pin : String) :
    Noted repository kind pin asked (newerNote? repository kind pin latest) := by
  subst found
  intro text
  rcases latest with _ | newest
  · simp [newerNote?, IsNewer]
  have filtered : (some newest).filter (fun found => !found.isEmpty && found != pin) =
      if newest ≠ "" ∧ newest ≠ pin then some newest else none := by
    simp [Option.filter]
  rw [newerNote?, filtered]
  by_cases worth : newest ≠ "" ∧ newest ≠ pin
  · rw [if_pos worth]
    constructor
    · rintro ⟨⟩
      exact ⟨newest, ⟨rfl, worth⟩, rfl⟩
    · rintro ⟨_, ⟨⟨⟩, _⟩, rfl⟩
      rfl
  · rw [if_neg worth]
    refine ⟨fun noted => (nomatch noted), ?_⟩
    rintro ⟨_, ⟨⟨⟩, isWorth⟩, _⟩
    exact absurd isWorth worth

theorem chooseHash_pinned {chosen : String × Option String} (fixed : isFloating pin = false)
    (done : (chooseHash source kind (some pin)).runIn world = (.ok chosen, after)) :
    ∃ latest, (Runner.findLatest? source kind).runIn world = (.ok latest, after) ∧
      chosen = (pin, newerNote? world.repository kind pin latest) := by
  have kept : (some pin).filter (fun hash => !isFloating hash) = some pin := by
    simp [Option.filter, fixed]
  simp only [chooseHash, kept] at done
  obtain ⟨latest, middle, found, settled, more⟩ := (Runner.findLatest_settles _ _).bind_ok done
  rw [Action.runIn_bind, Action.runIn_get] at more
  cases more
  exact ⟨latest, found, by rw [settled.repository]⟩

theorem names_of_extract {path : Path} {hash : String}
    (done : (Runner.extract source kind hash).runIn world = (.ok path, after)) :
    Names world.cache source kind hash path :=
  ⟨_, Runner.extract_returns (congrArg Prod.fst done)⟩

theorem names_of_protobufPath {found : Option Path}
    (done : (protobufPath? source).runIn world = (.ok found, after)) :
    ∀ path ∈ found, ∃ hash, Names world.cache source "py-lib-protobuf" hash path := by
  obtain ⟨_, _, _, rfl, rfl, _⟩ := protobufPath_ok done
  simp only [Option.mem_def, Option.map_eq_some_iff]
  rintro _ ⟨_, ⟨hash, _, rfl⟩, rfl⟩
  rw [← (looked_settled source "py-lib-protobuf" world).cache]
  exact ⟨hash, _, rfl⟩

theorem resolved_of_done {dependencies : List (String × String)} {extracted : Extracted}
    (pinned : Pinned dependencies pin)
    (done : (extract source dependencies).runIn world = (.ok extracted, after)) :
    ∃ manifest library, ((seenManifest source pin).runIn world).1 = .ok manifest ∧
      libraryIn? manifest = some library ∧
      Resolved world source dependencies pin library extracted := by
  obtain ⟨runner, note, library, standard, protobuf, asked, named, placed, packed, chooses, names,
    places, packs, toNamed, toPlaced, toPacked, rest⟩ := extract_ok done
  rw [pinned.runner] at chooses
  obtain ⟨latest, asks, same⟩ := chooseHash_pinned pinned.fixed chooses
  cases same
  obtain ⟨directory, extractedRunner, isLibrary⟩ := libraryHash_ok names
  refine ⟨_, library, ?_, isLibrary, ?_⟩
  · simp only [seenManifest, Action.runIn_bind, asks, extractedRunner, Action.runIn_ask]
  have isStandard := names_of_extract places
  have isProtobuf := names_of_protobufPath packs
  have runnerNoted :=
    noted_newerNote (congrArg Prod.fst asks) world.repository "py-genlayer" pin
  rw [toNamed.cache] at isStandard
  rw [toPlaced.cache] at isProtobuf
  rcases rest with ⟨unasked, rfl⟩ |
    ⟨hash, _, _, embeddings, looked, wanted, looks, extractedEmbeddings, toLooked, rfl⟩
  · refine ⟨⟨standard, protobuf, none, by simp, isStandard, isProtobuf, ?_⟩,
      ⟨_, none, (List.append_nil _).symm, runnerNoted, fun _ => rfl, ?_⟩⟩
    · rw [unasked]
      exact .none
    · intro hash wanted
      cases unasked.symm.trans wanted
  · obtain ⟨newest, looksUp, same⟩ := chooseHash_pinned (pinned.embeddings hash wanted) looks
    cases same
    have isEmbeddings := names_of_extract extractedEmbeddings
    rw [toLooked.cache] at isEmbeddings
    have seen : ((seenEmbeddings source pin).runIn world).1 = .ok newest := by
      simp only [seenEmbeddings, Action.runIn_bind, asks, names, places, packs, looksUp]
    refine ⟨⟨standard, protobuf, some embeddings, rfl, isStandard, isProtobuf, ?_⟩,
      ⟨_, _, rfl, runnerNoted, ?_, ?_⟩⟩
    · rw [wanted]
      exact .some isEmbeddings
    · intro unasked
      cases wanted.symm.trans unasked
    · intro other alsoWanted
      cases wanted.symm.trans alsoWanted
      rw [toPacked.repository]
      exact noted_newerNote seen _ _ _

theorem Uses.eq_of_seen {manifest found : Option Entry} (uses : Uses world source pin manifest)
    (seen : (seenManifest source pin).runIn world = (.ok found, after)) : found = manifest := by
  obtain ⟨latest, asked, looks, more⟩ := Action.runIn_bind_eq_ok_iff.mp seen
  obtain ⟨directory, extracted, run, shown⟩ := Action.runIn_bind_eq_ok_iff.mp more
  cases shown
  have grows := Runner.findLatest_grows (fun _ => False) source "py-genlayer" world
  rw [looks] at grows
  cases uses with
  | cached cacheThere filled =>
      obtain ⟨returned, same⟩ := Runner.extract_of_cached cacheThere filled grows
      cases returned.symm.trans run
      exact same
  | shipped aside isName vacant ships =>
      have nothing (place : Files.Place)
          (inside : Inside (runnerPlace world source "py-genlayer" pin) place) :
          asked.tree.at? place = none := by
        rw [grows.tree.unchanged id, vacant place inside]
        rintro ⟨_, rfl⟩
        exact aside.index_outside (Runner.inside_runners inside.1)
      obtain ⟨sameHere, rfl, members, tar, there, holds⟩ :=
        (aside.steady.asked aside grows).whole_of_vacant aside (by decide) isName nothing run
      dsimp only
      rw [Files.Tree.find?_child (by decide) there, sameHere, Runner.place_runner (by decide) isName]
      exact (holds _ ⟨List.prefix_append _ _, by simp⟩).trans (ships.manifest members tar)

end

/-- Two pinned extractions come to the same embeddings, whatever else is in the sources, in the
caches and around them. They come to the same library exactly if the manifests that count name the
same one, so that takes caches with nothing stale in the directory of the pinned runner. -/
theorem extract_reproducible {dependencies : List (String × String)} {pin : String}
    {first second firstAfter secondAfter : World} {firstSource secondSource : Path}
    {firstExtracted secondExtracted : Extracted} {firstManifest secondManifest : Option Entry}
    (pinned : Pinned dependencies pin)
    (firstDone : (extract firstSource dependencies).runIn first = (.ok firstExtracted, firstAfter))
    (secondDone : (extract secondSource dependencies).runIn second =
      (.ok secondExtracted, secondAfter))
    (firstUses : Uses first firstSource pin firstManifest)
    (secondUses : Uses second secondSource pin secondManifest) :
    ∃ firstLibrary secondLibrary,
      libraryIn? firstManifest = some firstLibrary ∧
      libraryIn? secondManifest = some secondLibrary ∧
      Resolved first firstSource dependencies pin firstLibrary firstExtracted ∧
      Resolved second secondSource dependencies pin secondLibrary secondExtracted ∧
      (firstLibrary = secondLibrary ↔ libraryIn? firstManifest = libraryIn? secondManifest) := by
  obtain ⟨seen, library, isSeen, isLibrary, resolved⟩ := resolved_of_done pinned firstDone
  obtain ⟨alsoSeen, other, isAlsoSeen, isOther, alsoResolved⟩ := resolved_of_done pinned secondDone
  obtain rfl := firstUses.eq_of_seen (Prod.ext isSeen rfl)
  obtain rfl := secondUses.eq_of_seen (Prod.ext isAlsoSeen rfl)
  refine ⟨library, other, isLibrary, isOther, resolved, alsoResolved, ?_⟩
  rw [isLibrary, isOther, Option.some.injEq]

def sharedManifest : Files.Content :=
  .ofText "\x7b\"Seq\":[\x7b\"Depends\":\"py-lib-genlayer-std:s1l1\"\x7d]\x7d"

def bundleWith (others : List String) : Files.Members :=
  ("runners/py-genlayer/p1/n1.tar", some (.archive false [("runner.json", some sharedManifest)])) ::
    others.map fun name => (name, some (.archive false [("src", none)]))

def worldWith (index : String) (others : List String) (cached : List (Files.Place × Entry)) : World :=
  { tree := ⟨(["bundle.tar.xz"], .file (.archive true (bundleWith others))) ::
      (["bundle.tar.xz.index-v2.json"], .file (.ofText index)) :: cached⟩
    cache := .ofRoot ["cache"] }

def bundleSource : Path := .ofRoot ["bundle.tar.xz"]

theorem ships_worldWith {index : String} {others : List String} {cached : List (Files.Place × Entry)}
    (current : ∀ name ∈ others,
      Runner.isLegacy name = false ∧ name ≠ "runners/py-genlayer/p1/n1.tar") :
    Ships (worldWith index others cached) bundleSource "p1n1"
      (some (.file sharedManifest)) where
  archive := by
    have names : Runner.NamesRunner "py-genlayer" "p1n1" "runners/py-genlayer/p1/n1.tar" :=
      .inl (by decide)
    refine ⟨_, .inBundle _ _ (.archive false [("runner.json", some sharedManifest)]) _ names rfl rfl
      ?_ rfl⟩
    rw [names.memberNamed?, bundleWith, List.reverse_cons, List.lookup_append,
      List.lookup_eq_none_iff.mpr]
    · rfl
    · simp only [List.mem_reverse, List.mem_map]
      rintro _ ⟨name, isOther, rfl⟩
      simpa using Ne.symm (current name isOther).2
  manifest members tar := by
    cases tar with
    | inBundle name bundle runner all names found packed named archive =>
        cases found
        cases packed
        rw [names.memberNamed?] at named
        obtain ⟨before, after, split, _⟩ := List.lookup_eq_some_iff.mp named
        have isMember : (name, some runner) ∈ bundleWith others := by
          rw [List.reverse_eq_iff.mp split]
          simp
        rcases List.mem_cons.mp isMember with isPinned | isOther
        · cases isPinned
          cases archive
          have parts : Runner.memberParts "runner.json" = ["runner.json"] := by decide
          refine (Runner.entryIn_append _ _ [] _).trans (if_pos ?_)
          rw [parts]
          exact Files.step_down (show "runner.json" ≠ ".." by decide) (by decide) _
        · obtain ⟨other, isName, same⟩ := List.mem_map.mp isOther
          cases same
          obtain ⟨notLegacy, different⟩ := current _ isName
          rcases names with isCurrent | ⟨isLegacy, _⟩
          · exact absurd isCurrent different
          · cases notLegacy.symm.trans isLegacy
    | inTree name runner names isTree found archive => cases isTree

theorem uses_worldWith {index : String} {others : List String} {cached : List (Files.Place × Entry)}
    (current : ∀ name ∈ others,
      Runner.isLegacy name = false ∧ name ≠ "runners/py-genlayer/p1/n1.tar")
    (apart : Runner.Apart (worldWith index others cached) bundleSource) :
    Uses (worldWith index others cached) bundleSource "p1n1" (some (.file sharedManifest)) := by
  refine .shipped apart.aside (by decide) (fun place inside => ?_) (ships_worldWith current)
  exact apart.fresh place (Runner.inside_runners inside.1)

def bothPinned : List (String × String) :=
  [("py-genlayer", "p1n1"), ("py-lib-genlayer-embeddings", "e1e1")]

theorem pinned_bothPinned : Pinned bothPinned "p1n1" where
  runner := rfl
  fixed := by decide
  embeddings := by
    rintro hash ⟨⟩
    decide

def plainWorld : World :=
  worldWith "\x7b\"py-genlayer\":[\"runners/py-genlayer/z9/z9.tar\"]\x7d"
    ["runners/py-lib-genlayer-std/s1/l1.tar", "runners/py-lib-genlayer-embeddings/e1/e1.tar"] []

def richWorld (cached : List (Files.Place × Entry)) : World :=
  worldWith "\x7b\"py-lib-protobuf\":[\"runners/py-lib-protobuf/q1/q1.tar\"]\x7d"
    ["runners/py-lib-genlayer-std/s1/l1.tar", "runners/py-lib-genlayer-std/t2/t2.tar",
      "runners/py-lib-protobuf/q1/q1.tar", "runners/py-lib-genlayer-embeddings/e1/e1.tar"] cached

theorem extract_richWorld : ((extract bundleSource bothPinned).runIn (richWorld [])).1.toOption.map
    (fun extracted => (extracted.paths.head?, extracted.paths.length, extracted.notes.length)) =
      some (some (.ofRoot ["cache", "extracted", "bundle.tar", "py-lib-genlayer-std", "s1l1"]), 3, 0) := by
  decide +kernel

theorem extract_reproducible_rich :
    Pinned bothPinned "p1n1" ∧
    Uses plainWorld bundleSource "p1n1" (some (.file sharedManifest)) ∧
    Uses (richWorld []) bundleSource "p1n1" (some (.file sharedManifest)) ∧
    ∃ plain plainAfter rich richAfter,
      (extract bundleSource bothPinned).runIn plainWorld = (.ok plain, plainAfter) ∧
      (extract bundleSource bothPinned).runIn (richWorld []) = (.ok rich, richAfter) ∧
      (plain.paths.length, plain.notes.length) = (2, 1) ∧
      (rich.paths.length, rich.notes.length) = (3, 0) ∧
      ∃ library, libraryIn? (some (.file sharedManifest)) = some library ∧
        Resolved plainWorld bundleSource bothPinned "p1n1" library plain ∧
        Resolved (richWorld []) bundleSource bothPinned "p1n1" library rich := by
  have plainUses : Uses plainWorld bundleSource "p1n1" (some (.file sharedManifest)) :=
    uses_worldWith (by decide) (by decide +kernel)
  have richUses : Uses (richWorld []) bundleSource "p1n1" (some (.file sharedManifest)) :=
    uses_worldWith (by decide) (by decide +kernel)
  have plainCounts : ((extract bundleSource bothPinned).runIn plainWorld).1.toOption.map
      (fun extracted => (extracted.paths.length, extracted.notes.length)) = some (2, 1) := by
    decide +kernel
  obtain ⟨plain, plainAfter, plainRun, plainCount⟩ := exists_ok_of_map plainCounts
  obtain ⟨rich, richAfter, richRun, richShown⟩ := exists_ok_of_map extract_richWorld
  obtain ⟨library, other, isLibrary, isOther, plainResolved, richResolved, same⟩ :=
    extract_reproducible pinned_bothPinned plainRun richRun plainUses richUses
  obtain rfl := same.mpr rfl
  exact ⟨pinned_bothPinned, plainUses, richUses, plain, plainAfter, rich, richAfter, plainRun, richRun,
    plainCount, congrArg Prod.snd richShown, library, isLibrary, plainResolved, richResolved⟩

def staleManifest : Files.Content :=
  .ofText "\x7b\"Seq\":[\x7b\"Depends\":\"py-lib-genlayer-std:t2t2\"\x7d]\x7d"

def staleWorld : World :=
  let runners := ["cache", "extracted", "bundle.tar"]
  richWorld [(["cache"], .directory), (["cache", "extracted"], .directory), (runners, .directory),
    (runners ++ ["py-genlayer"], .directory), (runners ++ ["py-genlayer", "p1n1"], .directory),
    (runners ++ ["py-genlayer", "p1n1", "runner.json"], .file staleManifest)]

theorem extract_staleWorld : ((extract bundleSource bothPinned).runIn staleWorld).1.toOption.map
    (·.paths.head?) =
      some (some (.ofRoot ["cache", "extracted", "bundle.tar", "py-lib-genlayer-std", "t2t2"])) := by
  decide +kernel

theorem not_reproducible_stale :
    Pinned bothPinned "p1n1" ∧
    Ships staleWorld bundleSource "p1n1" (some (.file sharedManifest)) ∧
    Ships (richWorld []) bundleSource "p1n1" (some (.file sharedManifest)) ∧
    ∃ stale staleAfter rich richAfter,
      (extract bundleSource bothPinned).runIn staleWorld = (.ok stale, staleAfter) ∧
      (extract bundleSource bothPinned).runIn (richWorld []) = (.ok rich, richAfter) ∧
      stale.paths.head? =
        some (.ofRoot ["cache", "extracted", "bundle.tar", "py-lib-genlayer-std", "t2t2"]) ∧
      rich.paths.head? =
        some (.ofRoot ["cache", "extracted", "bundle.tar", "py-lib-genlayer-std", "s1l1"]) := by
  obtain ⟨stale, staleAfter, staleRun, staleShown⟩ := exists_ok_of_map extract_staleWorld
  obtain ⟨rich, richAfter, richRun, richShown⟩ := exists_ok_of_map extract_richWorld
  exact ⟨pinned_bothPinned, ships_worldWith (by decide), ships_worldWith (by decide), stale,
    staleAfter, rich, richAfter, staleRun, richRun, staleShown, congrArg Prod.fst richShown⟩

end ContractLint.Sdk
