import ContractLint.Proofs.Runner.Freshness
import ContractLint.Sdk.Paths

/-! The directories of an SDK. Each of them is that of a runner, whose hash comes from a pin, from
the manifest of the runner of contracts or from the index of the source, and is inside the directory
of its kind if that hash leads down. -/

namespace ContractLint.Sdk

open Files (Content Entry Inside IsName Path)
open Runner (Contained Descends Tame kindPath runnersPlace)

section

variable {world after : World} {source : Path} {kind pin : String}

theorem chooseHash_settles (source : Path) (kind : String) (wanted : Option String) :
    (chooseHash source kind wanted).Settles := by
  rw [chooseHash]
  split
  · refine .bind (Runner.findLatest_settles source kind) fun latest => ?_
    exact fun world => .refl world
  · refine .bind ?_ fun hash world => .refl world
    refine .bind (Runner.findLatest_settles source kind) fun latest => ?_
    split
    · exact fun world => .refl world
    · exact fun world => .refl world

theorem libraryHash_settles (source : Path) (hash : String) : (libraryHash source hash).Settles := by
  refine .bind (Runner.extract_settles source "py-genlayer" hash) fun directory => ?_
  refine .bind (Runner.dependenciesIn_settles directory) fun dependencies => ?_
  split
  · exact fun world => .refl world
  · exact fun world => .refl world

theorem protobufPath_settles (source : Path) : (protobufPath? source).Settles := by
  refine .bind (Runner.findLatest_settles source _) fun latest => ?_
  split
  · exact .bind (Runner.extract_settles _ _ _) fun _ world => .refl world
  · exact fun world => .refl world

theorem extract_settles (source : Path) (dependencies : List (String × String)) :
    (extract source dependencies).Settles := by
  refine .bind (chooseHash_settles _ _ _) fun _ => .bind (libraryHash_settles _ _) fun _ => ?_
  refine .bind (Runner.extract_settles _ _ _) fun _ => .bind (protobufPath_settles _) fun _ => ?_
  split
  · exact fun world => .refl world
  · refine .bind (chooseHash_settles _ _ _) fun _ => .bind (Runner.extract_settles _ _ _) fun _ => ?_
    exact fun world => .refl world

theorem extract_ok {dependencies : List (String × String)} {extracted : Extracted}
    (done : (extract source dependencies).runIn world = (.ok extracted, after)) :
    ∃ runner note library standard protobuf, ∃ asked named placed packed : World,
      (chooseHash source "py-genlayer" (dependencies.lookup "py-genlayer")).runIn world =
        (.ok (runner, note), asked) ∧
      (libraryHash source runner).runIn asked = (.ok library, named) ∧
      (Runner.extract source "py-lib-genlayer-std" library).runIn named = (.ok standard, placed) ∧
      (protobufPath? source).runIn placed = (.ok protobuf, packed) ∧
      world.Settled named ∧ world.Settled placed ∧ world.Settled packed ∧
      (dependencies.lookup "py-lib-genlayer-embeddings" = none ∧
          extracted = ⟨standard :: protobuf.toList, note.toList⟩ ∨
        ∃ wanted hash otherNote embeddings, ∃ looked : World,
          dependencies.lookup "py-lib-genlayer-embeddings" = some wanted ∧
          (chooseHash source "py-lib-genlayer-embeddings" (some wanted)).runIn packed =
            (.ok (hash, otherNote), looked) ∧
          (Runner.extract source "py-lib-genlayer-embeddings" hash).runIn looked =
            (.ok embeddings, after) ∧
          world.Settled looked ∧
          extracted = ⟨standard :: protobuf.toList ++ [embeddings],
            note.toList ++ otherNote.toList⟩) := by
  obtain ⟨⟨runner, note⟩, asked, chooses, settled₁, more₁⟩ := (chooseHash_settles _ _ _).bind_ok done
  obtain ⟨library, named, names, settled₂, more₂⟩ := (libraryHash_settles _ _).bind_ok more₁
  obtain ⟨standard, placed, places, settled₃, more₃⟩ :=
    (Runner.extract_settles _ _ _).bind_ok more₂
  obtain ⟨protobuf, packed, packs, settled₄, more₄⟩ := (protobufPath_settles _).bind_ok more₃
  have toNamed := settled₁.trans settled₂
  have toPlaced := toNamed.trans settled₃
  have toPacked := toPlaced.trans settled₄
  refine ⟨runner, note, library, standard, protobuf, asked, named, placed, packed, chooses, names,
    places, packs, toNamed, toPlaced, toPacked, ?_⟩
  split at more₄
  case h_1 unasked =>
    cases more₄
    exact .inl ⟨unasked, rfl⟩
  case h_2 wanted isWanted =>
    obtain ⟨⟨hash, otherNote⟩, looked, looks, settled₅, more₅⟩ :=
      (chooseHash_settles _ _ _).bind_ok more₄
    obtain ⟨embeddings, _, extractedEmbeddings, returned⟩ :=
      Action.runIn_bind_eq_ok_iff.mp more₅
    cases returned
    exact .inr ⟨wanted, hash, otherNote, embeddings, looked, isWanted, looks, extractedEmbeddings,
      toPacked.trans settled₅, rfl⟩

/-- The hash of the library that a manifest names. -/
def libraryIn? : Option Entry → Option String
  | some (.file content) => do
    let text ← content.text.toOption
    let manifest ← (Json.read text).toOption
    let dependencies ← (Runner.manifestDependencies manifest).toOption
    dependencies.lookup "py-lib-genlayer-std"
  | _ => none

theorem library_of_dependenciesIn {directory : Path} {dependencies : List (String × String)}
    {hash : String}
    (done : (Runner.dependenciesIn directory).runIn world = (.ok dependencies, after))
    (named : dependencies.lookup "py-lib-genlayer-std" = some hash) : after = world ∧
      libraryIn? (world.tree.find? world.here (directory.child "runner.json")) = some hash := by
  obtain ⟨there, _, asked, done⟩ := Action.runIn_bind_eq_ok_iff.mp done
  cases asked
  split at done
  case isTrue =>
    obtain ⟨text, _, read, parses⟩ := Action.runIn_bind_eq_ok_iff.mp done
    obtain ⟨rfl, content, isContent, isText⟩ := Runner.readText_ok read
    obtain ⟨manifest, _, parsed, finds⟩ := Action.runIn_bind_eq_ok_iff.mp parses
    obtain ⟨rfl, isManifest⟩ := Runner.parseJson_ok parsed
    obtain ⟨rfl, isDependencies⟩ := Action.attempt_ok finds
    rw [Files.Tree.find?_of_read isContent]
    simp [libraryIn?, isText, isManifest, isDependencies, named, Except.toOption]
  case isFalse =>
    cases done
    cases named

theorem libraryHash_ok {hash : String}
    (done : (libraryHash source pin).runIn world = (.ok hash, after)) :
    ∃ directory, (Runner.extract source "py-genlayer" pin).runIn world = (.ok directory, after) ∧
      libraryIn? (after.tree.find? after.here (directory.child "runner.json")) = some hash := by
  obtain ⟨directory, middle, extracted, done⟩ := Action.runIn_bind_eq_ok_iff.mp done
  obtain ⟨dependencies, _, read, done⟩ := Action.runIn_bind_eq_ok_iff.mp done
  split at done
  case h_1 found named =>
    cases done
    obtain ⟨rfl, isLibrary⟩ := library_of_dependenciesIn read named
    exact ⟨directory, extracted, isLibrary⟩
  case h_2 => cases done

/-- The hash for a kind of runner: the one that is asked for, or the latest one of the source if none
or a floating one is. -/
inductive Chosen (world : World) (source : Path) (kind : String) (wanted : Option String)
    (hash : String) : Prop
  | pinned (isWanted : wanted = some hash) (fixed : isFloating hash = false)
  | latest (floating : ∀ asked, wanted = some asked → isFloating asked = true) (inner : hash ≠ "")
      (newest : ((Runner.findLatest? source kind).runIn world).1 = .ok (some hash))

def looked (source : Path) (kind : String) (world : World) : World :=
  ((Runner.findLatest? source kind).runIn world).2

theorem filter_inner_eq_some {latest : Option String} {hash : String}
    (found : latest.filter (fun found => !found.isEmpty) = some hash) :
    latest = some hash ∧ hash ≠ "" := by
  obtain ⟨rfl, inner⟩ := Option.filter_eq_some_iff.mp found
  exact ⟨rfl, by simpa using inner⟩

theorem chooseHash_ok {wanted note : Option String} {hash : String}
    (done : (chooseHash source kind wanted).runIn world = (.ok (hash, note), after)) :
    Chosen world source kind wanted hash ∧ after = looked source kind world := by
  rw [chooseHash] at done
  split at done
  case h_1 pin isPin =>
    obtain ⟨isWanted, fixed⟩ := Option.filter_eq_some_iff.mp isPin
    obtain ⟨latest, middle, found, more⟩ := Action.runIn_bind_eq_ok_iff.mp done
    rw [Action.runIn_bind, Action.runIn_get] at more
    cases more
    exact ⟨.pinned isWanted (by simpa using fixed), by rw [looked, found]⟩
  case h_2 notPinned =>
    obtain ⟨newest, _, required, returned⟩ := Action.runIn_bind_eq_ok_iff.mp done
    cases returned
    obtain ⟨latest, middle, found, more⟩ := Action.runIn_bind_eq_ok_iff.mp required
    split at more
    case h_1 newest isNewest =>
      cases more
      obtain ⟨rfl, inner⟩ := filter_inner_eq_some isNewest
      refine ⟨.latest (fun asked isAsked => ?_) inner (by rw [found]), by rw [looked, found]⟩
      simpa [isAsked, Option.filter] using notPinned
    case h_2 => cases more

end

/-- A runner that is extracted: its kind, its hash and the world when that is done. -/
structure Step where
  kind : String
  hash : String
  world : World

namespace Step

variable (source : Path) (step : Step)

def path : Path := (kindPath step.world source step.kind).child step.hash

def after : World := ((Runner.extract source step.kind step.hash).runIn step.world).2

end Step

/-- The runners that an extraction uses, in their order, and where their hashes come from. -/
structure Course (world : World) (source : Path) (dependencies : List (String × String))
    (runner library : Step) (protobuf embeddings : Option Step) : Prop where
  isRunner : Chosen world source "py-genlayer" (dependencies.lookup "py-genlayer") runner.hash ∧
    runner = ⟨"py-genlayer", runner.hash, looked source "py-genlayer" world⟩
  isLibrary : libraryIn? ((runner.after source).tree.find? (runner.after source).here
        ((runner.path source).child "runner.json")) = some library.hash ∧
    library = ⟨"py-lib-genlayer-std", library.hash, runner.after source⟩
  isProtobuf : ∃ latest,
    ((Runner.findLatest? source "py-lib-protobuf").runIn (library.after source)).1 = .ok latest ∧
    protobuf = (latest.filter fun hash => !hash.isEmpty).map
      (⟨"py-lib-protobuf", ·, looked source "py-lib-protobuf" (library.after source)⟩)
  areEmbeddings : ∃ packed,
    packed = (protobuf.map (Step.after source)).getD
      (looked source "py-lib-protobuf" (library.after source)) ∧
    Option.Rel (fun wanted step =>
        Chosen packed source "py-lib-genlayer-embeddings" (some wanted) step.hash ∧
        step = ⟨"py-lib-genlayer-embeddings", step.hash,
          looked source "py-lib-genlayer-embeddings" packed⟩)
      (dependencies.lookup "py-lib-genlayer-embeddings") embeddings

section

variable {world after : World} {source : Path} {dependencies : List (String × String)}

theorem path_of_extract {path : Path} {kind hash : String}
    (done : (Runner.extract source kind hash).runIn world = (.ok path, after)) :
    path = (⟨kind, hash, world⟩ : Step).path source ∧
      after = (⟨kind, hash, world⟩ : Step).after source :=
  ⟨Runner.extract_returns (congrArg Prod.fst done), by rw [Step.after, done]⟩

theorem protobufPath_ok {found : Option Path}
    (done : (protobufPath? source).runIn world = (.ok found, after)) :
    ∃ latest, ((Runner.findLatest? source "py-lib-protobuf").runIn world).1 = .ok latest ∧
      ∃ step : Option Step, step = (latest.filter fun hash => !hash.isEmpty).map
          (⟨"py-lib-protobuf", ·, looked source "py-lib-protobuf" world⟩) ∧
        found = step.map (Step.path source) ∧
        after = (step.map (Step.after source)).getD (looked source "py-lib-protobuf" world) := by
  obtain ⟨latest, middle, looks, more⟩ := Action.runIn_bind_eq_ok_iff.mp done
  have isMiddle : looked source "py-lib-protobuf" world = middle := by rw [looked, looks]
  refine ⟨latest, by rw [looks], _, rfl, ?_⟩
  rw [isMiddle]
  split at more
  case h_1 hash isHash =>
    obtain ⟨path, _, extracted, returned⟩ := Action.runIn_bind_eq_ok_iff.mp more
    cases returned
    obtain ⟨rfl, rfl⟩ := path_of_extract extracted
    rw [isHash]
    exact ⟨rfl, rfl⟩
  case h_2 isNone =>
    cases more
    rw [isNone]
    exact ⟨rfl, rfl⟩

theorem extract_course {extracted : Extracted}
    (done : (extract source dependencies).runIn world = (.ok extracted, after)) :
    ∃ runner library protobuf embeddings,
      Course world source dependencies runner library protobuf embeddings ∧
      extracted.paths =
        (library :: protobuf.toList ++ embeddings.toList).map (Step.path source) := by
  obtain ⟨runner, note, library, standard, protobuf, asked, named, placed, packed, chooses, names,
    places, packs, _, _, _, rest⟩ := extract_ok done
  obtain ⟨chosen, rfl⟩ := chooseHash_ok chooses
  obtain ⟨directory, extractedRunner, isLibrary⟩ := libraryHash_ok names
  obtain ⟨rfl, rfl⟩ := path_of_extract extractedRunner
  obtain ⟨rfl, rfl⟩ := path_of_extract places
  obtain ⟨latest, looks, step, isStep, rfl, rfl⟩ := protobufPath_ok packs
  have course {embeddings : Option Step} (areEmbeddings) :
      Course world source dependencies ⟨"py-genlayer", runner, looked source "py-genlayer" world⟩
        ⟨"py-lib-genlayer-std", library, _⟩ step embeddings :=
    ⟨⟨chosen, rfl⟩, ⟨isLibrary, rfl⟩, ⟨latest, looks, isStep⟩, _, rfl, areEmbeddings⟩
  rcases rest with ⟨unasked, rfl⟩ |
    ⟨wanted, hash, _, embeddings, asked, isWanted, choosesOther, extractedOther, _, rfl⟩
  · refine ⟨_, _, step, none, course (unasked ▸ .none), ?_⟩
    cases step <;> rfl
  · obtain ⟨chosenOther, isAsked⟩ := chooseHash_ok choosesOther
    obtain ⟨rfl, rfl⟩ := path_of_extract extractedOther
    refine ⟨_, _, step, some ⟨"py-lib-genlayer-embeddings", hash, asked⟩, course ?_, ?_⟩
    · rw [isWanted]
      exact .some ⟨chosenOther, by rw [isAsked]⟩
    · cases step <;> rfl

theorem exists_ok_of_map {α β : Type} {run : Except Failure α × World} {view : α → β} {shown : β}
    (found : run.1.toOption.map view = some shown) :
    ∃ value after, run = (.ok value, after) ∧ view value = shown := by
  obtain ⟨_ | value, after⟩ := run
  · cases found
  · exact ⟨value, after, rfl, Option.some.inj found⟩

theorem looked_settled (source : Path) (kind : String) (world : World) :
    world.Settled (looked source kind world) :=
  Runner.findLatest_settles source kind world

theorem Step.settled (source : Path) (step : Step) : step.world.Settled (step.after source) :=
  Runner.extract_settles source step.kind step.hash step.world

theorem Course.each {runner library : Step} {protobuf embeddings : Option Step}
    (course : Course world source dependencies runner library protobuf embeddings) :
    ∀ step ∈ library :: protobuf.toList ++ embeddings.toList,
      world.Settled step.world ∧ IsName step.kind := by
  obtain ⟨⟨_, isRunner⟩, ⟨_, isLibrary⟩, ⟨latest, _, isProtobuf⟩, packed, isPacked, asked⟩ := course
  have toRunner : world.Settled runner.world := by
    rw [isRunner]
    exact looked_settled _ _ _
  have toLibrary : world.Settled library.world := by
    rw [isLibrary]
    exact toRunner.trans (runner.settled source)
  have toLooked := (toLibrary.trans (library.settled source)).trans
    (looked_settled source "py-lib-protobuf" (library.after source))
  have toProtobuf (step : Step) (isStep : step ∈ protobuf) :
      world.Settled step.world ∧ IsName step.kind := by
    rw [isProtobuf] at isStep
    obtain ⟨hash, _, rfl⟩ := Option.map_eq_some_iff.mp isStep
    exact ⟨toLooked, show IsName "py-lib-protobuf" by decide⟩
  have toPacked : world.Settled packed := by
    rw [isPacked]
    cases protobuf with
    | none => exact toLooked
    | some step => exact (toProtobuf step rfl).1.trans (step.settled source)
  intro step isStep
  simp only [List.mem_append, List.mem_cons, Option.mem_toList] at isStep
  rcases isStep with (rfl | isProtobufStep) | isEmbeddings
  · refine ⟨toLibrary, ?_⟩
    rw [isLibrary]
    exact show IsName "py-lib-genlayer-std" by decide
  · exact toProtobuf step isProtobufStep
  · rw [Option.mem_def.mp isEmbeddings] at asked
    generalize dependencies.lookup "py-lib-genlayer-embeddings" = wanted at asked
    cases asked with
    | some found =>
        rw [found.2]
        exact ⟨toPacked.trans (looked_settled _ _ _),
          show IsName "py-lib-genlayer-embeddings" by decide⟩

end

/-- Runners with tame members stay inside the directories of their kinds exactly if their hashes
lead down. The directories of an SDK are those of its library, of the latest serialisation library
and of the embeddings, and for each of them it is its own hash that counts. -/
theorem extraction_contained_iff (world : World) (source : Path)
    (dependencies : List (String × String)) (hash : String) :
    ((∀ source kind world, Tame source kind hash world → Contained source kind hash world) ↔
      Descends hash) ∧
    ∀ extracted after, (extract source dependencies).runIn world = (.ok extracted, after) →
      ∃ runner library protobuf embeddings,
        Course world source dependencies runner library protobuf embeddings ∧
        extracted.paths =
          (library :: protobuf.toList ++ embeddings.toList).map (Step.path source) ∧
        ∀ step ∈ library :: protobuf.toList ++ embeddings.toList,
          world.Settled step.world ∧
          (Descends step.hash → Inside ((kindPath step.world source step.kind).place world.here)
            ((step.path source).place world.here)) ∧
          (step.kind ∉ (Path.ofText step.hash).parts →
            step.kind ∉ runnersPlace step.world source →
            Inside ((kindPath step.world source step.kind).place world.here)
              ((step.path source).place world.here) → Descends step.hash) := by
  refine ⟨Runner.contained_iff_descends, fun extracted after done => ?_⟩
  obtain ⟨runner, library, protobuf, embeddings, course, paths⟩ := extract_course done
  refine ⟨runner, library, protobuf, embeddings, course, paths, fun step isStep => ?_⟩
  obtain ⟨settled, isKind⟩ := course.each step isStep
  refine ⟨settled, fun descends => descends.inside _ _, fun fresh absent inside => ?_⟩
  rw [runnersPlace, settled.here] at absent
  exact Runner.descends_of_inside isKind fresh absent inside

def installedWorld : World :=
  { tree := ⟨[(["cache"], .directory), (["cache", "extracted"], .directory),
      (["cache", "extracted", "prebuilt"], .directory),
      (["cache", "extracted", "prebuilt", "py-genlayer"], .directory),
      (["cache", "extracted", "prebuilt", "py-genlayer", "ab12"], .directory),
      (["cache", "extracted", "prebuilt", "py-genlayer", "ab12", "runner.json"],
        .file (.ofText "\x7b\"Seq\":[\x7b\"Depends\":\"py-lib-genlayer-std:cd34\"\x7d]\x7d")),
      (["cache", "extracted", "prebuilt", "py-lib-genlayer-std"], .directory),
      (["cache", "extracted", "prebuilt", "py-lib-genlayer-std", "cd34"], .directory),
      (["cache", "extracted", "prebuilt", "py-lib-genlayer-std", "cd34", "src"], .directory)]⟩
    cache := .ofRoot ["cache"] }

theorem extraction_contained_installed :
    (Descends "ab12" ∧
      ∀ source kind world, Tame source kind "ab12" world → Contained source kind "ab12" world) ∧
    ∃ extracted after,
      (extract (.ofRoot []) [("py-genlayer", "ab12")]).runIn installedWorld =
        (.ok extracted, after) ∧
      extracted.paths = [.ofRoot ["cache", "extracted", "prebuilt", "py-lib-genlayer-std", "cd34"]] ∧
      ∃ runner library protobuf embeddings,
        Course installedWorld (.ofRoot []) [("py-genlayer", "ab12")] runner library protobuf
          embeddings ∧
        extracted.paths =
          (library :: protobuf.toList ++ embeddings.toList).map (Step.path (.ofRoot [])) := by
  have contained :=
    extraction_contained_iff installedWorld (.ofRoot []) [("py-genlayer", "ab12")] "ab12"
  refine ⟨⟨by decide, contained.1.mpr (by decide)⟩, ?_⟩
  have found : ((extract (.ofRoot []) [("py-genlayer", "ab12")]).runIn installedWorld).1.toOption.map
      (·.paths) =
        some [.ofRoot ["cache", "extracted", "prebuilt", "py-lib-genlayer-std", "cd34"]] := by
    decide +kernel
  obtain ⟨extracted, after, run, paths⟩ := exists_ok_of_map found
  obtain ⟨runner, library, protobuf, embeddings, course, same, _⟩ := contained.2 extracted after run
  exact ⟨extracted, after, run, paths, runner, library, protobuf, embeddings, course, same⟩

def exposedWorld : World :=
  { tree := ⟨[(["outside"], .directory), (["outside", "kept"], .file (.ofText "y")),
      (["pre"], .directory), (["pre", "runners"], .directory), (["pre", "runners", "k"], .directory),
      (["pre", "runners", "k", "ab"], .directory),
      (["pre", "runners", "k", "ab", "c.tar"],
        .file (.archive false [("f", some (.ofText "x"))]))]⟩
    cache := .ofRoot ["cache"] }

def climbingWorld : World :=
  { tree := ⟨[(["bundle.tar.xz"], .file (.archive true [("runners/k/h1/aa.tar",
      some (.archive false [("../../../made/../bundle.tar/k/h1aa/b", some (.ofText "1"))]))]))]⟩
    cache := .ofRoot ["cache"] }

theorem not_contained_climbing :
    (¬Descends "../../../../outside" ∧
      (exposedWorld.tree.at? ["outside", "kept"]).isSome = true ∧
      (((Runner.extract (.ofRoot ["pre"]) "k" "../../../../outside").runIn
        exposedWorld).2.tree.at? ["outside", "kept"]).isSome = false ∧
      ¬Contained (.ofRoot ["pre"]) "k" "../../../../outside" exposedWorld) ∧
    Descends "h1aa" ∧ ¬Contained (.ofRoot ["bundle.tar.xz"]) "k" "h1aa" climbingWorld := by
  have kept : (exposedWorld.tree.at? ["outside", "kept"]).isSome = true := by decide
  have gone : (((Runner.extract (.ofRoot ["pre"]) "k" "../../../../outside").runIn
      exposedWorld).2.tree.at? ["outside", "kept"]).isSome = false := by
    decide +kernel
  have absent : (climbingWorld.tree.at? ["cache", "extracted", "made"]).isSome = false := by decide
  have made : (((Runner.extract (.ofRoot ["bundle.tar.xz"]) "k" "h1aa").runIn
      climbingWorld).2.tree.at? ["cache", "extracted", "made"]).isSome = true := by
    decide +kernel
  refine ⟨⟨by decide, kept, gone, fun contained => ?_⟩, by decide, fun contained => ?_⟩
  · rcases contained.changed ["outside", "kept"] (fun same => by simp [same, kept] at gone) with
      inside | ⟨_, _, isKept⟩ | ⟨onWay, _, isMade⟩
    · revert inside
      decide
    · simp [isKept] at gone
    · simp [isMade] at gone
  · rcases contained.changed ["cache", "extracted", "made"]
      (fun same => by simp [same, absent] at made) with
      inside | ⟨_, isIndex, _⟩ | ⟨onWay, _, _⟩
    · revert inside
      decide
    · revert isIndex
      decide
    · revert onWay
      decide

end ContractLint.Sdk
