import ContractLint.Proofs.Release.Downloads
import ContractLint.Proofs.Sdk.Directories
import ContractLint.Stubs.Generate

/-! Stubs that are served from the cache. They are looked up by their directory, which is made before
anything is in it, while the version is written into it last. So what is served is complete when it
has just been made, and otherwise exactly if no call before it broke off in between. -/

namespace ContractLint.Stubs

open Files (Content Entry IsName Path Place Tree)

/-- Where the stubs of a version are kept. -/
def stubsAt (world : World) (version : String) : Path := (world.cache.child "stubs").child version

def stubFiles (output : Path) (version : String) : List (Path × String) :=
  let package := output.child "genlayer"
  [((package.child "py").child "types.pyi", typesStub),
    ((package.child "gl").child "__init__.pyi", contractStub),
    (package.child "__init__.pyi", packageStub),
    ((output.child "genlayer_embeddings").child "__init__.pyi", embeddingsStub),
    (output.child "VERSION", version)]

def Holds (world : World) (file : Path × String) : Prop :=
  world.tree.read world.here file.1 = .ok (.ofText file.2)

def Complete (world : World) (output : Path) (version : String) : Prop :=
  ∀ file ∈ stubFiles output version, Holds world file

/-- Something is where the stubs are kept, but it is not all of them. -/
def HalfMade (world : World) (version : String) : Prop :=
  world.tree.has world.here (stubsAt world version) = true ∧
    ¬Complete world (stubsAt world version) version

theorem stubFiles_distinct (output : Path) (version : String) (here : Place) :
    ((stubFiles output version).map (·.1.place here)).Nodup := by
  have places : (stubFiles output version).map (·.1.place here) =
      [["genlayer", "py", "types.pyi"], ["genlayer", "gl", "__init__.pyi"],
        ["genlayer", "__init__.pyi"], ["genlayer_embeddings", "__init__.pyi"], ["VERSION"]].map
        (output.place here ++ ·) := by
    have genlayer : IsName "genlayer" := by decide
    have embeddings : IsName "genlayer_embeddings" := by decide
    have py : IsName "py" := by decide
    have gl : IsName "gl" := by decide
    have types : IsName "types.pyi" := by decide
    have init : IsName "__init__.pyi" := by decide
    have last : IsName "VERSION" := by decide
    simp only [stubFiles, List.map_cons, List.map_nil, Path.place_child_name, genlayer, embeddings,
      py, gl, types, init, last, List.append_assoc, List.cons_append,
      List.nil_append]
  rw [places]
  exact List.Nodup.map (fun _ _ same => List.append_cancel_left same) (by decide)

/-- Files are written one after another, and directories are made in between. -/
inductive Puts : List (Path × String) → World → World → Prop
  | done {world : World} : Puts [] world world
  | making {files : List (Path × String)} {path : Path} {world middle after : World} :
      (Action.makeDirectories path).runIn world = (.ok (), middle) → Puts files middle after →
      Puts files world after
  | writing {files : List (Path × String)} {path : Path} {text : String}
      {world middle after : World} :
      (Action.writeText path text).runIn world = (.ok (), middle) → Puts files middle after →
      Puts ((path, text) :: files) world after

theorem makeDirectories_grows {path : Path} {world after : World}
    (done : (Action.makeDirectories path).runIn world = (.ok (), after)) :
    World.Grows (fun _ => True) (fun _ => False) world after := by
  have growing : Action.Growing world.here world.cache (fun _ => True) (fun _ => False)
      (Action.makeDirectories path) := .makeDirectories fun _ _ => trivial
  simpa only [done] using growing world rfl rfl

theorem writeText_grows {path : Path} {text : String} {world after : World}
    (done : (Action.writeText path text).runIn world = (.ok (), after)) :
    World.Grows (fun _ => True) (· = path.place world.here) world after := by
  have growing : Action.Growing world.here world.cache (fun _ => True) (· = path.place world.here)
      (Action.writeText path text) := by
    rw [Action.writeText]
    exact .write (by rfl) _
  simpa only [done] using growing world rfl rfl

theorem Holds.grown {file : Path × String} {made written : Place → Prop} {world after : World}
    (holds : Holds world file) (grows : World.Grows made written world after)
    (notWritten : ¬written (file.1.place world.here)) : Holds after file := by
  rw [Holds, grows.here]
  exact grows.tree.read notWritten holds

theorem Puts.keeps {files : List (Path × String)} {file : Path × String} {world after : World}
    (puts : Puts files world after)
    (apart : ∀ other ∈ files, file.1.place world.here ≠ other.1.place world.here)
    (holds : Holds world file) : Holds after file := by
  induction puts with
  | done => exact holds
  | making made _ ih =>
      have grows := makeDirectories_grows made
      rw [← grows.here] at apart
      exact ih apart (holds.grown grows id)
  | writing written _ ih =>
      have grows := writeText_grows written
      have kept := holds.grown grows (apart _ List.mem_cons_self)
      rw [← grows.here] at apart
      exact ih (fun other member => apart other (List.mem_cons_of_mem _ member)) kept

theorem Puts.holds {files : List (Path × String)} {world after : World}
    (puts : Puts files world after) (distinct : (files.map (·.1.place world.here)).Nodup) :
    ∀ file ∈ files, Holds after file := by
  induction puts with
  | done => simp
  | making made _ ih =>
      rw [← (makeDirectories_grows made).here] at distinct
      exact ih distinct
  | @writing files path text world middle after written rest ih =>
      have grows := writeText_grows written
      rw [← grows.here, List.map_cons, List.nodup_cons] at distinct
      intro file member
      rcases List.mem_cons.mp member with rfl | later
      · -- Later files go elsewhere, so this one stays as it was written.
        refine rest.keeps (fun other isOther same => distinct.1 ?_) ?_
        · exact List.mem_map.mpr ⟨other, isOther, same.symm⟩
        · obtain ⟨tree, done, rfl⟩ := Action.changeTree_eq_ok written
          exact Tree.read_of_write done
      · exact ih distinct.2 file later

theorem Puts.of_writeStub {files : List (Path × String)} {path : Path} {text : String}
    {world middle after : World}
    (done : (writeStub path text).runIn world = (.ok (), middle)) (rest : Puts files middle after) :
    Puts ((path, text) :: files) world after := by
  obtain ⟨_, made, makes, writes⟩ := Action.runIn_bind_eq_ok_iff.mp done
  exact .making makes (.writing writes rest)

theorem writeStubs_puts {output : Path} {version : String} {world after : World}
    (done : (writeStubs output (.string version)).runIn world = (.ok (), after)) :
    Puts (stubFiles output version) world after := by
  obtain ⟨_, _, makesPackage, done⟩ := Action.runIn_bind_eq_ok_iff.mp done
  obtain ⟨_, _, writesTypes, done⟩ := Action.runIn_bind_eq_ok_iff.mp done
  obtain ⟨_, _, writesContract, done⟩ := Action.runIn_bind_eq_ok_iff.mp done
  obtain ⟨_, _, writesPackage, done⟩ := Action.runIn_bind_eq_ok_iff.mp done
  obtain ⟨_, _, makesEmbeddings, done⟩ := Action.runIn_bind_eq_ok_iff.mp done
  obtain ⟨_, _, writesEmbeddings, writesVersion⟩ := Action.runIn_bind_eq_ok_iff.mp done
  exact .making makesPackage <| .of_writeStub writesTypes <| .of_writeStub writesContract <|
    .writing writesPackage <| .making makesEmbeddings <| .of_writeStub writesEmbeddings <|
    .writing writesVersion .done

theorem writeStubs_complete {output : Path} {version : String} {world after : World}
    (done : (writeStubs output (.string version)).runIn world = (.ok (), after)) :
    Complete after output version :=
  (writeStubs_puts done).holds (stubFiles_distinct _ _ _)

theorem writeText_error {path : Path} {text : String} {world after : World} {failure : Failure}
    (failed : (Action.writeText path text).runIn world = (.error failure, after))
    (content : Content) : after.tree.read after.here path ≠ .ok content := by
  obtain ⟨rfl, fault, refused⟩ := Action.changeTree_eq_error failed
  intro there
  rw [Tree.write_of_read there] at refused
  cases refused

theorem writeStub_error {directory : Path} {name text : String} {world after : World}
    {failure : Failure} (isName : IsName name)
    (failed : (writeStub (directory.child name) text).runIn world = (.error failure, after))
    (content : Content) : after.tree.read after.here (directory.child name) ≠ .ok content := by
  rcases Action.runIn_bind_eq_error_iff.mp failed with unmade | ⟨_, _, _, unwritten⟩
  · intro there
    have missing := Action.makeDirectories_error unmade
    rw [Path.parent_child isName, Tree.hasDirectory_of_read isName there] at missing
    cases missing
  · exact writeText_error unwritten content

theorem hasDirectory_of_holds {directory : Path} {name text : String} {world : World}
    (isName : IsName name) (holds : Holds world (directory.child name, text)) :
    world.tree.hasDirectory world.here directory = true :=
  Tree.hasDirectory_of_read isName holds

theorem writeStubs_error {output : Path} {version : String} {world after : World}
    {failure : Failure}
    (failed : (writeStubs output (.string version)).runIn world = (.error failure, after)) :
    ¬Complete after output version := by
  intro complete
  simp only [Complete, stubFiles, List.forall_mem_cons] at complete
  obtain ⟨types, contract, package, embeddings, last, _⟩ := complete
  -- Each step either makes a directory that one of the files needs or writes one of the files.
  rcases Action.runIn_bind_eq_error_iff.mp failed with failed | ⟨_, _, _, failed⟩
  · have there := hasDirectory_of_holds (by decide) package
    rw [Action.makeDirectories_error failed] at there
    cases there
  rcases Action.runIn_bind_eq_error_iff.mp failed with failed | ⟨_, _, _, failed⟩
  · exact writeStub_error (by decide) failed _ types
  rcases Action.runIn_bind_eq_error_iff.mp failed with failed | ⟨_, _, _, failed⟩
  · exact writeStub_error (by decide) failed _ contract
  rcases Action.runIn_bind_eq_error_iff.mp failed with failed | ⟨_, _, _, failed⟩
  · exact writeText_error failed _ package
  rcases Action.runIn_bind_eq_error_iff.mp failed with failed | ⟨_, _, _, failed⟩
  · have there := hasDirectory_of_holds (by decide) embeddings
    rw [Action.makeDirectories_error failed] at there
    cases there
  rcases Action.runIn_bind_eq_error_iff.mp failed with failed | ⟨_, _, _, failed⟩
  · exact writeStub_error (by decide) failed _ embeddings
  · exact writeText_error failed _ last

theorem runGenerator_settles (modules output : Path) : (runGenerator modules output).Settles := by
  refine .bind (fun world => ⟨rfl, rfl, rfl⟩) fun _ => .bind (fun world => .refl world) fun _ =>
    .bind (.forIn (fun left _ => ?_) _ _) fun _ world => .refl world
  exact .bind (Action.Local.changeTree _).settles fun _ world => .refl world

theorem runGenerator_error {modules output : Path} {world after : World} {failure : Failure}
    (failed : (runGenerator modules output).runIn world = (.error failure, after)) :
    after.tree.hasDirectory after.here output = false := by
  rcases Action.runIn_bind_eq_error_iff.mp failed with failed | ⟨_, _, _, failed⟩
  · cases failed
  rcases Action.runIn_bind_eq_error_iff.mp failed with failed | ⟨_, _, _, failed⟩
  · cases failed
  rcases Action.runIn_bind_eq_error_iff.mp failed with failed | ⟨_, _, _, failed⟩
  · -- Of all that is left behind, only finding the way to the output can fail.
    obtain ⟨left, _, before, failed⟩ := Action.runIn_forIn_error failed
    rcases Action.runIn_bind_eq_error_iff.mp failed with failed | ⟨_, _, _, failed⟩
    · obtain ⟨rfl, fault, refused⟩ := Action.changeTree_eq_error failed
      refine Bool.eq_false_iff.mpr fun there => ?_
      rw [Tree.locate_of_hasDirectory there] at refused
      cases refused
    · cases failed
  · cases failed

theorem writeStub_local (path : Path) (text : String) : (writeStub path text).Local :=
  .bind (.makeAll _ _) fun _ => .changeTree _

theorem writeStubs_settles (output : Path) (version : String) :
    (writeStubs output (.string version)).Settles := by
  refine Action.Local.settles (.bind (.makeAll _ _) fun _ => .bind (writeStub_local _ _) fun _ => ?_)
  refine .bind (writeStub_local _ _) fun _ => .bind (.changeTree _) fun _ => ?_
  exact .bind (.makeAll _ _) fun _ => .bind (writeStub_local _ _) fun _ =>
    .bind (.of_same fun _ => rfl) fun _ => .changeTree _

theorem modulesPath_idle (path : Path) : (Sdk.modulesPath path).Idle := by
  refine .bind (fun _ => rfl) fun there => ?_
  split
  · exact fun _ => rfl
  · exact fun _ => rfl

theorem modulesPath_error {path : Path} {world after : World} {failure : Failure}
    (failed : (Sdk.modulesPath path).runIn world = (.error failure, after)) : False := by
  rcases Action.runIn_bind_eq_error_iff.mp failed with failed | ⟨there, _, _, failed⟩
  · cases failed
  · cases there <;> cases failed

theorem generateIn_settles (output : Path) (version : String) :
    (generateIn output (.string version) Release.silent).Settles := by
  refine .bind (Release.download_settles Release.silent_settles _) fun bundle =>
    .bind (Sdk.extract_settles bundle []) fun extracted => ?_
  split
  · exact fun world => .refl world
  · exact .bind (modulesPath_idle _).settles fun _ => .bind (Action.Local.makeAll _ _).settles
      fun _ => .bind (runGenerator_settles _ _) fun _ => writeStubs_settles output version

theorem extracted_paths {source : Path} {dependencies : List (String × String)}
    {extracted : Sdk.Extracted} {world after : World}
    (done : (Sdk.extract source dependencies).runIn world = (.ok extracted, after)) :
    ∃ library others, extracted.paths = library :: others := by
  obtain ⟨_, _, _, _, _, paths⟩ := Sdk.extract_course done
  exact ⟨_, _, paths⟩

theorem generateIn_complete {output : Path} {version : String} {world after : World}
    (done : (generateIn output (.string version) Release.silent).runIn world = (.ok (), after)) :
    Complete after output version := by
  obtain ⟨_, _, _, done⟩ := Action.runIn_bind_eq_ok_iff.mp done
  obtain ⟨extracted, _, extracts, done⟩ := Action.runIn_bind_eq_ok_iff.mp done
  obtain ⟨library, others, isPaths⟩ := extracted_paths extracts
  simp only [isPaths] at done
  obtain ⟨_, _, _, done⟩ := Action.runIn_bind_eq_ok_iff.mp done
  obtain ⟨_, _, _, done⟩ := Action.runIn_bind_eq_ok_iff.mp done
  obtain ⟨_, _, _, done⟩ := Action.runIn_bind_eq_ok_iff.mp done
  exact writeStubs_complete done

theorem generateIn_error {output bundle : Path} {version : String} {extracted : Sdk.Extracted}
    {world downloaded ready after : World} {failure : Failure}
    (downloads : (Release.download (.string version) Release.silent).runIn world =
      (.ok bundle, downloaded))
    (extracts : (Sdk.extract bundle []).runIn downloaded = (.ok extracted, ready))
    (failed : (generateIn output (.string version) Release.silent).runIn world =
      (.error failure, after)) : ¬Complete after output version := by
  intro complete
  have there : after.tree.hasDirectory after.here output = true := by
    simp only [Complete, stubFiles, List.forall_mem_cons] at complete
    exact hasDirectory_of_holds (by decide) complete.2.2.2.2.1
  obtain ⟨library, others, isPaths⟩ := extracted_paths extracts
  rcases Action.runIn_bind_eq_error_iff.mp failed with failed | ⟨_, _, run, failed⟩
  · cases downloads.symm.trans failed
  cases downloads.symm.trans run
  rcases Action.runIn_bind_eq_error_iff.mp failed with failed | ⟨_, _, run, failed⟩
  · cases extracts.symm.trans failed
  cases extracts.symm.trans run
  simp only [isPaths] at failed
  rcases Action.runIn_bind_eq_error_iff.mp failed with failed | ⟨_, _, _, failed⟩
  · exact modulesPath_error failed
  rcases Action.runIn_bind_eq_error_iff.mp failed with failed | ⟨_, _, _, failed⟩
  · rw [Action.makeDirectories_error failed] at there
    cases there
  rcases Action.runIn_bind_eq_error_iff.mp failed with failed | ⟨_, _, _, failed⟩
  · rw [runGenerator_error failed] at there
    cases there
  · exact writeStubs_error failed complete

theorem generate_of_there {version : String} {world : World}
    (there : world.tree.has world.here (stubsAt world version) = true) :
    (generate (.string version) none Release.silent).runIn world =
      (.ok (stubsAt world version), world) := by
  simp only [stubsAt] at there ⊢
  simp only [generate, stubsPath, stubsDirectory, Action.runIn_bind, Action.runIn_pure,
    Action.runIn_get, Action.has, Action.runIn_ask, there]
  rfl

theorem generate_of_absent {version : String} {world : World}
    (absent : world.tree.has world.here (stubsAt world version) = false) :
    (generate (.string version) none Release.silent).runIn world =
      (generateIn (stubsAt world version) (.string version) Release.silent >>=
        fun _ => pure (stubsAt world version)).runIn world := by
  simp only [stubsAt] at absent ⊢
  simp only [generate, stubsPath, stubsDirectory, Action.runIn_bind, Action.runIn_pure,
    Action.runIn_get, Action.has, Action.runIn_ask, absent, Bool.not_false, if_true]

/-- The library is there, and yet the call fails. -/
def Breaks (version : String) (world after : World) : Prop :=
  ∃ bundle downloaded extracted ready failure,
    (Release.download (.string version) Release.silent).runIn world = (.ok bundle, downloaded) ∧
    (Sdk.extract bundle []).runIn downloaded = (.ok extracted, ready) ∧
    (generate (.string version) none Release.silent).runIn world = (.error failure, after)

theorem stubsAt_settled {version : String} {world after : World} (settled : world.Settled after) :
    stubsAt after version = stubsAt world version := by
  rw [stubsAt, stubsAt, settled.cache]

theorem Breaks.not_complete {version : String} {world after : World}
    (breaks : Breaks version world after) : ¬Complete after (stubsAt after version) version := by
  obtain ⟨bundle, downloaded, extracted, ready, failure, downloads, extracts, failed⟩ := breaks
  cases there : world.tree.has world.here (stubsAt world version) with
  | true =>
      rw [generate_of_there there] at failed
      cases failed
  | false =>
      rw [generate_of_absent there] at failed
      rcases Action.runIn_bind_eq_error_iff.mp failed with failed | ⟨_, _, _, failed⟩
      · have settled := generateIn_settles (stubsAt world version) version world
        rw [failed] at settled
        rw [stubsAt_settled settled]
        exact generateIn_error downloads extracts failed
      · cases failed

/-- Stubs that are served are all there. -/
def ServesWhole (version : String) (call : Except Failure Path × World) : Prop :=
  ∀ path, call.1 = .ok path → path = stubsAt call.2 version ∧ Complete call.2 path version

theorem generate_whole {version : String} {world : World} (sound : ¬HalfMade world version) :
    ServesWhole version ((generate (.string version) none Release.silent).runIn world) := by
  intro path returned
  cases there : world.tree.has world.here (stubsAt world version) with
  | true =>
      rw [generate_of_there there] at returned ⊢
      cases returned
      exact ⟨rfl, not_not.mp fun missing => sound ⟨there, missing⟩⟩
  | false =>
      rw [generate_of_absent there] at returned ⊢
      have settled := generateIn_settles (stubsAt world version) version world
      rw [Action.runIn_bind] at returned ⊢
      rcases run : (generateIn (stubsAt world version) (.string version) Release.silent).runIn world
        with ⟨_ | _, after⟩
      · rw [run] at returned
        cases returned
      · rw [run] at returned settled
        cases returned
        exact ⟨(stubsAt_settled settled).symm, generateIn_complete run⟩

theorem generate_halfMade {version : String} {world : World} (halfMade : HalfMade world version) :
    ¬ServesWhole version ((generate (.string version) none Release.silent).runIn world) := by
  rw [generate_of_there halfMade.1]
  exact fun whole => halfMade.2 (whole _ rfl).2

/-- What servers answer, and what the generator of stubs leaves behind. -/
structure Surroundings where
  replies : List (String × Reply)
  stubsLeft : List (Place × Entry)

def Surroundings.around (surroundings : Surroundings) (world : World) : World :=
  { world with replies := surroundings.replies, stubsLeft := surroundings.stubsLeft }

def serve (version : String) (surroundings : Surroundings) (world : World) :
    Except Failure Path × World :=
  (generate (.string version) none Release.silent).runIn (surroundings.around world)

def serveAll (version : String) : List Surroundings → World → List (Except Failure Path × World)
  | [], _ => []
  | first :: later, world =>
    serve version first world :: serveAll version later (serve version first world).2

theorem halfMade_around {version : String} {world : World} (surroundings : Surroundings) :
    HalfMade (surroundings.around world) version ↔ HalfMade world version := Iff.rfl

theorem forall_serveAll_cons_iff {version : String} {world : World}
    (sound : ¬HalfMade world version) (first second : Surroundings) (later : List Surroundings) :
    (∀ call ∈ serveAll version (first :: second :: later) world, ServesWhole version call) ↔
      ¬HalfMade (serve version first world).2 version ∧
        ∀ call ∈ serveAll version (second :: later) (serve version first world).2,
          ServesWhole version call := by
  have whole : ServesWhole version (serve version first world) :=
    generate_whole ((halfMade_around first).not.mpr sound)
  rw [serveAll, List.forall_mem_cons]
  constructor
  · rintro ⟨_, rest⟩
    refine ⟨fun halfMade => ?_, rest⟩
    exact generate_halfMade ((halfMade_around second).mpr halfMade) (rest _ List.mem_cons_self)
  · rintro ⟨_, rest⟩
    exact ⟨whole, rest⟩

/-- Calls for the stubs of a version serve nothing but whole stubs exactly if none that another one
follows leaves them half made. All those do that break off when the library is there and the
directory has been made. -/
theorem cached_stubs_complete_iff (version : String) {world : World}
    (sound : ¬HalfMade world version) (calls : List Surroundings) :
    ((∀ call ∈ serveAll version calls world, ServesWhole version call) ↔
      ∀ call ∈ (serveAll version calls world).dropLast, ¬HalfMade call.2 version) ∧
    ∀ before after, Breaks version before after →
      after.tree.has after.here (stubsAt after version) = true → HalfMade after version := by
  refine ⟨?_, fun before after breaks there => ⟨there, breaks.not_complete⟩⟩
  induction calls generalizing world with
  | nil => simp [serveAll]
  | cons first later ih =>
      cases later with
      | nil =>
          have whole : ServesWhole version (serve version first world) :=
            generate_whole ((halfMade_around first).not.mpr sound)
          simpa [serveAll] using whole
      | cons second later =>
          have dropped : (serveAll version (first :: second :: later) world).dropLast =
              serve version first world ::
                (serveAll version (second :: later) (serve version first world).2).dropLast :=
            List.dropLast_cons_of_ne_nil (List.cons_ne_nil _ _)
          rw [forall_serveAll_cons_iff sound, dropped, List.forall_mem_cons]
          exact and_congr_right fun stillSound => ih stillSound

def stockedCache (bundle : Files.Place) (source : String) : World where
  tree :=
    let cache := ["W", "cache"]
    let runners := cache ++ ["extracted", source]
    ⟨[(["W"], .directory), (cache, .directory), (cache ++ ["extracted"], .directory),
      (cache ++ bundle.dropLast, .directory), (cache ++ bundle, .file (.ofText "")),
      (cache ++ bundle.dropLast ++ [bundle.getLastD "" ++ ".index-v2.json"],
        .file (.ofText "\x7b\"py-genlayer\":[\"runners/py-genlayer/ab/12.tar\"]\x7d")),
      (runners, .directory), (runners ++ ["py-genlayer"], .directory),
      (runners ++ ["py-genlayer", "ab12"], .directory),
      (runners ++ ["py-genlayer", "ab12", "runner.json"],
        .file (.ofText "\x7b\"Seq\":[\x7b\"Depends\":\"py-lib-genlayer-std:cd34\"\x7d]\x7d")),
      (runners ++ ["py-lib-genlayer-std"], .directory),
      (runners ++ ["py-lib-genlayer-std", "cd34"], .directory),
      (runners ++ ["py-lib-genlayer-std", "cd34", "src"], .directory)]⟩
  here := ["W"]
  cache := .ofRoot ["W", "cache"]

def plainCache : World :=
  stockedCache ["genvm-universal-genlayerlabs-genvm-manager-v1.tar.xz"]
    "genlayerlabs-genvm-manager-v1.tar"

theorem not_halfMade_of_absent {version : String} {world : World}
    (absent : world.tree.has world.here (stubsAt world version) = false) :
    ¬HalfMade world version := by
  rintro ⟨there, _⟩
  rw [absent] at there
  cases there

theorem cached_stubs_complete_twice :
    ¬HalfMade plainCache "v1" ∧
    (∃ path after, serve "v1" ⟨[], []⟩ plainCache = (.ok path, after)) ∧
    ∀ call ∈ serveAll "v1" [⟨[], []⟩, ⟨[], [(["VERSION"], .directory)]⟩] plainCache,
      ServesWhole "v1" call := by
  have sound : ¬HalfMade plainCache "v1" := not_halfMade_of_absent (by decide +kernel)
  have returns : (serve "v1" ⟨[], []⟩ plainCache).1.toOption.isSome = true := by decide +kernel
  rcases run : serve "v1" ⟨[], []⟩ plainCache with ⟨_ | path, after⟩
  · rw [run] at returns
    cases returns
  have whole : ServesWhole "v1" (serve "v1" ⟨[], []⟩ plainCache) := generate_whole sound
  rw [run] at whole
  obtain ⟨isPath, complete⟩ : path = stubsAt after "v1" ∧ Complete after path "v1" := whole path rfl
  subst isPath
  refine ⟨sound, ⟨_, after, rfl⟩, (cached_stubs_complete_iff "v1" sound _).1.mpr ?_⟩
  simp only [serveAll, run, List.dropLast_cons_cons, List.dropLast_singleton,
    List.forall_mem_singleton]
  exact fun halfMade => halfMade.2 complete

def climbingCache : World :=
  stockedCache ["genvm-universal-genlayerlabs-genvm-manager-VERSION", "...tar.xz"] "...tar"

theorem broken_stubs_served :
    ¬HalfMade climbingCache "VERSION/.." ∧
    ∃ failure first path second,
      serve "VERSION/.." ⟨[], []⟩ climbingCache = (.error failure, first) ∧
      serve "VERSION/.." ⟨[], []⟩ first = (.ok path, second) ∧
      ∀ content, second.tree.read second.here (path.child "VERSION") ≠ .ok content := by
  refine ⟨not_halfMade_of_absent (by decide +kernel), ?_⟩
  have facts : let call := serve "VERSION/.." ⟨[], []⟩ climbingCache
      call.1.toOption.isNone = true ∧
        call.2.tree.has call.2.here (stubsAt call.2 "VERSION/..") = true ∧
        (call.2.tree.read call.2.here ((stubsAt call.2 "VERSION/..").child "VERSION")).toOption.isNone
          = true := by
    decide +kernel
  dsimp only at facts
  rcases run : serve "VERSION/.." ⟨[], []⟩ climbingCache with ⟨failure | _, first⟩
  · rw [run] at facts
    obtain ⟨_, there, missing⟩ := facts
    refine ⟨failure, first, _, _, rfl, generate_of_there there, fun content found => ?_⟩
    change (first.tree.read first.here _).toOption.isNone = true at missing
    change first.tree.read first.here _ = .ok content at found
    cases missing.symm.trans (congrArg (·.toOption.isNone) found)
  · rw [run] at facts
    cases facts.1

end ContractLint.Stubs
