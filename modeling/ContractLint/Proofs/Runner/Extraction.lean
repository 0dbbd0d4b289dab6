import ContractLint.Proofs.Release.Bundles
import ContractLint.Runner.Extract

/-! What an extraction does, phase by phase. It makes the directory of the runner, reads the members
and writes them, and takes the directory away again when that fails. Up to then the tree only
grows. -/

namespace ContractLint.Runner

open Files (Content Members Path Place Tree)

variable {here : Place} {cache directory source : Path} {made written : Place → Prop}

theorem orNotArchive_treeless {α : Type} (result : Except String α) :
    (orNotArchive result).Treeless := by
  cases result with
  | ok value => exact .pure value
  | error problem => exact .throw _

theorem textOf_treeless (content : Content) : (Action.textOf content).Treeless := by
  rw [Action.textOf]
  split
  · exact .pure _
  · exact .throw _

theorem read_growing (path : Path) : (Action.read path).Growing here cache made written := .onTree _

theorem scanBundle_growing (source : Path) :
    (scanBundle source).Growing here cache made written :=
  .bind (read_growing _) fun _ content _ _ _ =>
    .bind (orNotArchive_treeless content.packedMembers).growing fun _ _ _ _ _ => .pure _

theorem bundleIndex_growing (isWritten : written ((indexPath source).place here)) :
    (bundleIndex source).Growing here cache made written := by
  refine .bind (.ask _) fun _ isKept _ _ _ => ?_
  split
  · refine .bind (.bind (read_growing _) fun _ content _ _ _ =>
      (textOf_treeless content).growing) fun _ text _ _ _ => ?_
    exact (Release.parseJson_treeless text).growing
  · refine .bind (scanBundle_growing source) fun _ index _ _ _ => ?_
    exact .bind (.write isWritten _) fun _ _ _ _ _ => .pure _

theorem indexOf_growing (isWritten : written ((indexPath source).place here)) :
    (indexOf source).Growing here cache made written := by
  refine .bind (.ask _) fun _ isDirectory _ _ _ => ?_
  split
  · exact .onTree _
  · exact bundleIndex_growing isWritten

theorem runnerNamed_growing (source : Path) (name : String) :
    (Action.hasDirectory source >>= fun isDirectory =>
      if isDirectory then runnerInTree source name
      else runnerInBundle source name).Growing here cache made written := by
  refine .bind (.ask _) fun _ isDirectory _ _ _ => ?_
  split
  · exact .bind (read_growing _) fun _ content _ _ _ => (orNotArchive_treeless _).growing
  · refine .bind (read_growing _) fun _ content _ _ _ => ?_
    refine .bind (orNotArchive_treeless _).growing fun _ members _ _ _ => ?_
    split
    · exact .throw _
    · exact .throw _
    · exact (orNotArchive_treeless _).growing

theorem place_memberPath (directory : Path) (name : String) (here : Place) :
    (memberPath directory name).place here =
      Files.lead (directory.place here) (memberParts name) := by
  rw [memberPath, Path.join, Path.place, Path.place, ← Files.lead_append]
  rfl

theorem onWay_memberPath {name : String} {place : Place}
    (onWay : (memberPath directory name).OnWay here place) :
    directory.OnWay here place ∨
      ∃ way, way <+: memberParts name ∧ place = Files.lead (directory.place here) way := by
  obtain ⟨way, isWay, rfl⟩ := onWay
  change way <+: directory.parts ++ memberParts name at isWay
  rcases List.prefix_or_prefix_of_prefix isWay (List.prefix_append _ _) with above | ⟨rest, rfl⟩
  · exact .inl ⟨way, above, rfl⟩
  · exact .inr ⟨rest, (List.prefix_append_right_inj _).mp isWay, Files.lead_append _ _ _⟩

theorem writeMember_growing (name : String) (content : Option Content)
    (isMade : directory.place here <+: (memberPath directory name).place here →
      ∀ place, (memberPath directory name).OnWay here place → made place)
    (isWritten : directory.place here <+: (memberPath directory name).place here →
      written ((memberPath directory name).place here)) :
    (writeMember directory name content).Growing here cache made written := by
  refine .bind (.onTree _) fun world place sameHere _ located => ?_
  dsimp only
  split
  case isFalse => exact .throw _
  case isTrue inside =>
    obtain ⟨rfl, _⟩ := Tree.locate_eq_ok_iff.mp (Action.onTree_eq_ok located)
    rw [sameHere, List.isPrefixOf_iff_prefix, ← place_memberPath] at inside
    have ways (way : List String) (isWay : way <+: (memberPath directory name).parts) :
        made ((⟨(memberPath directory name).slashes, way⟩ : Path).place here) :=
      isMade inside _ ⟨way, isWay, rfl⟩
    refine .bind (.makeParents ways) fun _ _ _ _ _ => ?_
    cases content with
    | none => exact .makeUnlessThere (ways _ List.prefix_rfl)
    | some content => exact .write (isWritten inside) content

theorem writeMembers_growing (members : Members)
    (isMade : ∀ member ∈ members,
      directory.place here <+: (memberPath directory member.1).place here →
      ∀ place, (memberPath directory member.1).OnWay here place → made place)
    (isWritten : ∀ place, directory.place here <+: place → written place) :
    (writeMembers directory members).Growing here cache made written := by
  induction members with
  | nil => exact .pure _
  | cons member rest ih =>
      refine .bind (writeMember_growing member.1 member.2 ?_ ?_) fun _ _ _ _ _ => ?_
      · exact isMade member List.mem_cons_self
      · exact isWritten _
      · exact ih fun other isOther => isMade other (List.mem_cons_of_mem _ isOther)

/-- A place on the way of a member of the runner that is read. The member is not refused. -/
def OnMemberWay (source directory : Path) (kind hash : String) (reading : World) (place : Place) :
    Prop :=
  ∃ members, ((runnerMembers source kind hash).runIn reading).1 = .ok members ∧
    ∃ member ∈ members,
      directory.place reading.here <+: (memberPath directory member.1).place reading.here ∧
      (memberPath directory member.1).OnWay reading.here place

def IsIndex (source : Path) (world : World) (place : Place) : Prop :=
  world.tree.hasDirectory world.here source = false ∧ place = (indexPath source).place world.here

theorem indexOf_grows (made : Place → Prop) (source : Path) (world : World) :
    World.Grows made (IsIndex source world) world ((indexOf source).runIn world).2 := by
  cases isTree : world.tree.hasDirectory world.here source with
  | true =>
      simp only [indexOf, Action.hasDirectory, Action.runIn_bind, Action.runIn_ask, isTree, if_true,
        Action.runIn_onTree]
      exact .refl world
  | false => exact indexOf_growing ⟨isTree, rfl⟩ world rfl rfl

theorem lookUp_grows {α : Type} (lookUp : Json.Value → Except Json.Mismatch α)
    (made : Place → Prop) (source : Path) (world : World) :
    World.Grows made (IsIndex source world) world
      ((indexOf source >>= fun index => Action.attempt (lookUp index)).runIn world).2 := by
  have looks := indexOf_grows made source world
  rw [Action.runIn_bind]
  rcases run : (indexOf source).runIn world with ⟨failure | index, middle⟩ <;> rw [run] at looks
  · exact looks
  · exact looks.trans ((Release.attempt_treeless _).growing middle rfl rfl)

theorem findPath_grows (made : Place → Prop) (source : Path) (kind hash : String) (world : World) :
    World.Grows made (IsIndex source world) world ((findPath source kind hash).runIn world).2 :=
  lookUp_grows (pathByIndex · kind hash) made source world

theorem findLatest_grows (made : Place → Prop) (source : Path) (kind : String) (world : World) :
    World.Grows made (IsIndex source world) world ((findLatest? source kind).runIn world).2 :=
  lookUp_grows (latestByIndex? · kind) made source world

theorem runnerMembers_grows (made : Place → Prop) (source : Path) (kind hash : String)
    (world : World) : World.Grows made (IsIndex source world) world
      ((runnerMembers source kind hash).runIn world).2 := by
  have looks := findPath_grows made source kind hash world
  rw [runnerMembers, Action.runIn_bind]
  rcases run : (findPath source kind hash).runIn world with ⟨failure | name, middle⟩ <;>
    rw [run] at looks
  · exact looks
  · exact looks.trans (runnerNamed_growing source name middle looks.here looks.cache)

theorem extractInto_grows (source directory : Path) (kind hash : String) (world : World) :
    World.Grows (OnMemberWay source directory kind hash world)
      (fun place => IsIndex source world place ∨ directory.place world.here <+: place)
      world ((extractInto source directory kind hash).runIn world).2 := by
  have reads : World.Grows (OnMemberWay source directory kind hash world)
      (fun place => IsIndex source world place ∨ directory.place world.here <+: place)
      world ((runnerMembers source kind hash).runIn world).2 :=
    (runnerMembers_grows _ source kind hash world).mono (fun _ => id) fun _ => .inl
  rw [extractInto, Action.runIn_bind]
  rcases run : (runnerMembers source kind hash).runIn world with ⟨failure | members, middle⟩ <;>
    rw [run] at reads
  · exact reads
  · refine reads.trans (writeMembers_growing members ?_ ?_ middle reads.here reads.cache)
    · exact fun member isMember inside place onWay =>
        ⟨members, by rw [run], member, isMember, inside, onWay⟩
    · exact fun place below => .inr below

section

variable {world : World}

theorem isFilled_same (directory : Path) (world : World) :
    ((isFilled directory).runIn world).2 = world := by
  simp only [isFilled, Action.has, Action.runIn_bind, Action.runIn_ask]
  split
  · simp
  · rfl

theorem isFilled_of_directory (there : world.tree.hasDirectory world.here directory = true) :
    (isFilled directory).runIn world =
      (.ok !(world.tree.children (directory.place world.here)).isEmpty, world) := by
  have found := Tree.hasDirectory_iff_find?.mp there
  have isDirectory := (Tree.find?_eq_some_iff.mp found).1
  simp only [isFilled, Action.has, Tree.has, found, Action.runIn_bind, Action.runIn_ask,
    Option.isSome_some, if_true, Action.runIn_onTree, Tree.locate_of_hasDirectory there]
  simp only [bind, Except.bind, isDirectory]
  rfl

theorem directory_of_isFilled (filled : ((isFilled directory).runIn world).1 = .ok true) :
    world.tree.hasDirectory world.here directory = true := by
  simp only [isFilled, Action.has, Action.runIn_bind, Action.runIn_ask] at filled
  split at filled
  case isFalse => cases filled
  case isTrue there =>
    obtain ⟨entry, found⟩ := Option.isSome_iff_exists.mp there
    obtain ⟨isThere, ways⟩ := Tree.find?_eq_some_iff.mp found
    have used := Action.onTree_eq_ok filled
    rw [Tree.locate_eq_ok_iff.mpr ⟨rfl, ways⟩] at used
    simp only [bind, Except.bind, isThere] at used
    cases entry with
    | directory => exact Tree.hasDirectory_iff_find?.mpr found
    | file content => cases used

theorem removeTree_cleared (there : world.tree.hasDirectory world.here directory = true) :
    world.Settled ((Action.removeTree directory).runIn world).2 ∧
      world.tree.Cleared (directory.place world.here)
        ((Action.removeTree directory).runIn world).2.tree := by
  have clears : world.tree.clearDirectory world.here directory =
      .ok (world.tree.clear (directory.place world.here)) := by
    rw [Tree.clearDirectory, Tree.locateDirectory_of_hasDirectory there]
    rfl
  simp only [Action.removeTree, Action.runIn_bind, Action.runIn_changeTree, clears]
  cases found : (world.tree.clear (directory.place world.here)).locateDirectory world.here
      directory with
  | error fault =>
      simp only [Tree.removeDirectory, found, bind, Except.bind]
      exact ⟨⟨rfl, rfl, rfl⟩, Tree.clear_cleared _ _⟩
  | ok place =>
      obtain rfl := Tree.locateDirectory_eq_ok found
      simp only [Tree.removeDirectory, found, bind, Except.bind]
      exact ⟨⟨rfl, rfl, rfl⟩, Tree.remove_cleared _ _⟩

theorem extractOrRemove_run (there : world.tree.hasDirectory world.here directory = true)
    (source : Path) (kind hash : String) :
    match (extractInto source directory kind hash).runIn world with
    | (.ok (), grown) =>
        (extractOrRemove source directory kind hash).runIn world = (.ok directory, grown)
    | (.error _, grown) => ∃ failure, (extractOrRemove source directory kind hash).runIn world =
        (.error failure, ((Action.removeTree directory).runIn grown).2) := by
  have grows := extractInto_grows source directory kind hash world
  rcases run : (extractInto source directory kind hash).runIn world with ⟨failure | _, grown⟩
  · rw [run] at grows
    have found := Tree.hasDirectory_iff_find?.mp (grows.tree.hasDirectory there)
    have has : grown.tree.has grown.here directory = true := by
      rw [show grown.here = world.here from grows.here, Tree.has, found]
      rfl
    simp only [extractOrRemove, Action.runIn_bind, Action.runIn_outcome, run, Action.has,
      Action.runIn_ask]
    rw [if_pos has, Action.runIn_bind]
    rcases (Action.removeTree directory).runIn grown with ⟨other | _, after⟩
    · exact ⟨other, rfl⟩
    · exact ⟨failure, rfl⟩
  · simp only [extractOrRemove, Action.runIn_bind, Action.runIn_outcome, run]
    rfl

theorem child_rooted {path : Path} (rooted : path.isAbsolute = true ∨ path.parts ≠ [])
    (name : String) : (path.child name).isAbsolute = true ∨ (path.child name).parts ≠ [] := by
  rw [Path.child, Path.join]
  split
  · exact .inl ‹_›
  · exact rooted.imp id fun inner => by simp [inner]

theorem runnerDirectory_rooted (cache : Path) (name kind hash : String) :
    (runnerDirectory cache name kind hash).isAbsolute = true ∨
      (runnerDirectory cache name kind hash).parts ≠ [] := by
  refine child_rooted (child_rooted (child_rooted (.inr ?_) name) kind) hash
  rw [Path.child_name (by decide)]
  simp

theorem hasDirectory_of_made {after : World}
    (rooted : directory.isAbsolute = true ∨ directory.parts ≠ [])
    (made : (Action.makeDirectories directory).runIn world = (.ok (), after)) :
    after.tree.hasDirectory world.here directory = true := by
  by_cases inner : directory.parts = []
  · refine Tree.hasDirectory_iff.mpr fun way isWay => ?_
    have absolute := rooted.resolve_right fun different => different inner
    rw [inner] at isWay
    rw [List.prefix_nil.mp isWay, Path.start, if_pos absolute]
    rfl
  · exact Action.makeDirectories_ok made inner

theorem fill_run (rooted : directory.isAbsolute = true ∨ directory.parts ≠ [])
    (source : Path) (kind hash : String) (world : World) :
    ∃ before, World.Grows (directory.OnWay world.here) (fun _ => False) world before ∧
      ((∃ failure, (fill source directory kind hash).runIn world = (.error failure, before)) ∨
        ((isFilled directory).runIn world).1 = .ok true ∧ before = world ∧
          (fill source directory kind hash).runIn world = (.ok directory, world) ∨
        ((isFilled directory).runIn world).1 = .ok false ∧
          before.tree.hasDirectory world.here directory = true ∧
          (fill source directory kind hash).runIn world =
            (extractOrRemove source directory kind hash).runIn before) := by
  rcases asked : (isFilled directory).runIn world with ⟨failure | filled, after⟩ <;>
    obtain rfl : world = after := by rw [← isFilled_same directory world, asked]
  · refine ⟨_, .refl _, .inl ⟨failure, ?_⟩⟩
    simp only [fill, Action.runIn_bind, asked]
  cases filled with
  | true =>
      refine ⟨_, .refl _, .inr (.inl ⟨rfl, rfl, ?_⟩)⟩
      simp only [fill, Action.runIn_bind, asked]
      rfl
  | false =>
      have growing : (Action.makeDirectories directory).Growing world.here world.cache
          (directory.OnWay world.here) (fun _ => False) :=
        .makeDirectories fun way isWay => ⟨way, isWay, rfl⟩
      have grows := growing world rfl rfl
      rcases made : (Action.makeDirectories directory).runIn world with ⟨failure | _, before⟩ <;>
        rw [made] at grows
      · refine ⟨before, grows, .inl ⟨failure, ?_⟩⟩
        simp only [fill, Action.runIn_bind, asked, Bool.false_eq_true, if_false, made]
      · refine ⟨before, grows, .inr (.inr ⟨rfl, hasDirectory_of_made rooted made, ?_⟩)⟩
        simp only [fill, Action.runIn_bind, asked, Bool.false_eq_true, if_false, made]

theorem extract_run (source : Path) (kind hash : String) (world : World) :
    ∃ asked, World.Grows (world.cache.OnWay world.here) (fun _ => False) world asked ∧
      ((∃ failure, (extract source kind hash).runIn world = (.error failure, asked)) ∨
        (extract source kind hash).runIn world =
          (fill source (runnerDirectory world.cache
            (sourceName source (world.tree.hasDirectory world.here source)) kind hash) kind
            hash).runIn asked) := by
  have grows := Release.cacheDirectory_growing world.here world.cache (fun _ => False) world rfl rfl
  rcases made : Release.cacheDirectory.runIn world with ⟨failure | path, asked⟩ <;>
    rw [made] at grows <;> refine ⟨asked, grows, ?_⟩
  · refine .inl ⟨failure, ?_⟩
    simp only [extract, Action.runIn_bind, Action.hasDirectory, Action.runIn_ask, made]
  · obtain rfl := Release.cacheDirectory_ok made
    refine .inr ?_
    simp only [extract, Action.runIn_bind, Action.hasDirectory, Action.runIn_ask, made]

def runnersPath (world : World) (source : Path) : Path :=
  (world.cache.child "extracted").child
    (sourceName source (world.tree.hasDirectory world.here source))

def runnersPlace (world : World) (source : Path) : Place :=
  (runnersPath world source).place world.here

def kindPath (world : World) (source : Path) (kind : String) : Path :=
  kindDirectory world.cache (sourceName source (world.tree.hasDirectory world.here source)) kind

def Passed (world : World) (directory : Path) (place : Place) : Prop :=
  world.cache.OnWay world.here place ∨ directory.OnWay world.here place

/-- How an extraction ends: it stops while directories are made, finds something in the directory
of the runner, writes the runner, or undoes that. -/
inductive Ending (source directory : Path) (kind hash : String) (world : World) :
    Except Failure Path → World → Prop
  | stopped {reading : World} (failure : Failure)
      (grows : World.Grows (Passed world directory) (fun _ => False) world reading) :
      Ending source directory kind hash world (.error failure) reading
  | found {asked : World}
      (grows : World.Grows (Passed world directory) (fun _ => False) world asked)
      (filled : ((isFilled directory).runIn asked).1 = .ok true) :
      Ending source directory kind hash world (.ok directory) asked
  | written {asked reading grown : World}
      (asks : World.Grows (Passed world directory) (fun _ => False) world asked)
      (vacant : ((isFilled directory).runIn asked).1 = .ok false)
      (grows : World.Grows (Passed world directory) (fun _ => False) asked reading)
      (there : reading.tree.hasDirectory world.here directory = true)
      (run : (extractInto source directory kind hash).runIn reading = (.ok (), grown)) :
      Ending source directory kind hash world (.ok directory) grown
  | undone {reading grown after : World} (problem failure : Failure)
      (grows : World.Grows (Passed world directory) (fun _ => False) world reading)
      (there : reading.tree.hasDirectory world.here directory = true)
      (run : (extractInto source directory kind hash).runIn reading = (.error problem, grown))
      (settled : grown.Settled after)
      (cleared : grown.tree.Cleared (directory.place world.here) after.tree) :
      Ending source directory kind hash world (.error failure) after

theorem extract_ending {source : Path} {kind hash : String} {result : Except Failure Path}
    {after : World} (run : (extract source kind hash).runIn world = (result, after)) :
    Ending source ((kindPath world source kind).child hash) kind hash world result after := by
  obtain ⟨asked, asks, ⟨failure, failed⟩ | fills⟩ := extract_run source kind hash world
  · cases failed.symm.trans run
    exact .stopped failure (asks.mono (fun _ => .inl) fun _ => id)
  rw [show runnerDirectory _ _ kind hash = (kindPath world source kind).child hash from rfl] at fills
  obtain ⟨reading, more, outcome⟩ :=
    fill_run (runnerDirectory_rooted _ _ kind hash) source kind hash asked
  replace asks : World.Grows (Passed world ((kindPath world source kind).child hash))
    (fun _ => False) world asked := asks.mono (fun _ => .inl) fun _ => id
  replace more : World.Grows (Passed world ((kindPath world source kind).child hash))
    (fun _ => False) asked reading := more.mono (fun _ onWay => .inr (asks.here ▸ onWay)) fun _ => id
  rcases outcome with ⟨failure, failed⟩ | ⟨filled, rfl, done⟩ | ⟨vacant, there, extracts⟩
  · cases (fills.trans failed).symm.trans run
    exact .stopped failure (asks.trans more)
  · cases (fills.trans done).symm.trans run
    exact .found asks filled
  have reads := asks.trans more
  rw [show runnerDirectory _ _ kind hash = (kindPath world source kind).child hash from rfl,
    asks.here] at there
  have extracted := extractOrRemove_run (by rwa [reads.here]) source kind hash
  have grows := extractInto_grows source ((kindPath world source kind).child hash) kind hash reading
  split at extracted
  case h_1 grown done =>
    cases (fills.trans (extracts.trans extracted)).symm.trans run
    exact .written asks vacant more there done
  case h_2 problem grown failed =>
    obtain ⟨failure, removed⟩ := extracted
    cases (fills.trans (extracts.trans removed)).symm.trans run
    rw [failed] at grows
    have sameHere : grown.here = world.here := grows.here.trans reads.here
    obtain ⟨settled, cleared⟩ := removeTree_cleared (by
      rw [sameHere]
      exact grows.tree.hasDirectory there)
    rw [sameHere] at cleared
    exact .undone problem failure reads there failed settled cleared

end

end ContractLint.Runner
