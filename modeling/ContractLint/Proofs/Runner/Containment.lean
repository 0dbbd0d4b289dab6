import Mathlib.Algebra.Order.BigOperators.Group.List
import Mathlib.Algebra.Order.Ring.Nat
import ContractLint.Proofs.Runner.Extraction

/-! Where runners are extracted to. The directory of a runner is inside that of its kind, whatever
the world is like, exactly if its hash leads down and never up again above where it starts. -/

namespace ContractLint.Runner

open Files (Content Inside Members Path Place Tree lead step)

def deeper? (depth : Nat) (part : String) : Option Nat :=
  if part = ".." then if depth = 0 then none else some (depth - 1)
  else some (if part = "." then depth else depth + 1)

/-- How deep parts lead, seen from a depth, unless they lead above on their way. -/
def depth? (depth : Nat) (parts : List String) : Option Nat := parts.foldlM deeper? depth

/-- The hash leads below where it starts, and nowhere else on its way. -/
def Descends (hash : String) : Prop :=
  (Path.ofText hash).isAbsolute = false ∧
    ∃ depth, depth? 0 (Path.ofText hash).parts = some (depth + 1)

theorem descends_iff {hash : String} : Descends hash ↔ (Path.ofText hash).isAbsolute = false ∧
    (depth? 0 (Path.ofText hash).parts).any (0 < ·) = true := by
  rw [Descends]
  rcases depth? 0 (Path.ofText hash).parts with _ | _ | depth <;> simp

instance (hash : String) : Decidable (Descends hash) := decidable_of_iff' _ descends_iff

theorem depth?_append (depth : Nat) (first second : List String) :
    depth? depth (first ++ second) = (depth? depth first).bind (depth? · second) :=
  List.foldlM_append

theorem step_of_deeper {area below : Place} {part : String} {depth : Nat}
    (counted : deeper? below.length part = some depth) :
    ∃ rest, step (area ++ below) part = area ++ rest ∧ rest.length = depth := by
  rw [deeper?] at counted
  split at counted
  case isTrue up =>
    split at counted
    case isTrue => cases counted
    case isFalse inner =>
      cases counted
      have notNil : below ≠ [] := fun nil => inner (by rw [nil]; rfl)
      exact ⟨below.dropLast, by simp [step, up, notNil], List.length_dropLast⟩
  case isFalse notUp =>
    by_cases stay : part = "."
    · exact ⟨below, by simp [step, stay], by simpa [stay] using counted⟩
    · exact ⟨below ++ [part], by simp [Files.step_down notUp stay], by simpa [stay] using counted⟩

theorem lead_of_depth {area below : Place} {parts : List String} {depth : Nat}
    (counted : depth? below.length parts = some depth) :
    ∃ rest, lead (area ++ below) parts = area ++ rest ∧ rest.length = depth := by
  induction parts generalizing below with
  | nil =>
      cases counted
      exact ⟨below, rfl, rfl⟩
  | cons part parts ih =>
      rw [depth?, List.foldlM_cons] at counted
      obtain ⟨next, first, more⟩ := Option.bind_eq_some_iff.mp counted
      obtain ⟨rest, same, rfl⟩ := step_of_deeper first
      rw [Files.lead_cons, same]
      exact ih more

theorem lead_of_depth_from {parts : List String} {depth : Nat} (area : Place)
    (counted : depth? 0 parts = some depth) :
    ∃ rest, lead area parts = area ++ rest ∧ rest.length = depth := by
  obtain ⟨rest, same, length⟩ : ∃ rest, lead (area ++ []) parts = area ++ rest ∧
    rest.length = depth := lead_of_depth counted
  rw [List.append_nil] at same
  exact ⟨rest, same, length⟩

theorem below_of_depth {parts way : List String} {depth : Nat} (counted : depth? 0 parts = some depth)
    (isWay : way <+: parts) (area : Place) : area <+: lead area way := by
  obtain ⟨more, rfl⟩ := isWay
  rw [depth?_append] at counted
  obtain ⟨first, isFirst, _⟩ := Option.bind_eq_some_iff.mp counted
  obtain ⟨rest, same, _⟩ := lead_of_depth_from area isFirst
  exact ⟨rest, same.symm⟩

theorem notMem_lead {name : String} {place : Place} {parts : List String} (absent : name ∉ place)
    (fresh : name ∉ parts) : name ∉ lead place parts := by
  induction parts generalizing place with
  | nil => exact absent
  | cons part parts ih =>
      simp only [List.mem_cons, not_or] at fresh
      refine ih ?_ fresh.2
      rw [step]
      split
      · exact fun member => absent (List.dropLast_subset _ member)
      · split
        · exact absent
        · simp [absent, fresh.1]

theorem notMem_lead_of_above {name : String} {place below : Place} {parts : List String}
    (absent : name ∉ place) (fresh : name ∉ parts) (above : depth? below.length parts = none) :
    name ∉ lead (place ++ [name] ++ below) parts := by
  induction parts generalizing below with
  | nil => cases above
  | cons part parts ih =>
      simp only [List.mem_cons, not_or] at fresh
      rw [depth?, List.foldlM_cons] at above
      rw [Files.lead_cons]
      cases counted : deeper? below.length part with
      | some next =>
          obtain ⟨rest, same, rfl⟩ :
              ∃ rest, step (place ++ [name] ++ below) part = place ++ [name] ++ rest ∧
                rest.length = next := step_of_deeper counted
          rw [counted] at above
          rw [same]
          exact ih fresh.2 above
      | none =>
          have up : part = ".." ∧ below = [] := by
            rw [deeper?] at counted
            split at counted
            · split at counted
              · exact ⟨‹_›, List.length_eq_zero_iff.mp ‹_›⟩
              · cases counted
            · cases counted
          rw [up.1, up.2]
          simpa [step] using notMem_lead absent fresh.2

section

variable {hash : String} (path : Path) (here : Place)

theorem child_of_relative (relative : (Path.ofText hash).isAbsolute = false) :
    path.child hash = ⟨path.slashes, path.parts ++ (Path.ofText hash).parts⟩ := by
  rw [Path.child, Path.join, relative]
  rfl

theorem place_child_of_relative (relative : (Path.ofText hash).isAbsolute = false) :
    (path.child hash).place here = lead (path.place here) (Path.ofText hash).parts := by
  rw [child_of_relative path relative, Path.place, Path.place, Files.lead_append]
  rfl

theorem Descends.inside (descends : Descends hash) :
    Inside (path.place here) ((path.child hash).place here) := by
  obtain ⟨relative, depth, counted⟩ := descends
  rw [place_child_of_relative path here relative]
  obtain ⟨rest, same, isLong⟩ := lead_of_depth_from (path.place here) counted
  refine ⟨⟨rest, same.symm⟩, fun equal => ?_⟩
  rw [same, List.append_right_eq_self] at equal
  simp [equal] at isLong

theorem Descends.onWay (descends : Descends hash) {place : Place}
    (onWay : (path.child hash).OnWay here place) :
    path.OnWay here place ∨ Inside (path.place here) place := by
  obtain ⟨way, isWay, rfl⟩ := onWay
  rw [child_of_relative path descends.1] at isWay ⊢
  rcases List.prefix_or_prefix_of_prefix isWay (List.prefix_append _ _) with above | ⟨rest, rfl⟩
  · exact .inl ⟨way, above, rfl⟩
  · obtain ⟨_, depth, counted⟩ := descends
    have below := below_of_depth counted ((List.prefix_append_right_inj _).mp isWay)
      (path.place here)
    have same : lead (path.start here) (path.parts ++ rest) = lead (path.place here) rest :=
      Files.lead_append _ _ _
    change path.OnWay here (lead (path.start here) (path.parts ++ rest)) ∨
      Inside _ (lead (path.start here) (path.parts ++ rest))
    rw [same]
    by_cases atEnd : lead (path.place here) rest = path.place here
    · exact .inl ⟨path.parts, List.prefix_rfl, atEnd⟩
    · exact .inr ⟨below, atEnd⟩

theorem Descends.above_member {member : String} {way : List String} (descends : Descends hash)
    (tame : depth? 0 ((Path.ofText hash).parts ++ memberParts member) ≠ none)
    (isWay : way <+: memberParts member) :
    path.place here <+: lead ((path.child hash).place here) way := by
  obtain ⟨depth, counted⟩ := Option.ne_none_iff_exists'.mp tame
  have above := below_of_depth counted ((List.prefix_append_right_inj _).mpr isWay)
    (path.place here)
  rwa [Files.lead_append, ← place_child_of_relative path here descends.1] at above

end

theorem extract_outcome {source : Path} {kind hash : String} {world after : World}
    {result : Except Failure Path} (run : (extract source kind hash).runIn world = (result, after)) :
    ∃ reading grown,
      World.Grows (Passed world ((kindPath world source kind).child hash)) (fun _ => False) world
        reading ∧
      World.Grows (OnMemberWay source ((kindPath world source kind).child hash) kind hash reading)
        (fun place => place = (indexPath source).place world.here ∨
          ((kindPath world source kind).child hash).place world.here <+: place) reading grown ∧
      grown.Settled after ∧
      ∀ place, ¬((kindPath world source kind).child hash).place world.here <+: place →
        after.tree.at? place = grown.tree.at? place := by
  have extracts (reading : World)
      (reads : World.Grows (Passed world ((kindPath world source kind).child hash))
        (fun _ => False) world reading) :
      World.Grows (OnMemberWay source ((kindPath world source kind).child hash) kind hash reading)
        (fun place => place = (indexPath source).place world.here ∨
          ((kindPath world source kind).child hash).place world.here <+: place) reading
        ((extractInto source ((kindPath world source kind).child hash) kind hash).runIn
          reading).2 := by
    rw [← reads.here]
    exact (extractInto_grows _ _ kind hash reading).mono (fun _ => id) fun _ => .imp_left And.right
  cases extract_ending run with
  | stopped failure grows => exact ⟨_, _, grows, .refl _, .refl _, fun _ _ => rfl⟩
  | found grows filled => exact ⟨_, _, grows, .refl _, .refl _, fun _ _ => rfl⟩
  | written asks _ grows there done =>
      have more := extracts _ (asks.trans grows)
      rw [done] at more
      exact ⟨_, _, asks.trans grows, more, .refl _, fun _ _ => rfl⟩
  | undone problem failure grows there failed settled cleared =>
      have more := extracts _ grows
      rw [failed] at more
      exact ⟨_, _, grows, more, settled, cleared.outside⟩

/-- Why something was changed that is not inside the directory of the kind of a runner: the index
of a bundle was kept, or a directory was made on the way. -/
inductive Cause (source : Path) (kind : String) (world after : World) (place : Place) : Prop
  | index (content : Content) (isIndex : place = (indexPath source).place world.here)
      (kept : after.tree.at? place = some (.file content))
  | way (onWay : world.cache.OnWay world.here place ∨
        (kindPath world source kind).OnWay world.here place)
      (absent : world.tree.at? place = none) (made : after.tree.at? place = some .directory)

/-- The members of the runner that is read, as far as they are not refused, never lead above the
directory of its kind. -/
def Tame (source : Path) (kind hash : String) (world : World) : Prop :=
  ∀ reading members,
    World.Grows (Passed world ((kindPath world source kind).child hash)) (fun _ => False) world
      reading →
    ((runnerMembers source kind hash).runIn reading).1 = .ok members →
    ∀ member ∈ members,
      ((kindPath world source kind).child hash).place world.here <+:
        (memberPath ((kindPath world source kind).child hash) member.1).place world.here →
      depth? 0 ((Path.ofText hash).parts ++ memberParts member.1) ≠ none

/-- An extraction returns a directory that is inside that of the kind, and there is a cause for
whatever it changes elsewhere. -/
structure Contained (source : Path) (kind hash : String) (world : World) : Prop where
  returned : ∀ path, ((extract source kind hash).runIn world).1 = .ok path →
    Inside ((kindPath world source kind).place world.here) (path.place world.here)
  changed : ∀ place,
    ((extract source kind hash).runIn world).2.tree.at? place ≠ world.tree.at? place →
    Inside ((kindPath world source kind).place world.here) place ∨
      Cause source kind world ((extract source kind hash).runIn world).2 place

theorem Descends.accounted {hash : String} (descends : Descends hash) {source : Path} {kind : String}
    {world : World} (tame : Tame source kind hash world) (place : Place)
    (changed : ((extract source kind hash).runIn world).2.tree.at? place ≠ world.tree.at? place) :
    Inside ((kindPath world source kind).place world.here) place ∨
      Cause source kind world ((extract source kind hash).runIn world).2 place := by
  have inside := descends.inside (kindPath world source kind) world.here
  rcases run : (extract source kind hash).runIn world with ⟨result, after⟩
  rw [run] at changed
  obtain ⟨reading, grown, first, second, _, outside⟩ := extract_outcome run
  -- Clearing the directory of the runner shows nowhere else, so elsewhere all is growth.
  by_cases below : ((kindPath world source kind).child hash).place world.here <+: place
  · refine .inl ⟨inside.1.trans below, ?_⟩
    rintro rfl
    exact inside.2 (below.eq_of_length_le inside.1.length_le)
  have same := outside place below
  have onWay (found : Passed world ((kindPath world source kind).child hash) place)
      (absent : world.tree.at? place = none) (made : grown.tree.at? place = some .directory) :
      Inside ((kindPath world source kind).place world.here) place ∨
        Cause source kind world after place := by
    rcases found with toCache | toRunner
    · exact .inr (.way (.inl toCache) absent (same.trans made))
    · rcases descends.onWay _ _ toRunner with toKind | isInside
      · exact .inr (.way (.inr toKind) absent (same.trans made))
      · exact .inl isInside
  rw [same] at changed
  rcases second.tree.each place with still | ⟨toMember, absent, made⟩ | ⟨isWritten, _, content, kept⟩
  · rcases first.tree.each place with equal | ⟨found, absent, made⟩ | ⟨impossible, _⟩
    · exact absurd (still.trans equal) changed
    · exact onWay found absent (still.trans made)
    · exact impossible.elim
  · have absentBefore : world.tree.at? place = none := by
      refine Option.not_isSome_iff_eq_none.mp fun there => ?_
      simpa [absent] using first.tree.isSome there
    obtain ⟨members, read, member, isMember, returns, toMember⟩ := toMember
    rw [first.here] at returns toMember
    rcases onWay_memberPath toMember with toRunner | ⟨way, isWay, rfl⟩
    · exact onWay (.inr toRunner) absentBefore made
    · have above := descends.above_member (kindPath world source kind) world.here
        (tame reading members first read member isMember returns) isWay
      by_cases itself : Files.lead (((kindPath world source kind).child hash).place world.here) way =
          (kindPath world source kind).place world.here
      · refine .inr (.way (.inr ?_) absentBefore (same.trans made))
        rw [itself]
        exact (kindPath world source kind).onWay_place world.here
      · exact .inl ⟨above, itself⟩
  · rcases isWritten with isIndex | isBelow
    · exact .inr (.index content isIndex (same.trans kept))
    · exact absurd isBelow below

theorem extract_returns {source path : Path} {kind hash : String} {world : World}
    (done : ((extract source kind hash).runIn world).1 = .ok path) :
    path = (kindPath world source kind).child hash := by
  cases extract_ending (Prod.ext done rfl :
      (extract source kind hash).runIn world = (.ok path, _)) with
  | found => rfl
  | written => rfl

theorem Descends.contained {hash : String} (descends : Descends hash) {source : Path} {kind : String}
    {world : World} (tame : Tame source kind hash world) : Contained source kind hash world where
  returned path done := by
    rw [extract_returns done]
    exact descends.inside _ _
  changed := descends.accounted tame

theorem descends_of_inside {above : Path} {here : Place} {kind hash : String}
    (isKind : Files.IsName kind) (fresh : kind ∉ (Path.ofText hash).parts) (absent : kind ∉ above.place here)
    (inside : Inside ((above.child kind).place here) (((above.child kind).child hash).place here)) :
    Descends hash := by
  have member : kind ∈ ((above.child kind).child hash).place here :=
    inside.1.subset (by simp [Path.place_child_name isKind])
  cases relative : (Path.ofText hash).isAbsolute with
  | true =>
      rw [Path.child, Path.join, if_pos relative, Path.place, Path.start, if_pos relative] at member
      exact absurd member (notMem_lead List.not_mem_nil fresh)
  | false =>
      rw [place_child_of_relative _ _ relative, Path.place_child_name isKind] at inside member
      rcases counted : depth? 0 (Path.ofText hash).parts with _ | _ | depth
      · rw [← List.append_nil (_ ++ [kind])] at member
        exact absurd member (notMem_lead_of_above absent fresh counted)
      · obtain ⟨rest, same, isNil⟩ := lead_of_depth_from _ counted
        rw [same, List.length_eq_zero_iff.mp isNil, List.append_nil] at inside
        exact absurd rfl inside.2
      · exact ⟨relative, depth, counted⟩

theorem exists_fresh (taken : List String) : ∃ name, Files.IsName name ∧ name ∉ taken := by
  let name := String.ofList (List.replicate ((taken.map String.length).sum + 3) 'k')
  have length : name.length = (taken.map String.length).sum + 3 := by
    simp [name]
  have isLonger (other : String) (short : other.length < 3) : name ≠ other := by
    rintro same
    rw [same] at length
    omega
  refine ⟨name, ⟨by simp [name], ?_, ?_, ?_⟩, fun member => ?_⟩
  · exact isLonger "" (by decide)
  · exact isLonger "." (by decide)
  · exact isLonger ".." (by decide)
  · have short := List.le_sum_of_mem (List.mem_map_of_mem (f := String.length) member)
    omega

def directoriesAt (places : List Place) : Tree := ⟨places.map (·, .directory)⟩

theorem at?_directoriesAt {places : List Place} {place : Place} (member : place ∈ places) :
    (directoriesAt places).at? place = some .directory := by
  by_cases root : place = []
  · rw [root, Tree.at?_root]
  rw [Tree.at?_of_ne root, directoriesAt]
  induction places with
  | nil => cases member
  | cons first rest ih => grind

theorem extract_of_filled {source : Path} {kind hash name : String} {world : World}
    (cacheThere : world.tree.hasDirectory world.here world.cache = true)
    (there : world.tree.hasDirectory world.here ((kindPath world source kind).child hash) = true)
    (filled : (world.tree.at?
      (((kindPath world source kind).child hash).place world.here ++ [name])).isSome) :
    (extract source kind hash).runIn world =
      (.ok ((kindPath world source kind).child hash), world) := by
  have notEmpty : (world.tree.children
      (((kindPath world source kind).child hash).place world.here)).isEmpty = false := by
    refine Bool.eq_false_iff.mpr fun empty => ?_
    rw [Tree.children_isEmpty_iff.mp empty name] at filled
    cases filled
  have asked := isFilled_of_directory there
  rw [notEmpty] at asked
  simp only [extract, Action.runIn_bind, Action.hasDirectory, Action.runIn_ask,
    Release.cacheDirectory_of_there cacheThere, fill]
  rw [show runnerDirectory _ _ kind hash = (kindPath world source kind).child hash from rfl, asked]
  rfl

def preparedWorld (kind hash : String) : World :=
  let cache : Path := .ofRoot ["cache"]
  let directory := (kindDirectory cache "prebuilt" kind).child hash
  { tree := directoriesAt (["cache"] :: (directory.place [] ++ ["content"]) ::
      directory.parts.inits.map (lead (directory.start [])))
    cache }

theorem extract_preparedWorld (kind hash : String) :
    (extract (.ofRoot []) kind hash).runIn (preparedWorld kind hash) =
      (.ok ((kindDirectory (.ofRoot ["cache"]) "prebuilt" kind).child hash),
        preparedWorld kind hash) := by
  have isKind : kindPath (preparedWorld kind hash) (.ofRoot []) kind =
      kindDirectory (.ofRoot ["cache"]) "prebuilt" kind := rfl
  rw [← isKind]
  have content : (preparedWorld kind hash).tree.at? (((kindPath (preparedWorld kind hash)
      (.ofRoot []) kind).child hash).place [] ++ ["content"]) = some .directory :=
    at?_directoriesAt (List.mem_cons_of_mem _ List.mem_cons_self)
  refine extract_of_filled rfl ?_ (Option.isSome_of_eq_some content)
  refine Tree.hasDirectory_iff.mpr fun way isWay => at?_directoriesAt ?_
  refine List.mem_cons_of_mem _ (List.mem_cons_of_mem _ (List.mem_map.mpr ⟨way, ?_, rfl⟩))
  exact (List.mem_inits _ _).mpr isWay

theorem not_file_of_directories {places : List Place} {place : Place} {content : Content} :
    (directoriesAt places).at? place ≠ some (.file content) := by
  intro there
  by_cases root : place = []
  · rw [root, Tree.at?_root] at there
    cases there
  rw [Tree.at?_of_ne root, directoriesAt] at there
  obtain ⟨before, rest, split, _⟩ := List.lookup_eq_some_iff.mp there
  obtain ⟨_, _, same⟩ :=
    List.mem_map.mp (split ▸ List.mem_append_right before List.mem_cons_self)
  cases same

theorem tame_preparedWorld (kind hash : String) :
    Tame (.ofRoot []) kind hash (preparedWorld kind hash) := by
  intro reading members grows read
  have noFile (place : Place) (content : Content) : reading.tree.at? place ≠ some (.file content) := by
    rcases grows.tree.each place with same | ⟨_, _, made⟩ | ⟨impossible, _⟩
    · rw [same]
      exact not_file_of_directories
    · rw [made]
      exact fun isFile => nomatch isFile
    · exact impossible.elim
  have isTree : reading.tree.hasDirectory reading.here (.ofRoot []) = true := by
    rw [grows.here]
    exact grows.tree.hasDirectory rfl
  obtain ⟨name, middle, path, done⟩ := Action.runIn_bind_eq_ok_iff.mp
    (Prod.ext read rfl : (runnerMembers (.ofRoot []) kind hash).runIn reading = (.ok members, _))
  have looks := findPath_grows (fun _ => False) (.ofRoot []) kind hash reading
  rw [path] at looks
  simp only [Action.hasDirectory, Action.runIn_bind, Action.runIn_ask] at done
  rw [looks.here, if_pos (looks.tree.hasDirectory isTree)] at done
  obtain ⟨content, _, isRead, _⟩ := Action.runIn_bind_eq_ok_iff.mp done
  have there := Tree.find?_of_read (Action.onTree_eq_ok (congrArg Prod.fst isRead))
  replace there := (Tree.find?_eq_some_iff.mp there).1
  rw [looks.tree.unchanged id fun isIndex => by cases isIndex.1.symm.trans isTree] at there
  exact absurd there (noFile _ _)

theorem contained_iff_descends {hash : String} :
    (∀ source kind world, Tame source kind hash world → Contained source kind hash world) ↔
      Descends hash := by
  refine ⟨fun contained => ?_, fun descends _ _ _ tame => descends.contained tame⟩
  obtain ⟨kind, isName, fresh⟩ :=
    exists_fresh ((Path.ofText hash).parts ++ ["cache", "extracted", "prebuilt"])
  simp only [List.mem_append, not_or] at fresh
  have inside := (contained _ _ _ (tame_preparedWorld kind hash)).returned _
    (congrArg Prod.fst (extract_preparedWorld kind hash))
  exact descends_of_inside isName fresh.1
    (show kind ∉ (((Path.ofRoot ["cache"]).child "extracted").child "prebuilt").place [] from fresh.2)
    inside

theorem extract_settles (source : Path) (kind hash : String) : (extract source kind hash).Settles := by
  intro world
  obtain ⟨_, _, first, second, settled, _⟩ := extract_outcome (Prod.eta _).symm
  exact (first.toSettled.trans second.toSettled).trans settled

theorem findLatest_settles (source : Path) (kind : String) : (findLatest? source kind).Settles :=
  .bind (.of_growing fun _ _ => indexOf_growing trivial) fun _ => (Release.attempt_treeless _).settled

theorem dependenciesIn_settles (directory : Path) : (dependenciesIn directory).Settles := by
  refine .bind (fun world => .refl world) fun there => ?_
  split
  · refine .bind (.bind (.of_growing fun _ _ => .onTree _) fun content =>
      (textOf_treeless content).settled) fun text => ?_
    exact .bind (Release.parseJson_treeless text).settled fun _ =>
      (Release.attempt_treeless _).settled
  · exact fun world => .refl world

end ContractLint.Runner
