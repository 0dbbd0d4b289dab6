import ContractLint.Proofs.Runner.Members
import ContractLint.Proofs.Runner.Sources

/-! Runners are extracted as a whole or not at all. Over any calls, failed ones among them, the
directory of a runner is absent, or empty, or it holds exactly what an archive of the runner says.
That takes members which do not leave the directory on their way and come back. -/

namespace ContractLint.Runner

open Files (Content Entry Inside IsName Members Path Place Tree lead)

/-- Where a runner is extracted to. -/
def runnerPlace (world : World) (source : Path) (kind hash : String) : Place :=
  runnersPlace world source ++ [kind, hash]

/-- A source is there, nothing is extracted from it yet, and the directory for that is elsewhere. -/
structure Apart (world : World) (source : Path) : Prop where
  found : (world.tree.find? world.here source).isSome
  sound : world.tree.Sound
  fresh : ∀ place, Inside (runnersPlace world source) place → world.tree.at? place = none
  ways : ∀ place, Passed world (runnersPath world source) place →
    ¬Inside (runnersPlace world source) place ∧ ¬Inside (source.place world.here) place
  different : source.place world.here ≠ runnersPlace world source

/-- A source is there, and it is neither above nor below where its runners are extracted to. -/
structure Aside (world : World) (source : Path) : Prop where
  found : (world.tree.find? world.here source).isSome
  sound : world.tree.Sound
  ways : ∀ place, Passed world (runnersPath world source) place →
    ¬Inside (runnersPlace world source) place ∧ ¬Inside (source.place world.here) place
  outside : ¬runnersPlace world source <+: source.place world.here

def passedPlaces (world : World) (directory : Path) : List Place :=
  world.cache.parts.inits.map (lead (world.cache.start world.here)) ++
    directory.parts.inits.map (lead (directory.start world.here))

theorem mem_passedPlaces {world : World} {directory : Path} {place : Place} :
    place ∈ passedPlaces world directory ↔ Passed world directory place := by
  simp only [passedPlaces, List.mem_append, Path.mem_map_inits_iff, Passed]

theorem apart_iff {world : World} {source : Path} : Apart world source ↔
    (world.tree.find? world.here source).isSome ∧ world.tree.Sound ∧
    (∀ entry ∈ world.tree.entries, ¬Inside (runnersPlace world source) entry.1) ∧
    (∀ place ∈ passedPlaces world (runnersPath world source),
      ¬Inside (runnersPlace world source) place ∧ ¬Inside (source.place world.here) place) ∧
    source.place world.here ≠ runnersPlace world source := by
  have fresh : (∀ place, Inside (runnersPlace world source) place → world.tree.at? place = none) ↔
      ∀ entry ∈ world.tree.entries, ¬Inside (runnersPlace world source) entry.1 := by
    constructor
    · intro nothing entry member inside
      exact Tree.at?_ne_none_iff.mpr (.inr ⟨entry, member, rfl⟩) (nothing _ inside)
    · intro outside place inside
      by_contra there
      rcases Tree.at?_ne_none_iff.mp there with rfl | ⟨entry, member, rfl⟩
      · exact inside.2 (List.prefix_nil.mp inside.1).symm
      · exact outside entry member inside
  simp only [← fresh, mem_passedPlaces]
  exact ⟨fun apart => ⟨apart.found, apart.sound, apart.fresh, apart.ways, apart.different⟩,
    fun ⟨found, sound, fresh, ways, different⟩ => ⟨found, sound, fresh, ways, different⟩⟩

instance (world : World) (source : Path) : Decidable (Apart world source) :=
  decidable_of_iff' _ apart_iff

/-- No member of an archive leaves the directory of its runner on the way and comes back. -/
def Direct (world : World) (source : Path) : Prop :=
  ∀ kind hash members, RunnerTar world source kind hash members → ∀ member ∈ members,
    runnerPlace world source kind hash <+:
      lead (runnerPlace world source kind hash) (memberParts member.1) →
    depth? 0 (memberParts member.1) ≠ none

/-- The directory of a runner is absent or empty, or it holds exactly what an archive of the runner
says. -/
inductive Intact (world : World) (source : Path) (kind hash : String) (now : World) : Prop
  | vacant
      (plain : now.tree.at? (runnerPlace world source kind hash) = none ∨
        now.tree.at? (runnerPlace world source kind hash) = some .directory)
      (nothing : ∀ place, Inside (runnerPlace world source kind hash) place →
        now.tree.at? place = none)
  | whole (members : Members) (tar : RunnerTar world source kind hash members)
      (there : now.tree.hasDirectory now.here ((kindPath world source kind).child hash) = true)
      (holds : Holds now.tree (runnerPlace world source kind hash) members)

section

variable {world now after : World} {source : Path} {kind hash : String} {place : Place}

theorem place_runner (isKind : IsName kind) (isHash : IsName hash) :
    ((kindPath world source kind).child hash).place world.here =
      runnerPlace world source kind hash := by
  rw [Path.place_child_name isHash]
  change ((runnersPath world source).child kind).place world.here ++ [hash] = _
  rw [Path.place_child_name isKind, List.append_assoc]
  rfl

theorem passed_runner (isKind : IsName kind) (isHash : IsName hash)
    (passed : Passed world ((kindPath world source kind).child hash) place) :
    Passed world (runnersPath world source) place ∨
      place = runnersPlace world source ++ [kind] ∨ place = runnerPlace world source kind hash := by
  rcases passed with toCache | toRunner
  · exact .inl (.inl toCache)
  rcases Path.onWay_of_child isHash toRunner with toKind | rfl
  · change ((runnersPath world source).child kind).OnWay world.here place at toKind
    exact (Path.onWay_of_child isKind toKind).imp .inr .inl
  · rw [← place_runner isKind isHash, Path.place_child_name isHash]
    exact .inr (.inr rfl)

theorem runnerPlace_inside (world : World) (source : Path) (kind hash : String) :
    Inside (runnersPlace world source) (runnerPlace world source kind hash) :=
  ⟨List.prefix_append _ _, by simp [runnerPlace]⟩

theorem inside_runners (below : runnerPlace world source kind hash <+: place) :
    Inside (runnersPlace world source) place := by
  have inside := runnerPlace_inside world source kind hash
  refine ⟨inside.1.trans below, ?_⟩
  rintro rfl
  exact inside.2 (below.eq_of_length_le inside.1.length_le)

theorem runner_unique {otherKind otherHash : String}
    (below : runnerPlace world source kind hash <+: place)
    (alsoBelow : runnerPlace world source otherKind otherHash <+: place) :
    kind = otherKind ∧ hash = otherHash := by
  have same := List.prefix_of_prefix_length_le below alsoBelow (by simp [runnerPlace])
  simpa [runnerPlace] using same.eq_of_length (by simp [runnerPlace])

theorem Apart.aside (apart : Apart world source) : Aside world source where
  found := apart.found
  sound := apart.sound
  ways := apart.ways
  outside above := by
    obtain ⟨entry, there, _⟩ := exists_at?_of_found apart.found (source.onWay_place world.here)
    rw [apart.fresh _ ⟨above, apart.different⟩] at there
    cases there

namespace Aside

theorem not_below_source (aside : Aside world source) (below : runnersPlace world source <+: place) :
    ¬source.place world.here <+: place := by
  intro alsoBelow
  rcases List.prefix_or_prefix_of_prefix below alsoBelow with above | above
  · exact aside.outside above
  · refine (aside.ways _ (.inr ((runnersPath world source).onWay_place world.here))).2 ⟨above, ?_⟩
    exact fun same => aside.outside (same ▸ List.prefix_rfl)

theorem passed_outside (aside : Aside world source) (isKind : IsName kind) (isHash : IsName hash)
    (passed : Passed world ((kindPath world source kind).child hash) place) :
    ¬Inside (source.place world.here) place ∧
      ∀ otherKind otherHash, runnerPlace world source otherKind otherHash <+: place →
        kind = otherKind ∧ hash = otherHash ∧ place = runnerPlace world source kind hash := by
  rcases passed_runner isKind isHash passed with toRunners | rfl | rfl
  · obtain ⟨notRunner, notSource⟩ := aside.ways place toRunners
    exact ⟨notSource, fun _ _ below => absurd (inside_runners below) notRunner⟩
  · refine ⟨fun inside => aside.not_below_source (List.prefix_append _ _) inside.1, ?_⟩
    intro otherKind otherHash below
    have short := below.length_le
    simp [runnerPlace] at short
  · refine ⟨fun inside => aside.not_below_source (List.prefix_append _ _) inside.1, ?_⟩
    intro otherKind otherHash below
    obtain ⟨sameKind, sameHash⟩ := runner_unique List.prefix_rfl below
    exact ⟨sameKind, sameHash, rfl⟩

theorem not_passed_of_inside (aside : Aside world source) (isKind : IsName kind)
    (isHash : IsName hash) {otherKind otherHash : String}
    (inside : Inside (runnerPlace world source otherKind otherHash) place) :
    ¬Passed world ((kindPath world source kind).child hash) place := by
  intro passed
  obtain ⟨rfl, rfl, rfl⟩ := (aside.passed_outside isKind isHash passed).2 _ _ inside.1
  exact inside.2 rfl

theorem index_outside (aside : Aside world source) :
    ¬Inside (runnersPlace world source) ((indexPath source).place world.here) := by
  rw [place_indexPath]
  rintro ⟨below, notSame⟩
  replace below := (List.prefix_concat_iff.mp below).resolve_left (Ne.symm notSame)
  rcases source_near_index source world.here with above | alsoBelow
  · exact aside.not_below_source below above
  · exact aside.not_below_source (below.trans alsoBelow) List.prefix_rfl

end Aside

theorem Holds.of_same {tree other : Tree} {directory : Place} {members : Members}
    (holds : Holds tree directory members)
    (same : ∀ place, Inside directory place → other.at? place = tree.at? place) :
    Holds other directory members :=
  fun place inside => (same place inside).trans (holds place inside)

theorem Intact.grown {made written : Place → Prop} (intact : Intact world source kind hash now)
    (grows : World.Grows made written now after)
    (itself : ¬written (runnerPlace world source kind hash))
    (inside : ∀ place, Inside (runnerPlace world source kind hash) place →
      ¬made place ∧ ¬written place) :
    Intact world source kind hash after := by
  have same (place : Place) (isInside : Inside (runnerPlace world source kind hash) place) :
      after.tree.at? place = now.tree.at? place :=
    grows.tree.unchanged (inside place isInside).1 (inside place isInside).2
  cases intact with
  | vacant plain nothing =>
      refine .vacant ?_ fun place isInside => (same place isInside).trans (nothing place isInside)
      rcases grows.tree.each (runnerPlace world source kind hash) with
        still | ⟨_, _, isDirectory⟩ | ⟨isWritten, _⟩
      · rwa [still]
      · exact .inr isDirectory
      · exact absurd isWritten itself
  | whole members tar there holds =>
      refine .whole members tar ?_ (holds.of_same same)
      rw [grows.here]
      exact grows.tree.hasDirectory there

theorem Intact.cleared {otherKind otherHash : String} (aside : Aside world source)
    (isKind : IsName kind) (isHash : IsName hash) (intact : Intact world source kind hash now)
    (settled : now.Settled after) (sameHere : now.here = world.here)
    (other : ¬(otherKind = kind ∧ otherHash = hash))
    (cleared : now.tree.Cleared (runnerPlace world source otherKind otherHash) after.tree) :
    Intact world source kind hash after := by
  have same (place : Place) (below : runnerPlace world source kind hash <+: place) :
      after.tree.at? place = now.tree.at? place :=
    cleared.outside place fun alsoBelow => other (runner_unique alsoBelow below)
  cases intact with
  | vacant plain nothing =>
      refine .vacant (by rwa [same _ List.prefix_rfl]) fun place inside => ?_
      rw [same place inside.1, nothing place inside]
  | whole members tar there holds =>
      refine .whole members tar ?_ (holds.of_same fun place inside => same place inside.1)
      rw [settled.here, sameHere] at *
      rw [Tree.hasDirectory_congr, there]
      refine fun place onWay => cleared.outside place fun below => ?_
      obtain ⟨sameKind, sameHash, _⟩ := (aside.passed_outside isKind isHash (.inr onWay)).2 _ _ below
      exact other ⟨sameKind.symm, sameHash.symm⟩

end

structure Steady (world : World) (source : Path) (now : World) : Prop where
  settled : world.Settled now
  based : now.tree.Based
  same : SameSource source world now

/-- The source is as it was, and every runner is intact. -/
structure Kept (world : World) (source : Path) (now : World) : Prop extends
    Steady world source now where
  intact : ∀ kind hash, IsName kind → IsName hash → Intact world source kind hash now

section

variable {world now after : World} {source : Path} {kind hash : String}

theorem Steady.same_kindPath (steady : Steady world source now) (kind : String) :
    kindPath now source kind = kindPath world source kind := by
  rw [kindPath, kindPath, steady.settled.cache, steady.same.hasDirectory]

theorem Steady.same_passed (steady : Steady world source now) (directory : Path) :
    Passed now directory = Passed world directory := by
  funext place
  rw [Passed, Passed, steady.settled.here, steady.settled.cache]

def MadeFor (world : World) (source : Path) (kind hash : String) (place : Place) : Prop :=
  runnerPlace world source kind hash <+: place ∨
    Passed world ((kindPath world source kind).child hash) place

def WrittenFor (world : World) (source : Path) (kind hash : String) (place : Place) : Prop :=
  IsIndex source world place ∨ runnerPlace world source kind hash <+: place

theorem Apart.kept (apart : Apart world source) : Kept world source world where
  settled := .refl world
  based := apart.sound.based
  same := ⟨rfl, fun _ _ => rfl, fun _ _ => rfl⟩
  intact kind hash _ _ := by
    refine .vacant (.inl (apart.fresh _ (runnerPlace_inside world source kind hash))) ?_
    exact fun place inside => apart.fresh place (inside_runners inside.1)

theorem Kept.whole_of_filled (kept : Kept world source now) (isKind : IsName kind)
    (isHash : IsName hash)
    (filled : ((isFilled ((kindPath world source kind).child hash)).runIn now).1 = .ok true) :
    ∃ members, RunnerTar world source kind hash members ∧
      now.tree.hasDirectory now.here ((kindPath world source kind).child hash) = true ∧
      Holds now.tree (runnerPlace world source kind hash) members := by
  have there := directory_of_isFilled filled
  rw [isFilled_of_directory there, kept.settled.here, place_runner isKind isHash] at filled
  cases kept.intact kind hash isKind isHash with
  | whole members tar there holds => exact ⟨members, tar, there, holds⟩
  | vacant _ nothing =>
      have empty : (now.tree.children (runnerPlace world source kind hash)).isEmpty = true := by
        refine Tree.children_isEmpty_iff.mpr fun name => nothing _ ⟨List.prefix_append _ _, ?_⟩
        simp
      rw [empty] at filled
      cases filled

theorem Kept.nothing_of_vacant (kept : Kept world source now) (isKind : IsName kind)
    (isHash : IsName hash)
    (vacant : ((isFilled ((kindPath world source kind).child hash)).runIn now).1 = .ok false) :
    ∀ place, Inside (runnerPlace world source kind hash) place → now.tree.at? place = none := by
  cases kept.intact kind hash isKind isHash with
  | vacant _ nothing => exact nothing
  | whole members tar there holds =>
      rw [isFilled_of_directory there, kept.settled.here, place_runner isKind isHash] at vacant
      have empty : (now.tree.children (runnerPlace world source kind hash)).isEmpty = true := by
        simpa using Except.ok.inj vacant
      exact fun place inside => kept.based.nothing_below empty inside

section

variable (aside : Aside world source) (isKind : IsName kind) (isHash : IsName hash)

include aside isKind isHash

theorem Steady.on_way (steady : Steady world source now)
    (grows : World.Grows (Passed world ((kindPath world source kind).child hash)) (fun _ => False)
      now after) : Steady world source after where
  settled := steady.settled.trans grows.toSettled
  based := grows.tree.isBased steady.based
  same := by
    refine steady.same.grown grows aside.found aside.sound.based steady.based id
      fun _ place inside => ?_
    exact ⟨fun passed => (aside.passed_outside isKind isHash passed).1 inside, id⟩

theorem Kept.on_way (kept : Kept world source now)
    (grows : World.Grows (Passed world ((kindPath world source kind).child hash)) (fun _ => False)
      now after) : Kept world source after where
  toSteady := kept.toSteady.on_way aside isKind isHash grows
  intact otherKind otherHash isOtherKind isOtherHash := by
    refine (kept.intact _ _ isOtherKind isOtherHash).grown grows id fun place inside => ?_
    exact ⟨aside.not_passed_of_inside isKind isHash inside, id⟩

theorem Steady.extractInto_grows (direct : Direct world source) (steady : Steady world source now) :
    World.Grows (MadeFor world source kind hash) (WrittenFor world source kind hash) now
      ((extractInto source ((kindPath world source kind).child hash) kind hash).runIn now).2 := by
  refine (Runner.extractInto_grows _ _ kind hash now).mono (fun place onMemberWay => ?_)
    fun place isWritten => ?_
  · obtain ⟨members, read, member, isMember, returns, onWay⟩ := onMemberWay
    rw [steady.settled.here] at returns onWay
    have tar := runnerTar_of_read isKind isHash aside.found aside.sound steady.based steady.same read
    rw [place_memberPath, place_runner isKind isHash] at returns
    obtain ⟨depth, counted⟩ :=
      Option.ne_none_iff_exists'.mp (direct kind hash members tar member isMember returns)
    rcases onWay_memberPath onWay with toRunner | ⟨way, isWay, rfl⟩
    · exact .inr (.inr toRunner)
    · rw [place_runner isKind isHash]
      exact .inl (below_of_depth counted isWay _)
  · rw [IsIndex, steady.same.hasDirectory, steady.settled.here, place_runner isKind isHash] at isWritten
    exact isWritten

theorem Steady.extracted (steady : Steady world source now)
    (grows : World.Grows (MadeFor world source kind hash) (WrittenFor world source kind hash) now
      after) : Steady world source after where
  settled := steady.settled.trans grows.toSettled
  based := grows.tree.isBased steady.based
  same := by
    refine steady.same.grown grows aside.found aside.sound.based steady.based ?_ ?_
    · rintro (⟨_, isIndex⟩ | below)
      · exact indexPath_place_ne source world.here isIndex.symm
      · exact aside.not_below_source (inside_runners below).1 List.prefix_rfl
    · refine fun isTree place inside => ⟨?_, ?_⟩
      · rintro (below | passed)
        · exact aside.not_below_source (inside_runners below).1 inside.1
        · exact (aside.passed_outside isKind isHash passed).1 inside
      · rintro (⟨isBundle, _⟩ | below)
        · rw [isTree] at isBundle
          cases isBundle
        · exact aside.not_below_source (inside_runners below).1 inside.1

theorem Intact.extracted {otherKind otherHash : String}
    (intact : Intact world source otherKind otherHash now)
    (other : ¬(kind = otherKind ∧ hash = otherHash))
    (grows : World.Grows (MadeFor world source kind hash) (WrittenFor world source kind hash) now
      after) : Intact world source otherKind otherHash after := by
  have notWritten (place : Place) (below : runnerPlace world source otherKind otherHash <+: place) :
      ¬WrittenFor world source kind hash place := by
    rintro (⟨_, rfl⟩ | alsoBelow)
    · exact aside.index_outside (inside_runners below)
    · exact other (runner_unique alsoBelow below)
  refine intact.grown grows (notWritten _ List.prefix_rfl) fun place inside =>
    ⟨?_, notWritten place inside.1⟩
  rintro (alsoBelow | passed)
  · exact other (runner_unique alsoBelow inside.1)
  · obtain ⟨sameKind, sameHash, _⟩ := (aside.passed_outside isKind isHash passed).2 _ _ inside.1
    exact other ⟨sameKind, sameHash⟩

theorem Steady.whole_of_written (steady : Steady world source now)
    (nothing : ∀ place, Inside (runnerPlace world source kind hash) place →
      now.tree.at? place = none)
    (run : (extractInto source ((kindPath world source kind).child hash) kind hash).runIn now =
      (.ok (), after)) :
    ∃ members, RunnerTar world source kind hash members ∧
      Holds after.tree (runnerPlace world source kind hash) members := by
  obtain ⟨members, middle, read, writes⟩ := Action.runIn_bind_eq_ok_iff.mp run
  have grows := runnerMembers_grows (fun _ => False) source kind hash now
  rw [read] at grows
  have sameHere : middle.here = world.here := grows.here.trans steady.settled.here
  have still : Holds middle.tree (runnerPlace world source kind hash) [] := by
    intro place inside
    rw [grows.tree.unchanged id, nothing place inside]
    · rfl
    · rintro ⟨_, rfl⟩
      rw [steady.settled.here] at inside
      exact aside.index_outside (inside_runners inside.1)
  have isPlace : ((kindPath world source kind).child hash).place middle.here =
      runnerPlace world source kind hash := by
    rw [sameHere, place_runner isKind isHash]
  rw [← isPlace] at still ⊢
  refine ⟨members, ?_, writeMembers_holds (fun place onWay inside => ?_) still writes⟩
  · exact runnerTar_of_read isKind isHash aside.found aside.sound steady.based steady.same
      (congrArg Prod.fst read)
  · rw [sameHere] at onWay
    rw [isPlace] at inside
    exact inside.2 ((aside.passed_outside isKind isHash (.inr onWay)).2 _ _ inside.1).2.2

end

section

variable (apart : Apart world source) (isKind : IsName kind) (isHash : IsName hash)

include apart isKind isHash

theorem Steady.undone (steady : Steady world source now)
    (others : ∀ otherKind otherHash, IsName otherKind → IsName otherHash →
      ¬(kind = otherKind ∧ hash = otherHash) → Intact world source otherKind otherHash now)
    (there : now.tree.hasDirectory world.here ((kindPath world source kind).child hash) = true)
    (settled : now.Settled after)
    (cleared : now.tree.Cleared (runnerPlace world source kind hash) after.tree) :
    Kept world source after where
  settled := steady.settled.trans settled
  based := cleared.isBased steady.based
  same := by
    refine ⟨settled.here.trans steady.same.here, fun place onWay => ?_, fun place inside => ?_⟩
    · rw [cleared.outside, steady.same.ways place onWay]
      intro below
      obtain ⟨entry, isEntry, _⟩ := exists_at?_of_found apart.found onWay
      rw [apart.fresh place (inside_runners below)] at isEntry
      cases isEntry
    · rw [cleared.outside, steady.same.inside place inside]
      exact fun below => apart.aside.not_below_source (inside_runners below).1 inside.1
  intact otherKind otherHash isOtherKind isOtherHash := by
    by_cases same : kind = otherKind ∧ hash = otherHash
    · obtain ⟨rfl, rfl⟩ := same
      have isDirectory := (Tree.find?_eq_some_iff.mp (Tree.hasDirectory_iff_find?.mp there)).1
      rw [place_runner isKind isHash] at isDirectory
      refine .vacant ?_ fun place inside => cleared.below place inside.1 inside.2
      rcases cleared.itself with still | gone
      · exact .inr (still.trans isDirectory)
      · exact .inl gone
    · exact (others _ _ isOtherKind isOtherHash same).cleared apart.aside isOtherKind isOtherHash settled
        steady.settled.here same cleared

theorem Kept.step {result : Except Failure Path} (direct : Direct world source)
    (kept : Kept world source now)
    (run : (extract source kind hash).runIn now = (result, after)) :
    Kept world source after ∧ ∀ path, result = .ok path →
      path = (kindPath world source kind).child hash ∧
      ∃ members, RunnerTar world source kind hash members ∧
        after.tree.hasDirectory after.here path = true ∧
        Holds after.tree (runnerPlace world source kind hash) members := by
  have ending := extract_ending run
  rw [kept.same_kindPath] at ending
  cases ending with
  | stopped failure grows =>
      rw [kept.same_passed] at grows
      exact ⟨kept.on_way apart.aside isKind isHash grows, nofun⟩
  | found grows filled =>
      rw [kept.same_passed] at grows
      have asked := kept.on_way apart.aside isKind isHash grows
      refine ⟨asked, fun path returned => ?_⟩
      cases returned
      exact ⟨rfl, asked.whole_of_filled isKind isHash filled⟩
  | written asks vacant grows there done =>
      rw [kept.same_passed] at asks grows
      have asked := kept.on_way apart.aside isKind isHash asks
      have reading := asked.on_way apart.aside isKind isHash grows
      -- What was vacant when it was asked still is: only directories above it were made.
      have nothing (place : Place) (inside : Inside (runnerPlace world source kind hash) place) := by
        have unchanged := grows.tree.unchanged
          (apart.aside.not_passed_of_inside isKind isHash inside) id
        exact unchanged.trans (asked.nothing_of_vacant isKind isHash vacant place inside)
      have more := reading.extractInto_grows apart.aside isKind isHash direct
      rw [done] at more
      obtain ⟨members, tar, holds⟩ :=
        reading.whole_of_written apart.aside isKind isHash nothing done
      have steady := reading.extracted apart.aside isKind isHash more
      have isThere : after.tree.hasDirectory after.here
          ((kindPath world source kind).child hash) = true := by
        rw [steady.settled.here, ← kept.settled.here]
        exact more.tree.hasDirectory there
      refine ⟨⟨steady, fun otherKind otherHash isOtherKind isOtherHash => ?_⟩,
        fun path returned => ?_⟩
      · by_cases same : kind = otherKind ∧ hash = otherHash
        · obtain ⟨rfl, rfl⟩ := same
          exact .whole members tar isThere holds
        · exact (reading.intact _ _ isOtherKind isOtherHash).extracted apart.aside isKind isHash same more
      · cases returned
        exact ⟨rfl, members, tar, isThere, holds⟩
  | undone problem failure grows there failed settled cleared =>
      rw [kept.same_passed] at grows
      rw [kept.settled.here] at there cleared
      rw [place_runner isKind isHash] at cleared
      have reading := kept.on_way apart.aside isKind isHash grows
      have more := reading.extractInto_grows apart.aside isKind isHash direct
      rw [failed] at more
      have steady := reading.extracted apart.aside isKind isHash more
      -- The runner itself may be half written here, and it is the one that is cleared.
      refine ⟨steady.undone apart isKind isHash ?_ (more.tree.hasDirectory there) settled cleared,
        nofun⟩
      exact fun _ _ isOtherKind isOtherHash other =>
        (reading.intact _ _ isOtherKind isOtherHash).extracted apart.aside isKind isHash other more

end

/-- The world after some runners were extracted one after another, or were not because of some
failure. -/
def extractAll (source : Path) (world : World) : List (String × String) → World
  | [] => world
  | (kind, hash) :: rest => extractAll source ((extract source kind hash).runIn world).2 rest

theorem Kept.extractAll (apart : Apart world source) (direct : Direct world source)
    (kept : Kept world source now) {calls : List (String × String)}
    (ordinary : ∀ call ∈ calls, IsName call.1 ∧ IsName call.2) :
    Kept world source (extractAll source now calls) := by
  induction calls generalizing now with
  | nil => exact kept
  | cons call rest ih =>
      obtain ⟨isKind, isHash⟩ := ordinary call List.mem_cons_self
      refine ih ?_ fun other member => ordinary other (List.mem_cons_of_mem _ member)
      exact (kept.step apart isKind isHash direct (Prod.eta _).symm).1

end

theorem RunnerTar.exists_member {world : World} {source : Path} {kind hash : String}
    {members all : Members} (tar : RunnerTar world source kind hash members)
    (found : world.tree.find? world.here source = some (.file (.archive true all))) :
    ∃ member ∈ all, ∃ runner, member.2 = some runner ∧ runner.members = .ok members := by
  cases tar with
  | inBundle name bundle runner unpacked names alsoFound packed named archive =>
      cases found.symm.trans alsoFound
      cases packed
      obtain ⟨before, after, split, _⟩ := List.lookup_eq_some_iff.mp named
      rw [List.reverse_eq_iff.mp split]
      simp only [List.mem_reverse, List.mem_append, List.mem_cons]
      exact ⟨_, .inr (.inl rfl), runner, rfl, archive⟩
  | inTree name runner names isTree alsoFound archive =>
      cases found.symm.trans (Tree.hasDirectory_iff_find?.mp isTree)

def pairWorld (first second : Members) : World :=
  { tree := ⟨[(["bundle.tar.xz"], .file (.archive true
      [("runners/k/h1/aa.tar", some (.archive false first)),
        ("runners/k/h2/bb.tar", some (.archive false second))]))]⟩
    cache := .ofRoot ["cache"] }

def pairSource : Path := .ofRoot ["bundle.tar.xz"]

theorem members_of_pairWorld {first second members : Members} {kind hash : String}
    (tar : RunnerTar (pairWorld first second) pairSource kind hash members) :
    members = first ∨ members = second := by
  obtain ⟨member, isMember, runner, isRunner, archive⟩ := tar.exists_member rfl
  simp only [List.mem_cons, List.not_mem_nil, or_false] at isMember
  rcases isMember with rfl | rfl <;> cases isRunner <;> cases archive
  · exact .inl rfl
  · exact .inr rfl

def refusingWorld : World :=
  pairWorld [("a", some (.ofText "1")), ("../../b", some (.ofText "2"))]
    [("c/d", some (.ofText "3")), ("e", none)]

theorem direct_refusingWorld : Direct refusingWorld pairSource := by
  intro kind hash members tar member isMember returns
  rcases members_of_pairWorld tar with rfl | rfl <;>
    simp only [List.mem_cons, List.not_mem_nil, or_false] at isMember <;>
    rcases isMember with rfl | rfl
  · decide
  · -- This one leads out of the directory, but not back.
    have parts : memberParts "../../b" = ["..", "..", "b"] := by decide
    have long := returns.length_le
    rw [parts] at long
    simp [lead, Files.step, runnerPlace] at long
  · decide
  · decide

/-- Runners that are extracted one after another, with failures or not, are never left in part.
After any calls each of them is intact, and whatever the next call returns is the directory of its
runner, with exactly what an archive of the runner says. -/
theorem extraction_complete {world : World} {source : Path} (apart : Apart world source)
    (direct : Direct world source) {calls : List (String × String)}
    (ordinary : ∀ call ∈ calls, IsName call.1 ∧ IsName call.2) (kind hash : String)
    (isKind : IsName kind) (isHash : IsName hash) :
    Intact world source kind hash (extractAll source world calls) ∧
    ∀ path after, (extract source kind hash).runIn (extractAll source world calls) =
        (.ok path, after) →
      path = (kindPath world source kind).child hash ∧
      ∃ members, RunnerTar world source kind hash members ∧
        after.tree.hasDirectory after.here path = true ∧
        Holds after.tree (runnerPlace world source kind hash) members := by
  have kept := apart.kept.extractAll apart direct ordinary
  exact ⟨kept.intact kind hash isKind isHash,
    fun path after run => (kept.step apart isKind isHash direct run).2 path rfl⟩

theorem extraction_complete_refusing :
    (Apart refusingWorld pairSource ∧ Direct refusingWorld pairSource ∧
      ∀ call ∈ [("k", "h1aa")], IsName call.1 ∧ IsName call.2) ∧
    Intact refusingWorld pairSource "k" "h2bb"
      (extractAll pairSource refusingWorld [("k", "h1aa")]) ∧
    ∃ path after members,
      (extract pairSource "k" "h2bb").runIn (extractAll pairSource refusingWorld [("k", "h1aa")]) =
        (.ok path, after) ∧
      RunnerTar refusingWorld pairSource "k" "h2bb" members ∧
      Holds after.tree (runnerPlace refusingWorld pairSource "k" "h2bb") members := by
  have apart : Apart refusingWorld pairSource := by decide +kernel
  have ordinary : ∀ call ∈ [("k", "h1aa")], IsName call.1 ∧ IsName call.2 := by decide
  obtain ⟨intact, complete⟩ := extraction_complete apart direct_refusingWorld ordinary "k" "h2bb"
    (by decide) (by decide)
  refine ⟨⟨apart, direct_refusingWorld, ordinary⟩, intact, ?_⟩
  have returns : ((extract pairSource "k" "h2bb").runIn
      (extractAll pairSource refusingWorld [("k", "h1aa")])).1.isOk = true := by
    decide +kernel
  rcases run : (extract pairSource "k" "h2bb").runIn
      (extractAll pairSource refusingWorld [("k", "h1aa")]) with ⟨failure | path, after⟩
  · rw [run] at returns
    cases returns
  · obtain ⟨_, members, tar, _, holds⟩ := complete path after run
    exact ⟨path, after, members, rfl, tar, holds⟩

def returningWorld : World :=
  pairWorld [("c", some (.ofText "1")), ("../h2bb/x/../../h1aa/b", some (.ofText "2"))]
    [("a", some (.ofText "3"))]

theorem not_intact_returning :
    Apart returningWorld pairSource ∧
    ¬Intact returningWorld pairSource "k" "h2bb"
      (extractAll pairSource returningWorld [("k", "h1aa")]) ∧
    ((extract pairSource "k" "h2bb").runIn
      (extractAll pairSource returningWorld [("k", "h1aa")])).1.toOption =
        some ((kindPath returningWorld pairSource "k").child "h2bb") := by
  refine ⟨by decide +kernel, fun intact => ?_, by decide +kernel⟩
  have shown : ["x", "c", "a"].map (fun name =>
      ((extractAll pairSource returningWorld [("k", "h1aa")]).tree.at?
        (runnerPlace returningWorld pairSource "k" "h2bb" ++ [name])).isSome) =
      [true, false, false] := by
    decide +kernel
  have inside (name : String) : Inside (runnerPlace returningWorld pairSource "k" "h2bb")
      (runnerPlace returningWorld pairSource "k" "h2bb" ++ [name]) :=
    ⟨List.prefix_append _ _, by simp⟩
  simp only [List.map_cons, List.map_nil, List.cons.injEq, and_true] at shown
  obtain ⟨there, noFirst, noSecond⟩ := shown
  cases intact with
  | vacant _ nothing =>
      rw [nothing _ (inside "x")] at there
      cases there
  | whole members tar _ holds =>
      rcases members_of_pairWorld tar with rfl | rfl
      · rw [holds _ (inside "c")] at noFirst
        revert noFirst
        decide +kernel
      · rw [holds _ (inside "a")] at noSecond
        revert noSecond
        decide +kernel

end ContractLint.Runner
