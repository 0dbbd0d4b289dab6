import ContractLint.Proofs.Runner.Extraction

/-! What is in a directory after the members of an archive were written into it: exactly what the
archive says, the members and the directories that their names lead through. -/

namespace ContractLint.Runner

open Files (Content Entry Inside Members Path Place Tree lead)

def entryOf : Option Content → Entry
  | none => .directory
  | some content => .file content

def LeadsThrough (start : Place) (parts : List String) (place : Place) : Prop :=
  ∃ way ∈ parts.inits, lead start way = place

instance (start : Place) (parts : List String) (place : Place) :
    Decidable (LeadsThrough start parts place) :=
  inferInstanceAs (Decidable (∃ way ∈ parts.inits, lead start way = place))

/-- What an archive puts at a place: the last member that is written there, or a directory for
those whose names lead through it. -/
def entryIn (directory : Place) (members : Members) (place : Place) : Option Entry :=
  match members.reverse.find? fun member => lead directory (memberParts member.1) = place with
  | some member => some (entryOf member.2)
  | none =>
    if members.any fun member => LeadsThrough directory (memberParts member.1) place then
      some .directory
    else none

/-- The directory holds exactly what the archive says. -/
def Holds (tree : Tree) (directory : Place) (members : Members) : Prop :=
  ∀ place, Inside directory place → tree.at? place = entryIn directory members place

theorem entryIn_append (directory place : Place) (members : Members)
    (member : String × Option Content) :
    entryIn directory (members ++ [member]) place =
      if lead directory (memberParts member.1) = place then some (entryOf member.2)
      else (entryIn directory members place).or
        (if LeadsThrough directory (memberParts member.1) place then some .directory
          else none) := by
  rw [entryIn, List.reverse_append, List.reverse_singleton, List.singleton_append, List.find?_cons]
  by_cases same : lead directory (memberParts member.1) = place
  · simp [same]
  · simp only [same, decide_false, if_false]
    rw [entryIn]
    cases members.reverse.find? fun member => lead directory (memberParts member.1) = place with
    | some found => rfl
    | none =>
        dsimp only
        rw [List.any_append, List.any_cons, List.any_nil, Bool.or_false]
        by_cases through : LeadsThrough directory (memberParts member.1) place
        · rw [decide_eq_true through, Bool.or_true, if_pos rfl, if_pos through]
          split <;> rfl
        · rw [decide_eq_false through, Bool.or_false, if_neg through, Option.or_none]

section

variable {directory : Path} {name : String} {content : Option Content} {world after : World}

theorem writeMember_grows (directory : Path) (name : String) (content : Option Content)
    (world : World) :
    World.Grows ((memberPath directory name).OnWay world.here)
      (· = lead (directory.place world.here) (memberParts name)) world
      ((writeMember directory name content).runIn world).2 :=
  writeMember_growing name content (fun _ _ => id)
    (fun _ => place_memberPath directory name world.here) world rfl rfl

theorem writeMember_ok
    (done : (writeMember directory name content).runIn world = (.ok (), after)) :
    after.tree.at? (lead (directory.place world.here) (memberParts name)) =
        some (entryOf content) ∧
      ∀ way, way <+: memberParts name →
        lead (directory.place world.here) way ≠
          lead (directory.place world.here) (memberParts name) →
        after.tree.at? (lead (directory.place world.here) way) = some .directory := by
  obtain ⟨place, same, found, done⟩ := Action.runIn_bind_eq_ok_iff.mp done
  obtain rfl : world = same := by
    rw [Action.runIn_onTree] at found
    exact congrArg Prod.snd found
  by_cases inside : place.isPrefixOf (lead place (memberParts name)) = true
  case neg =>
    rw [if_neg inside] at done
    cases done
  case pos =>
    rw [if_pos inside] at done
    obtain ⟨_, middle, parents, done⟩ := Action.runIn_bind_eq_ok_iff.mp done
    have sameHere : middle.here = world.here := by
      have growing : (Action.makeParents (memberPath directory name)).Growing world.here
        world.cache (fun _ => True) (fun _ => True) := .makeParents fun _ _ => trivial
      have settled := (growing world rfl rfl).toSettled
      rw [parents] at settled
      exact settled.here
    have place (way : List String) : lead ((memberPath directory name).start world.here)
        (directory.parts ++ way) = lead (directory.place world.here) way :=
      Files.lead_append _ _ _
    cases content with
    | none =>
        have ways := Tree.hasDirectory_iff.mp (Action.makeUnlessThere_ok done)
        rw [sameHere] at ways
        have each (way : List String) (isWay : way <+: memberParts name) :
            after.tree.at? (lead (directory.place world.here) way) = some .directory := by
          rw [← place]
          exact ways _ ((List.prefix_append_right_inj _).mpr isWay)
        exact ⟨each _ List.prefix_rfl, fun way isWay _ => each way isWay⟩
    | some content =>
        obtain ⟨tree, written, rfl⟩ := Action.changeTree_eq_ok done
        obtain ⟨located, notDirectory, _, rfl⟩ := Tree.write_eq_ok written
        obtain ⟨_, ways⟩ := Tree.locate_eq_ok_iff.mp located
        rw [sameHere] at ways notDirectory ⊢
        rw [place_memberPath] at notDirectory ⊢
        have inner : lead (directory.place world.here) (memberParts name) ≠ [] :=
          fun root => notDirectory (by rw [root, Tree.at?_root])
        refine ⟨Tree.at?_put_self inner _, fun way isWay different => ?_⟩
        change (middle.tree.put _ _).at? _ = _
        rw [Tree.at?_put_other different, ← place]
        refine ways _ ((List.prefix_append_right_inj _).mpr isWay) fun whole => different ?_
        rw [List.append_cancel_left whole]

theorem writeMember_holds {members : Members}
    (ways : ∀ place, directory.OnWay world.here place →
      ¬Inside (directory.place world.here) place)
    (holds : Holds world.tree (directory.place world.here) members)
    (done : (writeMember directory name content).runIn world = (.ok (), after)) :
    Holds after.tree (directory.place world.here) (members ++ [(name, content)]) := by
  have grows := writeMember_grows directory name content world
  rw [done] at grows
  obtain ⟨there, directories⟩ := writeMember_ok done
  intro place inside
  rw [entryIn_append]
  by_cases same : lead (directory.place world.here) (memberParts name) = place
  · rw [if_pos same, ← same, there]
  rw [if_neg same, ← holds place inside]
  by_cases through : LeadsThrough (directory.place world.here) (memberParts name) place
  · rw [if_pos through]
    obtain ⟨way, isWay, rfl⟩ := through
    have isDirectory := directories way ((List.mem_inits _ _).mp isWay) (Ne.symm same)
    rw [isDirectory]
    cases before : world.tree.at? (lead (directory.place world.here) way) with
    | none => rfl
    | some entry =>
        have still := grows.tree.still (Ne.symm same) before
        rw [← still, isDirectory]
        rfl
  · rw [if_neg through, Option.or_none]
    refine grows.tree.unchanged (fun onWay => ?_) (Ne.symm same)
    rcases onWay_memberPath onWay with toDirectory | ⟨way, isWay, rfl⟩
    · exact ways place toDirectory inside
    · exact through ⟨way, (List.mem_inits _ _).mpr isWay, rfl⟩

theorem writeMembers_holds {done rest : Members}
    (ways : ∀ place, directory.OnWay world.here place →
      ¬Inside (directory.place world.here) place)
    (holds : Holds world.tree (directory.place world.here) done)
    (run : (writeMembers directory rest).runIn world = (.ok (), after)) :
    Holds after.tree (directory.place world.here) (done ++ rest) := by
  induction rest generalizing done world with
  | nil =>
      cases run
      rwa [List.append_nil]
  | cons member rest ih =>
      obtain ⟨_, middle, first, run⟩ := Action.runIn_bind_eq_ok_iff.mp run
      have sameHere := (writeMember_grows directory member.1 member.2 world).here
      rw [first] at sameHere
      have more := writeMember_holds ways holds first
      rw [← show middle.here = world.here from sameHere] at ways more ⊢
      have all := ih ways more run
      rwa [List.append_assoc] at all

end

end ContractLint.Runner
