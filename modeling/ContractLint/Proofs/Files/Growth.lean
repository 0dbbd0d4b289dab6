import ContractLint.Proofs.Files.Places

/-! Trees that grow: new directories where nothing was, and files where no directory is. Whatever
was a directory stays one, so a path that could be followed still can. -/

namespace ContractLint.Files.Tree

/-- The second tree has grown from the first one: directories were made at some of these places and
files were written at some of those. What is new stands in a directory. -/
structure Grows (made written : Place → Prop) (tree grown : Tree) : Prop where
  each : ∀ place, grown.at? place = tree.at? place ∨
    (made place ∧ tree.at? place = none ∧ grown.at? place = some .directory) ∨
    (written place ∧ tree.at? place ≠ some .directory ∧
      ∃ content, grown.at? place = some (.file content))
  based : ∀ place, tree.at? place = none → grown.at? place ≠ none →
    grown.at? place.dropLast = some .directory

def Undisturbed (place : Place) (tree after : Tree) : Prop :=
  after.at? place = tree.at? place ∨ tree.at? place = none ∧ after.at? place = some .directory

namespace Grows

variable {made written : Place → Prop} {tree grown last : Tree} {place here : Place} {path : Path}

theorem refl (tree : Tree) : Grows made written tree tree :=
  ⟨fun _ => .inl rfl, fun _ absent there => absurd absent there⟩

theorem directory (grows : Grows made written tree grown)
    (isDirectory : tree.at? place = some .directory) : grown.at? place = some .directory := by
  rcases grows.each place with same | ⟨_, absent, _⟩ | ⟨_, notDirectory, _⟩
  · rw [same, isDirectory]
  · rw [isDirectory] at absent
    cases absent
  · exact absurd isDirectory notDirectory

theorem trans (first : Grows made written tree grown) (second : Grows made written grown last) :
    Grows made written tree last where
  each place := by
    rcases first.each place with
      same | ⟨isMade, absent, there⟩ | ⟨isWritten, notDirectory, content, there⟩
    · rw [← same]
      exact second.each place
    · exact .inr (.inl ⟨isMade, absent, second.directory there⟩)
    · rcases second.each place with same | ⟨_, stillAbsent, _⟩ | ⟨_, _, written⟩
      · exact .inr (.inr ⟨isWritten, notDirectory, content, same.trans there⟩)
      · rw [there] at stillAbsent
        cases stillAbsent
      · exact .inr (.inr ⟨isWritten, notDirectory, written⟩)
  based place absent there := by
    by_cases stillAbsent : grown.at? place = none
    · exact second.based place stillAbsent there
    · exact second.directory (first.based place absent stillAbsent)

theorem mono {alsoMade alsoWritten : Place → Prop} (grows : Grows made written tree grown)
    (moreMade : ∀ place, made place → alsoMade place)
    (moreWritten : ∀ place, written place → alsoWritten place) :
    Grows alsoMade alsoWritten tree grown where
  each place := (grows.each place).imp_right
    (.imp (.imp_left (moreMade place)) (.imp_left (moreWritten place)))
  based := grows.based

theorem still (grows : Grows made written tree grown) (notWritten : ¬written place) {entry : Entry}
    (there : tree.at? place = some entry) : grown.at? place = some entry := by
  rcases grows.each place with same | ⟨_, absent, _⟩ | ⟨isWritten, _⟩
  · rw [same, there]
  · rw [there] at absent
    cases absent
  · exact absurd isWritten notWritten

theorem unchanged (grows : Grows made written tree grown) (notMade : ¬made place)
    (notWritten : ¬written place) : grown.at? place = tree.at? place := by
  rcases grows.each place with same | ⟨isMade, _⟩ | ⟨isWritten, _⟩
  · exact same
  · exact absurd isMade notMade
  · exact absurd isWritten notWritten

theorem undisturbed (grows : Grows made written tree grown) (notWritten : ¬written place) :
    Undisturbed place tree grown := by
  rcases grows.each place with same | ⟨_, absent, isDirectory⟩ | ⟨isWritten, _⟩
  · exact .inl same
  · exact .inr ⟨absent, isDirectory⟩
  · exact absurd isWritten notWritten

theorem isBased (grows : Grows made written tree grown) (based : tree.Based) : grown.Based := by
  intro place there
  by_cases absent : tree.at? place = none
  · exact grows.based place absent there
  · exact grows.directory (based place absent)

theorem read (grows : Grows made written tree grown) (notWritten : ¬written (path.place here))
    {content : Content} (there : tree.read here path = .ok content) :
    grown.read here path = .ok content := by
  obtain ⟨found, ways⟩ := find?_eq_some_iff.mp (find?_of_read there)
  exact read_of_find? (find?_eq_some_iff.mpr ⟨grows.still notWritten found,
    fun way isWay different => grows.directory (ways way isWay different)⟩)

theorem hasDirectory (grows : Grows made written tree grown)
    (has : tree.hasDirectory here path = true) : grown.hasDirectory here path = true :=
  hasDirectory_iff.mpr fun way isWay => grows.directory (hasDirectory_iff.mp has way isWay)

theorem hasDirectory_eq (grows : Grows (fun _ => False) written tree grown) :
    grown.hasDirectory here path = tree.hasDirectory here path := by
  rw [Bool.eq_iff_iff, hasDirectory_iff, hasDirectory_iff]
  refine forall₂_congr fun way isWay => ⟨fun there => ?_, grows.directory⟩
  rcases grows.each (lead (path.start here) way) with same | ⟨impossible, _⟩ | ⟨_, _, content, isFile⟩
  · rwa [← same]
  · exact impossible.elim
  · cases there.symm.trans isFile

theorem isSome (grows : Grows made written tree grown) (there : (tree.at? place).isSome) :
    (grown.at? place).isSome := by
  rcases grows.each place with same | ⟨_, _, made⟩ | ⟨_, _, content, isFile⟩
  · rwa [same]
  · rw [made]
    rfl
  · rw [isFile]
    rfl

end Grows

variable {made written : Place → Prop} {tree after : Tree} {here : Place} {path : Path}

theorem makeDirectory_eq_ok_iff : tree.makeDirectory here path = .ok after ↔
    tree.locate here path = .ok (path.place here) ∧ tree.at? (path.place here) = none ∧
      tree.at? (path.place here).dropLast = some .directory ∧
      after = tree.put (path.place here) .directory := by
  rw [makeDirectory]
  cases located : tree.locate here path with
  | error fault => simp [bind, Except.bind]
  | ok place =>
      obtain ⟨rfl, _⟩ := locate_eq_ok_iff.mp located
      simp only [bind, Except.bind]
      split
      case h_1 found => simp [found, refuse]
      case h_2 absent isDirectory =>
        simp [absent, isDirectory, pure, Except.pure, eq_comm]
      case h_3 absent notDirectory =>
        simp only [refuse, reduceCtorEq, false_iff]
        rintro ⟨_, _, isDirectory, _⟩
        exact notDirectory isDirectory

theorem put_grows {place : Place} {entry : Entry}
    (allowed : (made place ∧ tree.at? place = none ∧ entry = .directory) ∨
      (written place ∧ tree.at? place ≠ some .directory ∧ ∃ content, entry = .file content))
    (isBased : tree.at? place = none → tree.at? place.dropLast = some .directory) :
    Grows made written tree (tree.put place entry) := by
  have inner : place ≠ [] := by
    rintro rfl
    rcases allowed with ⟨_, absent, _⟩ | ⟨_, notDirectory, _⟩
    · cases absent
    · exact notDirectory rfl
  constructor
  · intro other
    by_cases same : other = place
    · subst same
      rw [at?_put_self inner]
      rcases allowed with ⟨isMade, absent, rfl⟩ | ⟨isWritten, notDirectory, content, rfl⟩
      · exact .inr (.inl ⟨isMade, absent, rfl⟩)
      · exact .inr (.inr ⟨isWritten, notDirectory, content, rfl⟩)
    · exact .inl (at?_put_other same _)
  · intro other absent there
    by_cases same : other = place
    · subst same
      have above : other.dropLast ≠ other := by
        intro equal
        have length := congrArg List.length equal
        rw [List.length_dropLast] at length
        have := List.length_pos_of_ne_nil inner
        omega
      rw [at?_put_other above, isBased absent]
    · rw [at?_put_other same] at there
      exact absurd absent there

theorem makeDirectory_grows (done : tree.makeDirectory here path = .ok after)
    (isMade : made (path.place here)) : Grows made written tree after := by
  obtain ⟨_, absent, isDirectory, rfl⟩ := makeDirectory_eq_ok_iff.mp done
  exact put_grows (.inl ⟨isMade, absent, rfl⟩) fun _ => isDirectory

theorem write_eq_ok {content : Content} (done : tree.write here path content = .ok after) :
    tree.locate here path = .ok (path.place here) ∧
      tree.at? (path.place here) ≠ some .directory ∧
      (tree.at? (path.place here) = none →
        tree.at? (path.place here).dropLast = some .directory) ∧
      after = tree.put (path.place here) (.file content) := by
  rw [write] at done
  cases located : tree.locate here path with
  | error fault => simp [located, bind, Except.bind] at done
  | ok place =>
      obtain ⟨rfl, _⟩ := locate_eq_ok_iff.mp located
      simp only [located, bind, Except.bind] at done
      split at done
      case h_1 => cases done
      case h_2 old found =>
        simp only [pure, Except.pure, Except.ok.injEq] at done
        exact ⟨rfl, by simp [found], by simp [found], done.symm⟩
      case h_3 absent =>
        split at done
        case h_1 isDirectory =>
          simp only [pure, Except.pure, Except.ok.injEq] at done
          exact ⟨rfl, by simp [absent], fun _ => isDirectory, done.symm⟩
        case h_2 => cases done
        case h_3 => cases done

theorem write_of_there {name : String} (isName : IsName name) (content : Content)
    (there : tree.hasDirectory here path = true)
    (notDirectory : tree.at? (path.place here ++ [name]) ≠ some .directory) :
    tree.write here (path.child name) content =
      .ok (tree.put (path.place here ++ [name]) (.file content)) := by
  have isDirectory : tree.at? (path.place here) = some .directory :=
    hasDirectory_iff.mp there path.parts List.prefix_rfl
  simp only [write, locate_child isName there, bind, Except.bind]
  split
  · contradiction
  · rfl
  · rw [List.dropLast_concat, isDirectory]
    rfl

theorem write_grows {content : Content} (done : tree.write here path content = .ok after)
    (isWritten : written (path.place here)) : Grows made written tree after := by
  obtain ⟨_, notDirectory, isBased, rfl⟩ := write_eq_ok done
  exact put_grows (.inr ⟨isWritten, notDirectory, content, rfl⟩) isBased

theorem read_of_write {content : Content} (done : tree.write here path content = .ok after) :
    after.read here path = .ok content := by
  have grows : Grows (fun _ => True) (fun _ => True) tree after := write_grows done trivial
  obtain ⟨located, notDirectory, _, rfl⟩ := write_eq_ok done
  obtain ⟨_, ways⟩ := locate_eq_ok_iff.mp located
  refine read_of_find? (find?_eq_some_iff.mpr ⟨at?_put_self (fun root => ?_) _, ?_⟩)
  · rw [root] at notDirectory
    exact notDirectory rfl
  · exact fun way isWay different => grows.directory (ways way isWay different)

theorem write_of_read {old : Content} (there : tree.read here path = .ok old) (content : Content) :
    tree.write here path content = .ok (tree.put (path.place here) (.file content)) := by
  obtain ⟨found, ways⟩ := find?_eq_some_iff.mp (find?_of_read there)
  simp only [write, locate_eq_ok_iff.mpr ⟨rfl, ways⟩, bind, Except.bind, found]
  rfl

theorem hasDirectory_of_read {name : String} {content : Content} (isName : IsName name)
    (there : tree.read here (path.child name) = .ok content) : tree.hasDirectory here path = true := by
  obtain ⟨_, ways⟩ := find?_eq_some_iff.mp (find?_of_read there)
  rw [Path.child_name isName] at ways
  refine hasDirectory_iff.mpr fun way isWay => ways way (isWay.trans (List.prefix_append _ _)) ?_
  rintro rfl
  exact absurd isWay.length_le (by simp)

theorem hasDirectory_write {content : Content} {other : Path}
    (done : tree.write here path content = .ok after)
    (has : tree.hasDirectory here other = true) : after.hasDirectory here other = true := by
  have grows : Grows (fun _ => True) (fun _ => True) tree after := write_grows done trivial
  exact grows.hasDirectory has

end ContractLint.Files.Tree
