import ContractLint.Proofs.Runner.Containment

/-! Which archive of a source is read for a runner: one at a path that names the runner, inside the
source, whatever an index says. -/

namespace ContractLint.Runner

open Files (Content Entry Inside IsName Members Path Place Tree lead)
open Json (Value)

/-- The path is a current or a legacy one of the runner. -/
def NamesRunner (kind hash name : String) : Prop :=
  name = currentPath kind hash ∨
    isLegacy name = true ∧ Text.endsWith name (legacyEnding kind hash) = true

/-- The source has an archive of the runner with these members. -/
inductive RunnerTar (world : World) (source : Path) (kind hash : String) (members : Members) : Prop
  | inBundle (name : String) (bundle runner : Content) (all : Members)
      (names : NamesRunner kind hash name)
      (found : world.tree.find? world.here source = some (.file bundle))
      (packed : bundle.packedMembers = .ok all)
      (named : Files.memberNamed? all name = some (some runner))
      (archive : runner.members = .ok members)
  | inTree (name : String) (runner : Content) (names : NamesRunner kind hash name)
      (isTree : world.tree.hasDirectory world.here source = true)
      (found : world.tree.find? world.here (source.child name) = some (.file runner))
      (archive : runner.members = .ok members)

section

variable {kind hash name : String}

theorem legacyPathAmong_ok {values : List Value}
    (found : legacyPathAmong kind hash values = .ok name) :
    name = currentPath kind hash ∨ .string name ∈ values ∧ NamesRunner kind hash name := by
  induction values with
  | nil =>
      cases found
      exact .inl rfl
  | cons value rest ih =>
      rw [legacyPathAmong] at found
      cases value with
      | string path =>
          change (if isLegacy path && Text.endsWith path (legacyEnding kind hash) then _ else _) = _
            at found
          split at found
          case isTrue legacy =>
            cases found
            exact .inr ⟨List.mem_cons_self, .inr (by simpa using legacy)⟩
          case isFalse =>
            exact (ih found).imp_right fun ⟨member, names⟩ => ⟨List.mem_cons_of_mem _ member, names⟩
      | _ => cases found

theorem pathByIndex_ok {index : Value} (found : pathByIndex index kind hash = .ok name) :
    NamesRunner kind hash name ∧ (name = currentPath kind hash ∨
      ∃ paths values, index.getOr kind (.array []) = .ok paths ∧ paths.elements = .ok values ∧
        .string name ∈ values) := by
  rw [pathByIndex] at found
  cases looked : index.getOr kind (.array []) with
  | error mismatch =>
      rw [looked] at found
      cases found
  | ok paths =>
      rw [looked] at found
      change (paths.mentions (currentPath kind hash) >>= _) = _ at found
      cases mentioned : paths.mentions (currentPath kind hash) with
      | error mismatch =>
          rw [mentioned] at found
          cases found
      | ok isMentioned =>
          rw [mentioned] at found
          cases isMentioned with
          | true =>
              cases found
              exact ⟨.inl rfl, .inl rfl⟩
          | false =>
              change (paths.elements >>= _) = _ at found
              cases elements : paths.elements with
              | error mismatch =>
                  rw [elements] at found
                  cases found
              | ok values =>
                  rw [elements] at found
                  rcases legacyPathAmong_ok found with current | ⟨member, names⟩
                  · exact ⟨.inl current, .inl current⟩
                  · exact ⟨names, .inr ⟨paths, values, rfl, elements, member⟩⟩

end

def Index.Within (index : Index) (paths : List String) : Prop :=
  ∀ entry ∈ index, ∀ path ∈ entry.2, path ∈ paths

theorem Index.Within.add {index : Index} {paths : List String} (within : index.Within paths)
    (kind : String) {path : String} (member : path ∈ paths) : (index.add kind path).Within paths := by
  have old : ∀ other ∈ (index.lookup kind).getD [], other ∈ paths := by
    intro other isOther
    cases found : index.lookup kind with
    | none => simp [found] at isOther
    | some stored =>
        obtain ⟨before, after, rfl, _⟩ := List.lookup_eq_some_iff.mp found
        exact within (kind, stored) (by simp) other (by simpa [found] using isOther)
  have new : ∀ other ∈ (index.lookup kind).getD [] ++ [path], other ∈ paths := by
    intro other isOther
    rcases List.mem_append.mp isOther with isOld | isNew
    · exact old other isOld
    · rwa [List.mem_singleton.mp isNew]
  rw [Index.add, setEntry]
  split
  · intro entry isEntry
    obtain ⟨⟨name, stored⟩, isStored, rfl⟩ := List.mem_map.mp isEntry
    by_cases same : name = kind
    · simpa [same] using new
    · simpa [same] using within _ isStored
  · intro entry isEntry
    rcases List.mem_append.mp isEntry with isOld | isNew
    · exact within entry isOld
    · rw [List.mem_singleton.mp isNew]
      exact new

theorem Index.ofPaths_within (paths : List String) : (Index.ofPaths paths).Within paths := by
  have nothing : Index.Within [] paths := nofun
  refine List.foldlRecOn (motive := fun index : Index => index.Within paths) paths _ nothing
    fun index within path member => ?_
  split
  · exact within.add _ member
  · exact within

theorem pathByIndex_ofPaths {kind hash name : String} {paths : List String}
    (found : pathByIndex (Index.ofPaths paths).json kind hash = .ok name) :
    NamesRunner kind hash name ∧ (name = currentPath kind hash ∨ name ∈ paths) := by
  obtain ⟨names, current | ⟨stored, values, looked, elements, member⟩⟩ := pathByIndex_ok found
  · exact ⟨names, .inl current⟩
  refine ⟨names, .inr ?_⟩
  change Except.ok ((((Index.ofPaths paths).map fun entry =>
    (entry.1, Value.array (entry.2.map .string))).lookup kind).getD (.array [])) = .ok stored
      at looked
  cases Except.ok.inj looked
  cases isKept : ((Index.ofPaths paths).map fun entry =>
      (entry.1, Value.array (entry.2.map .string))).lookup kind with
  | none =>
      rw [isKept] at elements
      cases elements
      cases member
  | some kept =>
      obtain ⟨before, after, split, _⟩ := List.lookup_eq_some_iff.mp isKept
      obtain ⟨⟨_, texts⟩, isEntry, same⟩ :=
        List.mem_map.mp (split ▸ List.mem_append_right before List.mem_cons_self)
      cases same
      rw [isKept] at elements
      cases elements
      obtain ⟨_, isText, same⟩ := List.mem_map.mp member
      cases same
      exact Index.ofPaths_within paths _ isEntry name isText

theorem mem_placesLike {tree : Tree} {directory place : Place} {patterns : List String}
    (member : place ∈ placesLike tree directory patterns) :
    (tree.at? (directory ++ place)).isSome := by
  rw [placesLike, List.mem_mergeSort, List.mem_filter, List.mem_map] at member
  obtain ⟨⟨⟨found, entry⟩, isBelow, rfl⟩, _⟩ := member
  obtain ⟨isEntry, isInside⟩ := List.mem_filter.mp isBelow
  simp only [Bool.and_eq_true, List.isPrefixOf_iff_prefix, bne_iff_ne] at isInside
  obtain ⟨⟨rest, rfl⟩, different⟩ := isInside
  have inner : directory ++ rest ≠ [] := by
    rintro nothing
    simp_all
  dsimp only
  rw [List.drop_left, Tree.at?_of_ne inner, List.lookup_isSome_iff]
  exact ⟨_, isEntry, by simp⟩

theorem mem_runnerPlaces {tree : Tree} {root place : Place} (member : place ∈ runnerPlaces tree root) :
    place ≠ [] ∧ (tree.at? (root ++ place)).isSome := by
  rcases List.mem_append.mp member with isCurrent | isLegacy
  · obtain ⟨rest, isRest, rfl⟩ := List.mem_map.mp isCurrent
    have there := mem_placesLike isRest
    rw [List.append_assoc] at there
    exact ⟨by simp, there⟩
  · obtain ⟨rest, isRest, rfl⟩ := List.mem_map.mp isLegacy
    have there := mem_placesLike isRest
    rw [List.append_assoc] at there
    exact ⟨by simp, there⟩

theorem depth?_names {parts : List String} (areNames : ∀ part ∈ parts, IsName part) (depth : Nat) :
    depth? depth parts = some (depth + parts.length) := by
  induction parts generalizing depth with
  | nil => rfl
  | cons part parts ih =>
      have isName := areNames part List.mem_cons_self
      rw [depth?, List.foldlM_cons, deeper?, if_neg isName.notAbove, if_neg isName.notHere]
      refine (ih (fun other member => areNames other (List.mem_cons_of_mem _ member)) _).trans ?_
      rw [List.length_cons, Nat.add_right_comm, Nat.add_assoc]

theorem descends_joinWith {names : List String} (inner : names ≠ [])
    (areNames : ∀ name ∈ names, IsName name) : Descends (Text.joinWith "/" names) := by
  rw [Descends, Path.ofText_joinWith inner (fun name member => (areNames name member).single)
    fun name member => ⟨(areNames name member).inner, (areNames name member).notHere⟩]
  refine ⟨rfl, names.length - 1, ?_⟩
  have positive := List.length_pos_of_ne_nil inner
  rw [depth?_names areNames, Nat.zero_add]
  congr 1
  omega

theorem slash_notMem_firstChars {hash : String} (single : '/' ∉ hash.toList) :
    '/' ∉ (Text.firstChars hash 2).toList := by
  rw [Text.firstChars, String.toList_ofList]
  exact fun member => single (List.mem_of_mem_take member)

theorem slash_notMem_afterChars {hash : String} (single : '/' ∉ hash.toList) :
    '/' ∉ (Text.afterChars hash 2 ++ ".tar").toList := by
  rw [String.toList_append, List.mem_append, Text.afterChars, String.toList_ofList]
  rintro (member | member)
  · exact single (List.mem_of_mem_drop member)
  · revert member
    decide

theorem descends_currentPath {kind hash : String} (isKind : IsName kind) (isHash : IsName hash) :
    Descends (currentPath kind hash) := by
  have pieces : currentPath kind hash = Text.joinWith "/"
      ["runners", kind, Text.firstChars hash 2, Text.afterChars hash 2 ++ ".tar"] := by
    simp [currentPath, hashPath, Text.joinWith, String.intercalate_cons_cons, String.append_assoc]
  have firstSingle := slash_notMem_firstChars isHash.single
  have firstKept : Text.firstChars hash 2 ≠ "" ∧ Text.firstChars hash 2 ≠ "." := by
    rw [Text.firstChars, ← String.toList_inj.ne, ← String.toList_inj.ne, String.toList_ofList]
    have inner := isHash.inner
    have notHere := isHash.notHere
    rw [← String.toList_inj.ne] at inner notHere
    rcases chars : hash.toList with _ | ⟨c, _ | ⟨d, rest⟩⟩ <;> simp_all
  have isLonger (other : String) (short : other.length < 4) :
      Text.afterChars hash 2 ++ ".tar" ≠ other := by
    rintro rfl
    rw [String.length_append] at short
    exact absurd short (Nat.not_lt.mpr (Nat.le_add_left 4 _))
  have notEmpty := isLonger "" (by decide)
  have notHere := isLonger "." (by decide)
  have notAbove := isLonger ".." (by decide)
  have lastSingle := slash_notMem_afterChars isHash.single
  rw [Descends, pieces, Path.ofText_joinWith (by simp) (by simp_all [isKind.single])
    (by simp_all [isKind.inner, isKind.notHere])]
  refine ⟨rfl, ?_⟩
  by_cases up : Text.firstChars hash 2 = ".."
  · exact ⟨1, by simp [depth?, deeper?, isKind.notHere, isKind.notAbove, up, notHere, notAbove]⟩
  · exact ⟨3, by simp [depth?, deeper?, isKind.notHere, isKind.notAbove, up, firstKept.2, notHere,
      notAbove]⟩

/-- Nothing was changed in the source nor on the way to it. -/
structure SameSource (source : Path) (world after : World) : Prop where
  here : after.here = world.here
  ways : ∀ place, source.OnWay world.here place → after.tree.at? place = world.tree.at? place
  inside : ∀ place, Inside (source.place world.here) place →
    after.tree.at? place = world.tree.at? place

section

variable {source : Path} {world after : World}

theorem SameSource.hasDirectory (same : SameSource source world after) :
    after.tree.hasDirectory after.here source = world.tree.hasDirectory world.here source := by
  rw [same.here]
  exact Tree.hasDirectory_congr same.ways

theorem SameSource.find? (same : SameSource source world after) :
    after.tree.find? after.here source = world.tree.find? world.here source := by
  rw [same.here]
  exact Tree.find?_congr same.ways

theorem SameSource.find?_child (same : SameSource source world after) {name : String}
    (descends : Descends name) : after.tree.find? after.here (source.child name) =
      world.tree.find? world.here (source.child name) := by
  rw [same.here]
  refine Tree.find?_congr fun place onWay => ?_
  rcases descends.onWay source world.here onWay with toSource | isInside
  · exact same.ways place toSource
  · exact same.inside place isInside

theorem place_indexPath (source : Path) (here : Place) : (indexPath source).place here =
    lead (source.start here) source.parts.dropLast ++ [source.name ++ ".index-v2.json"] := by
  have isLonger (other : String) (short : other.length < 14) :
      source.name ++ ".index-v2.json" ≠ other := by
    rintro rfl
    rw [String.length_append] at short
    exact absurd short (Nat.not_lt.mpr (Nat.le_add_left 14 _))
  change lead (source.start here) (source.parts.dropLast ++ [_]) = _
  rw [Files.lead_append]
  exact Files.step_down (isLonger ".." (by decide)) (isLonger "." (by decide)) _

theorem indexPath_place_ne (source : Path) (here : Place) :
    (indexPath source).place here ≠ source.place here := by
  rw [place_indexPath, Path.place, Path.name]
  rcases source.parts.eq_nil_or_concat' with nothing | ⟨above, last, whole⟩
  · simp [nothing, lead]
  · rw [whole, List.dropLast_concat, List.getLast?_concat, Option.getD_some, Files.lead_append]
    generalize lead (source.start here) above = area
    intro same
    change area ++ [_] = Files.step area last at same
    rw [Files.step] at same
    split at same
    · have length := congrArg List.length same
      rw [List.length_append, List.length_dropLast, List.length_singleton] at length
      omega
    · split at same
      · simp at same
      · have equal := congrArg String.length (List.cons.inj (List.append_cancel_left same)).1
        rw [String.length_append] at equal
        exact absurd (Nat.left_eq_add.mp equal.symm) (by decide)

theorem source_near_index (source : Path) (here : Place) :
    source.place here <+: lead (source.start here) source.parts.dropLast ∨
      lead (source.start here) source.parts.dropLast <+: source.place here := by
  rw [Path.place]
  rcases source.parts.eq_nil_or_concat' with nothing | ⟨above, last, whole⟩
  · rw [nothing]
    exact .inl List.prefix_rfl
  · rw [whole, List.dropLast_concat, Files.lead_append]
    change Files.step _ last <+: _ ∨ _ <+: Files.step _ last
    rw [Files.step]
    split
    · exact .inl (List.dropLast_prefix _)
    · split
      · exact .inl List.prefix_rfl
      · exact .inr (List.prefix_append _ _)

theorem exists_at?_of_found (found : (world.tree.find? world.here source).isSome) {place : Place}
    (onWay : source.OnWay world.here place) : ∃ entry, world.tree.at? place = some entry ∧
      (entry = .directory ∨ place = source.place world.here) := by
  obtain ⟨entry, isEntry⟩ := Option.isSome_iff_exists.mp found
  obtain ⟨there, directories⟩ := Tree.find?_eq_some_iff.mp isEntry
  obtain ⟨way, isWay, rfl⟩ := onWay
  by_cases whole : way = source.parts
  · exact ⟨entry, whole ▸ there, .inr (whole ▸ rfl)⟩
  · exact ⟨.directory, directories way isWay whole, .inl rfl⟩

theorem not_directory_of_bundle (found : (world.tree.find? world.here source).isSome)
    (isBundle : world.tree.hasDirectory world.here source = false) :
    world.tree.at? (source.place world.here) ≠ some .directory := by
  intro isDirectory
  obtain ⟨entry, isEntry⟩ := Option.isSome_iff_exists.mp found
  cases isDirectory.symm.trans (Tree.find?_eq_some_iff.mp isEntry).1
  rw [Tree.hasDirectory_iff_find?.mpr isEntry] at isBundle
  cases isBundle

theorem SameSource.grown {middle : World} {made written : Place → Prop}
    (same : SameSource source world middle) (grows : World.Grows made written middle after)
    (found : (world.tree.find? world.here source).isSome) (based : world.tree.Based)
    (stillBased : middle.tree.Based) (itself : ¬written (source.place world.here))
    (inside : world.tree.hasDirectory world.here source = true →
      ∀ place, Inside (source.place world.here) place → ¬made place ∧ ¬written place) :
    SameSource source world after := by
  have ways (place : Place) (onWay : source.OnWay world.here place) :
      after.tree.at? place = world.tree.at? place := by
    obtain ⟨entry, there, rfl | rfl⟩ := exists_at?_of_found found onWay
    · rw [there, grows.tree.directory ((same.ways place onWay).trans there)]
    · rw [there, grows.tree.still itself ((same.ways _ onWay).trans there)]
  refine ⟨grows.here.trans same.here, ways, fun place isInside => ?_⟩
  cases isTree : world.tree.hasDirectory world.here source with
  | true =>
      obtain ⟨notMade, notWritten⟩ := inside isTree place isInside
      rw [grows.tree.unchanged notMade notWritten, same.inside place isInside]
  | false =>
      have notDirectory := not_directory_of_bundle found isTree
      rw [based.nothing_inside notDirectory isInside]
      rw [← ways _ (source.onWay_place _)] at notDirectory
      exact (grows.tree.isBased stillBased).nothing_inside notDirectory isInside

end

section

variable {source : Path} {kind hash name : String} {world reading after : World} {members : Members}

theorem findPath_ok (done : (findPath source kind hash).runIn reading = (.ok name, after)) :
    ∃ index, ((indexOf source).runIn reading) = (.ok index, after) ∧
      pathByIndex index kind hash = .ok name := by
  obtain ⟨index, middle, asked, done⟩ := Action.runIn_bind_eq_ok_iff.mp done
  obtain ⟨rfl, found⟩ := Action.attempt_ok done
  exact ⟨index, asked, found⟩

theorem orNotArchive_ok {α : Type} {result : Except String α} {value : α}
    (done : (orNotArchive result).runIn reading = (.ok value, after)) : result = .ok value := by
  cases result with
  | ok found =>
      cases done
      rfl
  | error problem => cases done

theorem findPath_descends (isKind : IsName kind) (isHash : IsName hash)
    (isTree : reading.tree.hasDirectory reading.here source = true)
    (names : ∀ place, Inside (source.place reading.here) place → reading.tree.at? place ≠ none →
      ∀ name ∈ place, IsName name)
    (done : (findPath source kind hash).runIn reading = (.ok name, after)) : Descends name := by
  obtain ⟨index, asked, found⟩ := findPath_ok done
  simp only [indexOf, Action.hasDirectory, Action.runIn_bind, Action.runIn_ask, isTree, if_true]
    at asked
  have made := Action.onTree_eq_ok (congrArg Prod.fst asked)
  rw [Tree.locate_of_hasDirectory isTree] at made
  obtain rfl := Except.ok.inj made
  rcases (pathByIndex_ofPaths found).2 with rfl | member
  · exact descends_currentPath isKind isHash
  · obtain ⟨place, isPlace, rfl⟩ := List.mem_map.mp member
    obtain ⟨inner, there⟩ := mem_runnerPlaces isPlace
    refine descends_joinWith inner fun name isName => ?_
    refine names (source.place reading.here ++ place) ⟨List.prefix_append _ _, ?_⟩ ?_ name ?_
    · rwa [Ne, List.append_right_eq_self]
    · exact Option.isSome_iff_ne_none.mp there
    · exact List.mem_append_right _ isName

theorem runnerTar_of_read (isKind : IsName kind) (isHash : IsName hash)
    (found : (world.tree.find? world.here source).isSome) (sound : world.tree.Sound)
    (based : reading.tree.Based) (same : SameSource source world reading)
    (done : ((runnerMembers source kind hash).runIn reading).1 = .ok members) :
    RunnerTar world source kind hash members := by
  obtain ⟨name, middle, path, done⟩ :=
    Action.runIn_bind_eq_ok_iff.mp (Prod.ext done rfl : (runnerMembers source kind hash).runIn
      reading = (.ok members, ((runnerMembers source kind hash).runIn reading).2))
  have isNamed : NamesRunner kind hash name := by
    obtain ⟨_, _, looked⟩ := findPath_ok path
    exact (pathByIndex_ok looked).1
  -- The path is looked up first, and that may keep an index beside a bundle.
  have still : SameSource source world middle := by
    have grows := findPath_grows (fun _ => False) source kind hash reading
    rw [path] at grows
    refine same.grown grows found sound.based based (fun isIndex => ?_) fun isTree _ _ => ⟨id, ?_⟩
    · exact indexPath_place_ne source world.here (same.here ▸ isIndex.2.symm)
    · rintro ⟨isBundle, _⟩
      rw [same.hasDirectory, isTree] at isBundle
      cases isBundle
  simp only [Action.hasDirectory, Action.runIn_bind, Action.runIn_ask, still.hasDirectory] at done
  split at done
  case isTrue isTree =>
    obtain ⟨content, _, read, done⟩ := Action.runIn_bind_eq_ok_iff.mp done
    have there := Tree.find?_of_read (Action.onTree_eq_ok (congrArg Prod.fst read))
    have descends : Descends name := by
      refine findPath_descends isKind isHash (same.hasDirectory.trans isTree) ?_ path
      rw [same.here]
      intro place isInside
      rw [same.inside place isInside]
      exact sound.names place
    rw [still.find?_child descends] at there
    exact .inTree name content isNamed isTree there (orNotArchive_ok done)
  case isFalse =>
    obtain ⟨content, _, read, done⟩ := Action.runIn_bind_eq_ok_iff.mp done
    have there := Tree.find?_of_read (Action.onTree_eq_ok (congrArg Prod.fst read))
    rw [still.find?] at there
    obtain ⟨all, _, unpacked, done⟩ := Action.runIn_bind_eq_ok_iff.mp done
    split at done
    case h_1 => cases done
    case h_2 => cases done
    case h_3 runner named =>
      exact .inBundle name content runner all isNamed there (orNotArchive_ok unpacked) named
        (orNotArchive_ok done)

end

end ContractLint.Runner
