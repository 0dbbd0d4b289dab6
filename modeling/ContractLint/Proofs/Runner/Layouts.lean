import Mathlib.Data.List.Forall2
import ContractLint.Proofs.Entries
import ContractLint.Proofs.Runner.Freshness

/-! Where runners are kept and how they are found there. From the path of a runner its kind and its
hash can be read, in either layout and whatever the length of the hash. So an index has each runner
under its kind, the lookup of a hash finds a runner with that hash, and so does the lookup of the
latest one. -/

namespace ContractLint.Runner

open Files (Content IsName Path Place Tree)
open Json (Value)

/-- Runners are kept by themselves, or below the executor of an older version. -/
inductive Layout
  | current
  | legacy (version : String)
deriving DecidableEq

structure Stored where
  layout : Layout
  kind : String
  hash : String
deriving DecidableEq

namespace Stored

def path : Stored → String
  | ⟨.current, kind, hash⟩ => currentPath kind hash
  | ⟨.legacy version, kind, hash⟩ => "executor/" ++ version ++ legacyEnding kind hash

def place : Stored → Place
  | ⟨.current, kind, hash⟩ =>
    ["runners", kind, Text.firstChars hash 2, Text.afterChars hash 2 ++ ".tar"]
  | ⟨.legacy version, kind, hash⟩ =>
    ["executor", version, "legacy-runners", kind, Text.firstChars hash 2,
      Text.afterChars hash 2 ++ ".tar"]

/-- No name on the way has a slash in it. -/
structure Plain (stored : Stored) : Prop where
  kind : '/' ∉ stored.kind.toList
  hash : '/' ∉ stored.hash.toList
  version : ∀ version, stored.layout = .legacy version → '/' ∉ version.toList

def start : Stored → String
  | ⟨.current, kind, _⟩ => "runners/" ++ kind
  | ⟨.legacy version, kind, _⟩ => "executor/" ++ version ++ "/legacy-runners/" ++ kind

theorem path_current (kind hash : String) :
    path ⟨.current, kind, hash⟩ = currentPath kind hash := rfl

theorem path_legacy (version kind hash : String) :
    path ⟨.legacy version, kind, hash⟩ =
      "executor/" ++ version ++ ("/legacy-runners/" ++ kind ++ "/" ++ hashPath hash) := rfl

theorem start_legacy (version kind hash : String) :
    start ⟨.legacy version, kind, hash⟩ = "executor/" ++ version ++ "/legacy-runners/" ++ kind := rfl

theorem path_eq (stored : Stored) :
    stored.path = stored.start ++ "/" ++ hashPath stored.hash := by
  obtain ⟨_ | version, kind, hash⟩ := stored
  · rfl
  · simp only [path_legacy, start_legacy, String.append_assoc]

theorem joinWith_place (stored : Stored) : Text.joinWith "/" stored.place = stored.path := by
  apply String.toList_inj.mp
  obtain ⟨_ | version, kind, hash⟩ := stored
  · simp [place, path, currentPath, hashPath, Text.joinWith, String.intercalate_cons_cons]
  · simp [place, path_legacy, hashPath, Text.joinWith, String.intercalate_cons_cons]

end Stored

theorem hashOf?_append (start : String) {hash : String} (single : '/' ∉ hash.toList) :
    hashOf? (start ++ "/" ++ hashPath hash) = some hash := by
  have pieces : Text.splitAt (start ++ "/" ++ hashPath hash) '/' =
      Text.splitAt start '/' ++ [Text.firstChars hash 2, Text.afterChars hash 2 ++ ".tar"] := by
    have chars : (start ++ "/" ++ hashPath hash).toList = start.toList ++ '/' ::
        ((Text.firstChars hash 2).toList ++ '/' ::
          (Text.afterChars hash 2 ++ ".tar").toList) := by
      simp [hashPath]
    rw [Text.splitAt, chars, Text.splitChars_append, Text.splitChars_append,
      Text.splitChars_of_absent (slash_notMem_firstChars single),
      Text.splitChars_of_absent (slash_notMem_afterChars single)]
    simp [Text.splitAt]
  have whole : Text.firstChars hash 2 ++ Text.afterChars hash 2 = hash := by
    rw [Text.firstChars, Text.afterChars, ← String.ofList_append, List.take_append_drop,
      String.ofList_toList]
  simp [hashOf?, pieces, Text.withoutEnding_append, whole]

namespace Stored

variable {stored other : Stored}

theorem endsWith_path (stored : Stored) : Text.endsWith stored.path ".tar" = true := by
  rw [Text.endsWith, List.isSuffixOf_iff_suffix]
  exact ⟨(stored.start ++ "/" ++ Text.firstChars stored.hash 2 ++ "/" ++
    Text.afterChars stored.hash 2).toList, by simp [path_eq, hashPath]⟩

theorem hashOf?_path (plain : stored.Plain) : hashOf? stored.path = some stored.hash := by
  rw [path_eq]
  exact hashOf?_append stored.start plain.hash

theorem isCurrent_path_iff : isCurrent stored.path = true ↔ stored.layout = .current := by
  obtain ⟨_ | version, kind, hash⟩ := stored
  · simp [isCurrent, path, currentPath, Text.startsWith]
  · simp [isCurrent, path_legacy, Text.startsWith]

theorem isLegacy_path_iff : isLegacy stored.path = true ↔ stored.layout ≠ .current := by
  obtain ⟨_ | version, kind, hash⟩ := stored
  · simp [isLegacy, path, currentPath, Text.startsWith]
  · simp [isLegacy, path_legacy, Text.startsWith]

theorem splitAt_path (plain : stored.Plain) : Text.splitAt stored.path '/' = stored.place := by
  obtain ⟨layout, kind, hash⟩ := stored
  have first := slash_notMem_firstChars plain.hash
  have after := slash_notMem_afterChars plain.hash
  rw [← joinWith_place]
  cases layout with
  | current =>
      refine Text.splitAt_joinWith (by simp [place]) ?_
      simp only [place, List.forall_mem_cons]
      exact ⟨by decide, plain.kind, first, after, by simp⟩
  | legacy version =>
      refine Text.splitAt_joinWith (by simp [place]) ?_
      simp only [place, List.forall_mem_cons]
      exact ⟨by decide, plain.version version rfl, by decide, plain.kind, first, after, by simp⟩

theorem kindOf?_path (plain : stored.Plain) : kindOf? stored.path = some stored.kind := by
  rw [kindOf?, splitAt_path plain, endsWith_path]
  obtain ⟨_ | version, kind, hash⟩ := stored
  · have current : isCurrent (path ⟨.current, kind, hash⟩) = true := isCurrent_path_iff.mpr rfl
    simp [current, place]
  · have notCurrent : isCurrent (path ⟨.legacy version, kind, hash⟩) ≠ true := by
      simp [isCurrent_path_iff]
    have legacy : isLegacy (path ⟨.legacy version, kind, hash⟩) = true := by
      simp [isLegacy_path_iff]
    simp [notCurrent, legacy, place]

theorem eq_of_path (plain : stored.Plain) (alsoPlain : other.Plain)
    (same : stored.path = other.path) : stored = other := by
  have hashes := (hashOf?_path plain).symm.trans (same ▸ hashOf?_path alsoPlain)
  have places := (splitAt_path plain).symm.trans (same ▸ splitAt_path alsoPlain)
  obtain ⟨_ | version, kind, hash⟩ := stored <;>
    obtain ⟨_ | otherVersion, otherKind, otherHash⟩ := other
  all_goals simp_all [place]

end Stored

/-! Indexes. -/

namespace Index

/-- What an index has for a kind. -/
def paths (index : Index) (kind : String) : List String := (index.lookup kind).getD []

theorem paths_add (index : Index) (kind path other : String) :
    (index.add kind path).paths other =
      if other = kind then index.paths kind ++ [path] else index.paths other := by
  rw [paths, add, lookup_setEntry]
  split <;> rfl

theorem paths_ofPaths (names : List String) (kind : String) :
    (ofPaths names).paths kind = names.filter (kindOf? · = some kind) := by
  -- The index is made path by path, so the induction takes the last path away.
  induction names using List.reverseRecOn with
  | nil => rfl
  | append_singleton names path ih =>
      have last : ofPaths (names ++ [path]) = _ := List.foldl_append
      rw [last, List.foldl_cons, List.foldl_nil, ← ofPaths, List.filter_append, ← ih]
      cases found : kindOf? path with
      | none => simp [found]
      | some other =>
          by_cases same : other = kind
          · simp [paths_add, found, same]
          · simp [paths_add, found, same, Ne.symm same]

theorem getOr_json (index : Index) (kind : String) :
    index.json.getOr kind (.array []) = .ok (.array ((index.paths kind).map .string)) := by
  change Except.ok (((index.map fun entry =>
    (entry.1, Value.array (entry.2.map .string))).lookup kind).getD (.array [])) = _
  rw [lookup_map_values index fun _ paths => Value.array (paths.map .string), paths]
  cases index.lookup kind <;> rfl

end Index

theorem legacyPathAmong_strings (kind hash : String) (paths : List String) :
    legacyPathAmong kind hash (paths.map .string) =
      .ok ((paths.find? fun path => isLegacy path && Text.endsWith path (legacyEnding kind hash)).getD
        (currentPath kind hash)) := by
  induction paths with
  | nil => rfl
  | cons path rest ih =>
      rw [List.map_cons, legacyPathAmong, List.find?_cons]
      change (if isLegacy path && Text.endsWith path (legacyEnding kind hash) then _ else _) = _
      cases isLegacy path && Text.endsWith path (legacyEnding kind hash) with
      | true => rfl
      | false => exact ih

theorem pathByIndex_json (index : Index) (kind hash : String) :
    pathByIndex index.json kind hash = .ok (choosePath (index.paths kind) kind hash) := by
  have mentions : (Value.array ((index.paths kind).map .string)).mentions (currentPath kind hash) =
      .ok ((index.paths kind).contains (currentPath kind hash)) := by
    rw [Value.mentions, List.any_map, List.contains_eq_any_beq]
    congr 2
    funext path
    exact Bool.decide_congr eq_comm
  simp only [pathByIndex, Index.getOr_json, choosePath, bind, Except.bind, mentions]
  cases (index.paths kind).contains (currentPath kind hash) with
  | true => rfl
  | false => exact legacyPathAmong_strings kind hash _

theorem latestByIndex?_json (index : Index) (kind : String) :
    latestByIndex? index.json kind =
      match latestPath? (index.paths kind) with
      | none => .ok none
      | some path =>
        match hashOf? path with
        | some hash => .ok (some hash)
        | none => .error .outOfRange := by
  have texts (paths : List String) :
      ((paths.map Value.string).mapM fun path => path.asText "startswith") = .ok paths := by
    induction paths with
    | nil => rfl
    | cons path rest ih =>
        rw [List.map_cons, List.mapM_cons, ih]
        rfl
  rw [latestByIndex?, Index.getOr_json]
  change (if !(Value.array ((index.paths kind).map .string)).holds then _ else
    (((index.paths kind).map Value.string).mapM fun path => path.asText "startswith") >>= _) = _
  rw [texts]
  cases index.paths kind with
  | nil => rfl
  | cons path rest => rfl

/-! Lookups. -/

/-- The index has the runners, each under its kind, and nothing else. -/
def Index.Holds (index : Index) (stored : List Stored) : Prop :=
  ∀ kind path, path ∈ index.paths kind ↔ ∃ runner ∈ stored, runner.kind = kind ∧ runner.path = path

/-- The path is in the index and has the hash, and it is a current one if the runner has one. -/
structure Located (index : Index) (stored : List Stored) (kind hash path : String) : Prop where
  listed : path ∈ index.paths kind
  isHash : hashOf? path = some hash
  current : isCurrent path = true ↔ ⟨.current, kind, hash⟩ ∈ stored

/-- The hash of the last current path, or of the last path if none is current. -/
inductive Latest (paths : List String) : Option String → Prop
  | nothing (empty : paths = []) : Latest paths none
  | current {before after : List String} {path hash : String}
      (split : paths = before ++ path :: after) (isLast : isCurrent path = true)
      (others : ∀ other ∈ after, isCurrent other = false) (isHash : hashOf? path = some hash) :
      Latest paths (some hash)
  | legacy {before : List String} {path hash : String} (split : paths = before ++ [path])
      (others : ∀ other ∈ paths, isCurrent other = false) (isHash : hashOf? path = some hash) :
      Latest paths (some hash)

theorem latest_latestPath? {paths : List String} (hashes : ∀ path ∈ paths, (hashOf? path).isSome) :
    Latest paths ((latestPath? paths).bind hashOf?) := by
  rw [latestPath?]
  cases lastCurrent : (paths.filter isCurrent).getLast? with
  | some path =>
      obtain ⟨_, split⟩ := List.getLast?_eq_some_iff.mp lastCurrent
      obtain ⟨before, rest, rfl, _, isRest⟩ := List.filter_eq_append_iff.mp split
      obtain ⟨legacy, after, rfl, _, isLast, others⟩ := List.filter_eq_cons_iff.mp isRest
      obtain ⟨hash, isHash⟩ := Option.isSome_iff_exists.mp (hashes path (by simp))
      rw [Option.some_or, Option.bind_some, isHash]
      refine .current (List.append_assoc before legacy _).symm isLast (fun other member => ?_) isHash
      simpa using List.filter_eq_nil_iff.mp others other member
  | none =>
      have others := List.filter_eq_nil_iff.mp (List.getLast?_eq_none_iff.mp lastCurrent)
      rw [Option.none_or]
      cases last : paths.getLast? with
      | none => exact .nothing (List.getLast?_eq_none_iff.mp last)
      | some path =>
          obtain ⟨before, split⟩ := List.getLast?_eq_some_iff.mp last
          obtain ⟨hash, isHash⟩ := Option.isSome_iff_exists.mp (hashes path (by simp [split]))
          rw [Option.bind_some, isHash]
          exact .legacy split (fun other member => by simpa using others other member) isHash

theorem Latest.exists_path {paths : List String} {hash : String}
    (latest : Latest paths (some hash)) : ∃ path ∈ paths, hashOf? path = some hash := by
  cases latest with
  | current split _ _ isHash => exact ⟨_, by simp [split], isHash⟩
  | legacy split _ isHash => exact ⟨_, by simp [split], isHash⟩

section

variable {index : Index} {stored : List Stored}

theorem hashOf?_of_endsWith {path kind hash : String} (single : '/' ∉ hash.toList)
    (ends : Text.endsWith path (legacyEnding kind hash) = true) : hashOf? path = some hash := by
  rw [Text.endsWith, List.isSuffixOf_iff_suffix] at ends
  obtain ⟨before, ends⟩ := ends
  have pieces : path = String.ofList before ++ "/legacy-runners/" ++ kind ++ "/" ++ hashPath hash := by
    apply String.toList_inj.mp
    rw [← ends]
    unfold legacyEnding
    simp
  rw [pieces]
  exact hashOf?_append _ single

theorem Stored.legacy_path {runner : Stored} (isLegacy : runner.layout ≠ .current) :
    Runner.isLegacy runner.path = true ∧
      Text.endsWith runner.path (legacyEnding runner.kind runner.hash) = true := by
  refine ⟨isLegacy_path_iff.mpr isLegacy, ?_⟩
  obtain ⟨_ | version, kind, hash⟩ := runner
  · exact absurd rfl isLegacy
  · rw [Text.endsWith, List.isSuffixOf_iff_suffix]
    exact ⟨("executor/" ++ version).toList, String.toList_append.symm⟩

theorem Index.Holds.currentPath_mem_iff (plain : ∀ runner ∈ stored, runner.Plain)
    (holds : index.Holds stored) {kind hash : String}
    (isPlain : Stored.Plain ⟨.current, kind, hash⟩) :
    currentPath kind hash ∈ index.paths kind ↔ ⟨.current, kind, hash⟩ ∈ stored := by
  rw [holds]
  constructor
  · rintro ⟨other, isStored, _, same⟩
    rwa [← Stored.eq_of_path (plain other isStored) isPlain same]
  · exact fun isStored => ⟨_, isStored, rfl, rfl⟩

theorem choosePath_located (plain : ∀ runner ∈ stored, runner.Plain) (holds : index.Holds stored)
    {runner : Stored} (member : runner ∈ stored) :
    Located index stored runner.kind runner.hash
      (choosePath (index.paths runner.kind) runner.kind runner.hash) := by
  have single := (plain runner member).hash
  have isPlain : Stored.Plain ⟨.current, runner.kind, runner.hash⟩ :=
    ⟨(plain runner member).kind, single, by simp⟩
  have listed_iff := holds.currentPath_mem_iff plain isPlain
  rw [choosePath]
  split
  case isTrue isListed =>
    have listed := List.contains_iff_mem.mp isListed
    rw [← Stored.path_current] at listed ⊢
    exact ⟨listed, Stored.hashOf?_path isPlain,
      iff_of_true (Stored.isCurrent_path_iff.mpr rfl) (listed_iff.mp listed)⟩
  case isFalse unlisted =>
    rw [List.contains_iff_mem, listed_iff] at unlisted
    have isLegacy : runner.layout ≠ .current := by
      intro isCurrent
      rw [← isCurrent] at unlisted
      exact unlisted member
    have isSome : ((index.paths runner.kind).find? fun path =>
        Runner.isLegacy path && Text.endsWith path (legacyEnding runner.kind runner.hash)).isSome :=
      List.find?_isSome.mpr ⟨runner.path, (holds _ _).mpr ⟨runner, member, rfl, rfl⟩,
        Bool.and_eq_true_iff.mpr (Stored.legacy_path isLegacy)⟩
    obtain ⟨path, found⟩ := Option.isSome_iff_exists.mp isSome
    have isFound := List.find?_some found
    obtain ⟨legacy, ends⟩ := Bool.and_eq_true_iff.mp isFound
    have listed := List.mem_of_find?_eq_some found
    rw [found, Option.getD_some]
    refine ⟨listed, hashOf?_of_endsWith single ends, iff_of_false ?_ unlisted⟩
    obtain ⟨other, _, _, rfl⟩ := (holds _ _).mp listed
    rw [Stored.isCurrent_path_iff]
    exact Stored.isLegacy_path_iff.mp legacy

theorem latestByIndex?_holds (plain : ∀ runner ∈ stored, runner.Plain) (holds : index.Holds stored)
    (kind : String) : ∃ latest, latestByIndex? index.json kind = .ok latest ∧
      Latest (index.paths kind) latest ∧
      ∀ hash, latest = some hash → ∃ runner ∈ stored, runner.kind = kind ∧ runner.hash = hash := by
  have hashes : ∀ path ∈ index.paths kind, ∃ runner ∈ stored, runner.kind = kind ∧
      hashOf? path = some runner.hash := by
    intro path listed
    obtain ⟨runner, member, isKind, rfl⟩ := (holds kind path).mp listed
    exact ⟨runner, member, isKind, Stored.hashOf?_path (plain runner member)⟩
  have latest := latest_latestPath? fun path listed => by
    obtain ⟨_, _, _, isHash⟩ := hashes path listed
    rw [isHash]
    rfl
  refine ⟨_, ?_, latest, fun hash same => ?_⟩
  · rw [latestByIndex?_json]
    cases last : latestPath? (index.paths kind) with
    | none => rfl
    | some path =>
        rw [last, Option.bind_some] at latest
        rw [Option.bind_some]
        cases isHash : hashOf? path with
        | some hash => simp only [isHash]
        | none =>
            rw [isHash] at latest
            cases latest with
            | nothing empty =>
                rw [empty] at last
                cases last
  · rw [same] at latest
    obtain ⟨path, listed, isHash⟩ := latest.exists_path
    obtain ⟨runner, member, isKind, isSame⟩ := hashes path listed
    exact ⟨runner, member, isKind, Option.some.inj (isSame.symm.trans isHash)⟩

end

/-! Trees of files with runners. -/

theorem placeLe_total (first second : Place) :
    (placeLe first second || placeLe second first) = true := by
  induction first generalizing second with
  | nil => rfl
  | cons name rest ih =>
      cases second with
      | nil => rfl
      | cons other more =>
          have both := ih more
          simp only [placeLe, Bool.or_eq_true, Bool.and_eq_true, decide_eq_true_eq] at both ⊢
          by_cases less : name < other
          · exact .inl (.inl less)
          by_cases greater : other < name
          · exact .inr (.inl greater)
          have same := String.le_antisymm (String.not_lt.mp greater) (String.not_lt.mp less)
          exact both.imp (fun le => .inr ⟨same, le⟩) fun le => .inr ⟨same.symm, le⟩

theorem placeLe_trans (first second third : Place) (le : placeLe first second = true)
    (alsoLe : placeLe second third = true) : placeLe first third = true := by
  induction first generalizing second third with
  | nil => rfl
  | cons a as ih =>
      cases second with
      | nil => cases le
      | cons b bs =>
          cases third with
          | nil => cases alsoLe
          | cons c cs =>
              simp only [placeLe, Bool.or_eq_true, Bool.and_eq_true, decide_eq_true_eq] at *
              rcases le with less | ⟨rfl, le⟩ <;> rcases alsoLe with alsoLess | ⟨rfl, alsoLe⟩
              · exact .inl (String.lt_trans less alsoLess)
              · exact .inl less
              · exact .inl alsoLess
              · exact .inr ⟨rfl, ih bs cs le alsoLe⟩

theorem matchesPattern_tar_iff {name : String} :
    Text.matchesPattern "*.tar" name = true ↔ Text.endsWith name ".tar" = true :=
  Text.matchesPattern_star_ending_iff ".tar" (Text.isPlain_of_all (by decide))

theorem matchesPattern_legacy_iff {name : String} :
    Text.matchesPattern "legacy-runners" name = true ↔ name = "legacy-runners" :=
  Text.matchesPattern_plain_iff (Text.isPlain_of_all (by decide))

theorem mem_placesLike_iff {tree : Tree} {directory place : Place} {patterns : List String}
    (inner : patterns ≠ []) : place ∈ placesLike tree directory patterns ↔
      (tree.at? (directory ++ place)).isSome ∧
        List.Forall₂ (fun name pattern => Text.matchesPattern pattern name = true) place patterns := by
  constructor
  · intro member
    refine ⟨mem_placesLike member, ?_⟩
    rw [placesLike, List.mem_mergeSort, List.mem_filter, Bool.and_eq_true, decide_eq_true_eq,
      List.all_eq_true] at member
    exact List.forall₂_iff_zip.mpr ⟨member.2.1, fun pair => member.2.2 _ pair⟩
  · rintro ⟨there, fits⟩
    obtain ⟨sameLength, fits⟩ := List.forall₂_iff_zip.mp fits
    have isInner : place ≠ [] := by
      rintro rfl
      exact inner (List.length_eq_zero_iff.mp sameLength.symm)
    obtain root | ⟨entry, isEntry, same⟩ :=
      Tree.at?_ne_none_iff.mp (Option.isSome_iff_ne_none.mp there)
    · exact absurd (List.append_eq_nil_iff.mp root).2 isInner
    rw [placesLike, List.mem_mergeSort, List.mem_filter, Bool.and_eq_true, decide_eq_true_eq,
      List.all_eq_true]
    refine ⟨List.mem_map.mpr ⟨entry, List.mem_filter.mpr ⟨isEntry, ?_⟩, ?_⟩, sameLength,
      fun pair => fits⟩
    · simp [same, isInner]
    · simp [same]

/-- Where archives of runners are, in either layout. -/
inductive InLayout : Place → Prop
  | current {kind directory file : String} (ends : Text.endsWith file ".tar" = true) :
      InLayout ["runners", kind, directory, file]
  | legacy {version kind directory file : String} (ends : Text.endsWith file ".tar" = true) :
      InLayout ["executor", version, "legacy-runners", kind, directory, file]

theorem Stored.inLayout (stored : Stored) : InLayout stored.place := by
  have ends : Text.endsWith (Text.afterChars stored.hash 2 ++ ".tar") ".tar" = true := by
    simp [Text.endsWith]
  obtain ⟨_ | version, kind, hash⟩ := stored
  · exact .current ends
  · exact .legacy ends

theorem mem_runnerPlaces_iff {tree : Tree} {root place : Place} :
    place ∈ runnerPlaces tree root ↔ (tree.at? (root ++ place)).isSome ∧ InLayout place := by
  rw [runnerPlaces, List.mem_append, List.mem_map, List.mem_map]
  simp only [mem_placesLike_iff (List.cons_ne_nil _ _), List.forall₂_cons_right_iff,
    List.forall₂_nil_right_iff, Text.matchesPattern_any, matchesPattern_tar_iff,
    matchesPattern_legacy_iff, List.append_assoc, true_and]
  constructor
  · rintro (⟨_, ⟨there, kind, _, ⟨directory, _, ⟨file, _, ends, rfl, rfl⟩, rfl⟩, rfl⟩, rfl⟩ |
      ⟨_, ⟨there, version, _, ⟨_, _, rfl, ⟨kind, _, ⟨directory, _, ⟨file, _, ends, rfl, rfl⟩, rfl⟩,
        rfl⟩, rfl⟩, rfl⟩, rfl⟩)
    · exact ⟨there, .current ends⟩
    · exact ⟨there, .legacy ends⟩
  · rintro ⟨there, ends | ends⟩
    · exact .inl ⟨_, ⟨there, _, _, ⟨_, _, ⟨_, _, ends, rfl, rfl⟩, rfl⟩, rfl⟩, rfl⟩
    · exact .inr ⟨_, ⟨there, _, _, ⟨_, _, rfl, ⟨_, _, ⟨_, _, ⟨_, _, ends, rfl, rfl⟩, rfl⟩, rfl⟩, rfl⟩,
        rfl⟩, rfl⟩

/-- Current paths come before legacy ones, and each of both in the order of their places. -/
def Sooner (first second : String) : Prop :=
  isCurrent first = true ∧ isCurrent second = false ∨
    isCurrent first = isCurrent second ∧
      placeLe (Text.splitAt first '/') (Text.splitAt second '/') = true

theorem Stored.layout_of_place {stored : Stored} {rest : Place} :
    (stored.place = "runners" :: rest → stored.layout = .current) ∧
      (stored.place = "executor" :: rest → stored.layout ≠ .current) := by
  obtain ⟨_ | version, kind, hash⟩ := stored <;> simp [place]

section

variable {stored : List Stored}

theorem sooner_of_placeLe (plain : ∀ runner ∈ stored, runner.Plain) {first second : Place}
    (isFirst : ∃ runner ∈ stored, runner.place = first)
    (isSecond : ∃ runner ∈ stored, runner.place = second)
    (sameLayout : first.head? = second.head?) (le : placeLe first second = true) :
    Sooner (Text.joinWith "/" first) (Text.joinWith "/" second) := by
  obtain ⟨runner, member, rfl⟩ := isFirst
  obtain ⟨other, isOther, rfl⟩ := isSecond
  rw [Stored.joinWith_place, Stored.joinWith_place]
  refine .inr ⟨?_, ?_⟩
  · rw [Bool.eq_iff_iff, Stored.isCurrent_path_iff, Stored.isCurrent_path_iff]
    obtain ⟨_ | version, kind, hash⟩ := runner <;>
      obtain ⟨_ | otherVersion, otherKind, otherHash⟩ := other <;> simp_all [Stored.place]
  · rwa [Stored.splitAt_path (plain runner member), Stored.splitAt_path (plain other isOther)]

theorem pairwise_sooner (plain : ∀ runner ∈ stored, runner.Plain) {tree : Tree} {root : Place}
    (areStored : ∀ place ∈ runnerPlaces tree root, ∃ runner ∈ stored, runner.place = place) :
    ((runnerPlaces tree root).map (Text.joinWith "/")).Pairwise Sooner := by
  have sorted (directory : Place) (patterns : List String) :
      (placesLike tree directory patterns).Pairwise (placeLe · · = true) :=
    List.pairwise_mergeSort placeLe_trans placeLe_total _
  have part (name : String) (patterns : List String)
      (within : ∀ place ∈ (placesLike tree (root ++ [name]) patterns).map ([name] ++ ·),
        place ∈ runnerPlaces tree root) :
      ((placesLike tree (root ++ [name]) patterns).map ([name] ++ ·)).Pairwise fun first second =>
        Sooner (Text.joinWith "/" first) (Text.joinWith "/" second) := by
    rw [List.pairwise_map]
    refine (sorted _ _).imp_of_mem fun {first second} isFirst isSecond le => ?_
    refine sooner_of_placeLe plain (areStored _ (within _ (List.mem_map_of_mem isFirst)))
      (areStored _ (within _ (List.mem_map_of_mem isSecond))) rfl ?_
    simp [placeLe, le]
  rw [List.pairwise_map]
  refine List.pairwise_append.mpr ⟨part "runners" _ fun place => List.mem_append_left _,
    part "executor" _ fun place => List.mem_append_right _,
    fun first isFirst second isSecond => .inl ?_⟩
  obtain ⟨runner, _, isRunner⟩ := areStored first (List.mem_append_left _ isFirst)
  obtain ⟨other, _, isOther⟩ := areStored second (List.mem_append_right _ isSecond)
  obtain ⟨_, _, rfl⟩ := List.mem_map.mp isFirst
  obtain ⟨_, _, rfl⟩ := List.mem_map.mp isSecond
  rw [← isRunner, ← isOther, Stored.joinWith_place, Stored.joinWith_place, ← Bool.not_eq_true,
    Stored.isCurrent_path_iff, Stored.isCurrent_path_iff]
  exact ⟨Stored.layout_of_place.1 isRunner, Stored.layout_of_place.2 isOther⟩

end

/-! Sources of runners. -/

/-- The archives in a bundle or in a tree of files are those of the runners. If an index of the
bundle is kept, it was made of this bundle. -/
inductive Serves (world : World) (source : Path) (stored : List Stored) : Prop
  | bundle {directory : Path} {name : String} {content : Content} {members : Files.Members}
      (isSource : source = directory.child name) (isName : IsName name)
      (there : world.tree.hasDirectory world.here directory = true)
      (found : world.tree.at? (directory.place world.here ++ [name]) = some (.file content))
      (packed : content.packedMembers = .ok members)
      (archives : (members.map (·.1)).filter (Text.endsWith · ".tar") = stored.map Stored.path)
      (kept : ∀ entry, world.tree.at? (directory.place world.here ++ [indexName name]) = some entry →
        entry = .file (.ofText (Index.ofPaths (members.map (·.1))).json.spaced))
  | tree (isTree : world.tree.hasDirectory world.here source = true)
      (all : ∀ runner ∈ stored, (world.tree.at? (source.place world.here ++ runner.place)).isSome)
      (only : ∀ place name, (world.tree.at? (source.place world.here ++ (place ++ [name]))).isSome →
        Text.endsWith name ".tar" = true → ∃ runner ∈ stored, runner.place = place ++ [name])

theorem endsWith_of_kindOf? {path kind : String} (isKind : kindOf? path = some kind) :
    Text.endsWith path ".tar" = true := by
  cases ends : Text.endsWith path ".tar" with
  | true => rfl
  | false => simp [kindOf?, ends] at isKind

section

variable {world : World} {source : Path} {stored : List Stored} {names : List String}

theorem Index.ofPaths_holds (plain : ∀ runner ∈ stored, runner.Plain)
    (archives : ∀ name, name ∈ names ∧ Text.endsWith name ".tar" = true ↔
      ∃ runner ∈ stored, runner.path = name) : (Index.ofPaths names).Holds stored := by
  intro kind path
  rw [paths_ofPaths, List.mem_filter, decide_eq_true_eq]
  constructor
  · rintro ⟨member, isKind⟩
    obtain ⟨runner, isStored, rfl⟩ := (archives path).mp ⟨member, endsWith_of_kindOf? isKind⟩
    rw [Stored.kindOf?_path (plain runner isStored)] at isKind
    exact ⟨runner, isStored, Option.some.inj isKind, rfl⟩
  · rintro ⟨runner, isStored, rfl, rfl⟩
    exact ⟨((archives _).mpr ⟨runner, isStored, rfl⟩).1,
      Stored.kindOf?_path (plain runner isStored)⟩

theorem Index.paths_of_archives (plain : ∀ runner ∈ stored, runner.Plain)
    (archives : names.filter (Text.endsWith · ".tar") = stored.map Stored.path) (kind : String) :
    (Index.ofPaths names).paths kind = (stored.filter (·.kind = kind)).map Stored.path := by
  have ends : names.filter (kindOf? · = some kind) =
      (names.filter (Text.endsWith · ".tar")).filter (kindOf? · = some kind) := by
    rw [List.filter_filter]
    refine List.filter_congr fun name _ => ?_
    by_cases isKind : kindOf? name = some kind
    · simp [isKind, endsWith_of_kindOf? isKind]
    · simp [isKind]
  rw [paths_ofPaths, ends, archives, List.filter_map]
  congr 1
  refine List.filter_congr fun runner member => ?_
  simp [Stored.kindOf?_path (plain runner member)]

theorem Index.json_within (index : Index) (spare : Nat) :
    index.json.Within ⟨some Json.digitLimit, some (spare + 100)⟩ := by
  refine .object rfl ?_
  simp only [List.mem_map, forall_exists_index, and_imp, forall_apply_eq_imp_iff₂]
  refine fun entry _ => .array rfl ?_
  simp only [List.mem_map, forall_exists_index, and_imp, forall_apply_eq_imp_iff₂]
  exact fun path _ => .string path

theorem bundleIndex_runIn {directory : Path} {name : String} {content : Content}
    {members : Files.Members} (isName : IsName name)
    (there : world.tree.hasDirectory world.here directory = true)
    (found : world.tree.at? (directory.place world.here ++ [name]) = some (.file content))
    (packed : content.packedMembers = .ok members)
    (kept : ∀ entry, world.tree.at? (directory.place world.here ++ [indexName name]) = some entry →
      entry = .file (.ofText (Index.ofPaths (members.map (·.1))).json.spaced)) :
    ∃ after, (bundleIndex (directory.child name)).runIn world =
        (.ok (Index.ofPaths (members.map (·.1))).json, after) ∧
      after.here = world.here ∧ after.tree.hasDirectory world.here directory = true ∧
      after.tree.at? (directory.place world.here ++ [name]) = some (.file content) ∧
      after.tree.at? (directory.place world.here ++ [indexName name]) =
        some (.file (.ofText (Index.ofPaths (members.map (·.1))).json.spaced)) := by
  have isIndex := indexName_isName isName
  have exact := Index.json_exact (Index.ofPaths_keys (members.map (·.1)))
  simp only [bundleIndex, indexPath_child isName, Action.has, Action.runIn_bind, Action.runIn_ask]
  cases isKept : world.tree.at? (directory.place world.here ++ [indexName name]) with
  | some entry =>
      obtain rfl := kept entry isKept
      have has := (Tree.has_child_iff isIndex).mpr ⟨there, by rw [isKept]; rfl⟩
      have isText := (Json.read_spaced exact).1
      have isRead : Json.load world.nesting _ = _ :=
        Json.load_spaced exact (Index.json_within _ world.spareNesting)
      refine ⟨world, ?_, rfl, there, found, isKept⟩
      simp only [has, if_true, Action.runIn_bind,
        Action.runIn_readText (Tree.read_child isIndex there isKept) isText,
        Action.runIn_parseJson, isRead, Except.mapError]
  | none =>
      have hasNot : world.tree.has world.here (directory.child (indexName name)) = false := by
        rw [← Bool.not_eq_true, Tree.has_child_iff isIndex, isKept]
        simp
      have scanned := scanBundle_ok_iff.mpr
        ⟨rfl, content, members, Tree.read_child isName there found, packed, rfl⟩
      have written := Tree.write_of_there isIndex
        (.ofText (Index.ofPaths (members.map (·.1))).json.spaced) there (by simp [isKept])
      have wrote : (Action.writeText (directory.child (indexName name)) _).runIn world = _ :=
        Action.changeTree_of_ok written
      have different : directory.place world.here ++ [name] ≠
          directory.place world.here ++ [indexName name] := by
        intro same
        rw [← same, found] at isKept
        cases isKept
      simp only [hasNot, Bool.false_eq_true, if_false, Action.runIn_bind, scanned, wrote,
        Action.runIn_pure]
      exact ⟨_, rfl, rfl, Tree.hasDirectory_put isKept there,
        (Tree.at?_put_other different _).trans found, Tree.at?_put_self (by simp) _⟩

theorem Serves.indexOf (plain : ∀ runner ∈ stored, runner.Plain)
    (serves : Serves world source stored) :
    ∃ index after, (Runner.indexOf source).runIn world = (.ok index.json, after) ∧
      Serves after source stored ∧ Index.Holds index stored ∧
      (world.tree.hasDirectory world.here source = false → ∀ kind,
        index.paths kind = (stored.filter (·.kind = kind)).map Stored.path) ∧
      (world.tree.hasDirectory world.here source = true → ∀ kind,
        (index.paths kind).Pairwise Sooner) := by
  cases serves with
  | @bundle directory name content members isSource isName there found packed archives kept =>
      subst isSource
      have isFile : world.tree.hasDirectory world.here (directory.child name) = false := by
        rw [Tree.hasDirectory, Tree.find?_child isName there, found]
      obtain ⟨after, run, here, thereAfter, foundAfter, keptAfter⟩ :=
        bundleIndex_runIn isName there found packed kept
      refine ⟨.ofPaths (members.map (·.1)), after, ?_, ?_, Index.ofPaths_holds plain fun path => ?_,
        fun _ => Index.paths_of_archives plain archives, fun isTree => ?_⟩
      · simp only [Runner.indexOf, Action.hasDirectory, Action.runIn_bind, Action.runIn_ask, isFile,
          Bool.false_eq_true, if_false, run]
      · refine .bundle rfl isName ?_ ?_ packed archives ?_
        · rwa [here]
        · rwa [here]
        · rw [here, keptAfter]
          exact fun entry same => (Option.some.inj same).symm
      · have member := List.mem_map (f := Stored.path) (l := stored) (b := path)
        rwa [← archives, List.mem_filter] at member
      · rw [isFile] at isTree
        cases isTree
  | tree isTree all only =>
      have areStored : ∀ place ∈ runnerPlaces world.tree (source.place world.here),
          ∃ runner ∈ stored, runner.place = place := by
        intro place member
        obtain ⟨isThere, ends | ends⟩ := mem_runnerPlaces_iff.mp member
        · exact only [_, _, _] _ isThere ends
        · exact only [_, _, _, _, _] _ isThere ends
      refine ⟨.ofTree world.tree (source.place world.here), world, ?_, .tree isTree all only,
        Index.ofPaths_holds plain fun path => ?_, fun isFile => ?_, fun _ kind => ?_⟩
      · simp only [Runner.indexOf, Action.hasDirectory, Action.runIn_bind, Action.runIn_ask, isTree,
          if_true, Action.runIn_onTree, Tree.locate_of_hasDirectory isTree]
        rfl
      · constructor
        · rintro ⟨member, _⟩
          obtain ⟨place, isPlace, rfl⟩ := List.mem_map.mp member
          obtain ⟨runner, isStored, rfl⟩ := areStored place isPlace
          exact ⟨runner, isStored, (Stored.joinWith_place runner).symm⟩
        · rintro ⟨runner, isStored, rfl⟩
          refine ⟨List.mem_map.mpr ⟨runner.place, ?_, Stored.joinWith_place runner⟩,
            Stored.endsWith_path runner⟩
          exact mem_runnerPlaces_iff.mpr ⟨all runner isStored, runner.inLayout⟩
      · rw [isTree] at isFile
        cases isFile
      · rw [Index.ofTree, Index.paths_ofPaths]
        exact (pairwise_sooner plain areStored).filter _

end

/-- From a bundle or a tree of files that has some runners, an index of them can be had. By it the
lookup of any of the runners gives a path of it, a current one if there is one. The latest of a kind
is one of the runners, so the lookup finds it too. -/
theorem runners_found {world : World} {source : Path} {stored : List Stored}
    (plain : ∀ runner ∈ stored, runner.Plain) (serves : Serves world source stored) :
    ∃ index after, (indexOf source).runIn world = (.ok index.json, after) ∧
      Serves after source stored ∧ Index.Holds index stored ∧
      (world.tree.hasDirectory world.here source = false → ∀ kind,
        index.paths kind = (stored.filter (·.kind = kind)).map Stored.path) ∧
      (world.tree.hasDirectory world.here source = true → ∀ kind,
        (index.paths kind).Pairwise Sooner) ∧
      (∀ runner ∈ stored,
        Located index stored runner.kind runner.hash
          (choosePath (index.paths runner.kind) runner.kind runner.hash) ∧
        (findPath source runner.kind runner.hash).runIn world =
          (.ok (choosePath (index.paths runner.kind) runner.kind runner.hash), after)) ∧
      ∀ kind, ∃ latest, (findLatest? source kind).runIn world = (.ok latest, after) ∧
        Latest (index.paths kind) latest ∧
        ∀ hash, latest = some hash → ∃ runner ∈ stored, runner.kind = kind ∧ runner.hash = hash := by
  obtain ⟨index, after, run, still, holds, inBundle, inTree⟩ := serves.indexOf plain
  refine ⟨index, after, run, still, holds, inBundle, inTree, fun runner member => ⟨?_, ?_⟩,
    fun kind => ?_⟩
  · exact choosePath_located plain holds member
  · rw [findPath, Action.runIn_bind, run]
    simp only [pathByIndex_json, Action.attempt, Action.runIn_pure]
  · obtain ⟨latest, found, isLatest, isStored⟩ := latestByIndex?_holds plain holds kind
    refine ⟨latest, ?_, isLatest, isStored⟩
    rw [findLatest?, Action.runIn_bind, run]
    simp only [found, Action.attempt, Action.runIn_pure]

def mixedRunners : List Stored :=
  [⟨.legacy "v1", "std", "a"⟩, ⟨.current, "std", "a"⟩, ⟨.legacy "v2", "std", "b"⟩]

def mixedBundle : World :=
  { tree := ⟨[(["runners.tar.xz"], .file (.archive true (("runners", none) ::
      mixedRunners.map fun runner => (runner.path, some (.archive false [])))))]⟩ }

def mixedTree : World :=
  { tree := ⟨mixedRunners.map fun runner => (runner.place, .file (.archive false []))⟩ }

theorem runners_found_mixed :
    ((∀ runner ∈ mixedRunners, runner.Plain) ∧
      Serves mixedBundle ((Path.ofRoot []).child "runners.tar.xz") mixedRunners ∧
      Serves mixedTree (.ofRoot []) mixedRunners) ∧
    (∃ index after, Serves after ((Path.ofRoot []).child "runners.tar.xz") mixedRunners ∧
      Located index mixedRunners "std" "a" (choosePath (index.paths "std") "std" "a") ∧
      (findPath ((Path.ofRoot []).child "runners.tar.xz") "std" "a").runIn mixedBundle =
        (.ok (choosePath (index.paths "std") "std" "a"), after)) ∧
    ∃ index after latest, (findLatest? (.ofRoot []) "std").runIn mixedTree = (.ok latest, after) ∧
      Latest (Index.paths index "std") latest := by
  have plain : ∀ runner ∈ mixedRunners, runner.Plain := by
    simp only [mixedRunners, List.forall_mem_cons]
    refine ⟨⟨by decide, by decide, ?_⟩, ⟨by decide, by decide, nofun⟩, ⟨by decide, by decide, ?_⟩,
      nofun⟩
    all_goals
      rintro _ ⟨⟩
      decide
  have inBundle : Serves mixedBundle ((Path.ofRoot []).child "runners.tar.xz") mixedRunners := by
    refine .bundle rfl ⟨by decide, by decide, by decide, by decide⟩ (by decide) rfl rfl ?_ nofun
    decide +kernel
  have inTree : Serves mixedTree (.ofRoot []) mixedRunners := by
    refine .tree rfl (by decide +kernel) fun place name there _ => ?_
    have found := Option.isSome_iff_ne_none.mp there
    obtain root | ⟨entry, isEntry, same⟩ := Tree.at?_ne_none_iff.mp found
    · simp at root
    · obtain ⟨runner, member, rfl⟩ := List.mem_map.mp isEntry
      exact ⟨runner, member, same⟩
  obtain ⟨index, after, _, still, _, _, _, lookups, _⟩ := runners_found plain inBundle
  obtain ⟨treeIndex, treeAfter, _, _, _, _, _, _, latests⟩ := runners_found plain inTree
  obtain ⟨latest, found, isLatest, _⟩ := latests "std"
  exact ⟨⟨plain, inBundle, inTree⟩,
    ⟨index, after, still, lookups ⟨.current, "std", "a"⟩ (by decide)⟩,
    treeIndex, treeAfter, latest, found, isLatest⟩

end ContractLint.Runner
