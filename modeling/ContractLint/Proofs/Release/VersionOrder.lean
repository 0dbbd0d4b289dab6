import Mathlib.Data.List.Pairwise
import Mathlib.Data.List.Perm.Basic
import Mathlib.Data.Nat.Digits.Defs
import Mathlib.Data.Prod.Lex
import ContractLint.Proofs.Files.Listings
import ContractLint.Proofs.Release.Cleaning
import ContractLint.Proofs.Release.Isolation

/-! The order in which the versions of a cache are listed. Versions are compared by their numbers,
one after the other, and a version whose numbers go on from those of another one comes before it. So
candidates stand before the release that they are for, and the listing is newest first exactly if no
release is in the cache together with one of its candidates. -/

namespace ContractLint.Release

open Files (Path Place Tree)
open Text (decimalDigit? isDecimalDigit)

structure Numeral where
  chars : List Char
  inner : chars ≠ []
  digits : chars.all isDecimalDigit = true

def digitValue (c : Char) : Nat := (decimalDigit? c).getD 0

def Numeral.value (numeral : Numeral) : Nat :=
  Nat.ofDigits 10 (numeral.chars.map digitValue).reverse

/-- The number of a release, `v1.2.3`, or of a candidate for it, `v1.2.3-rc4`. -/
structure ReleaseNumber where
  major : Numeral
  minor : Numeral
  patch : Numeral
  candidate : Option Numeral

namespace ReleaseNumber

def ending (number : ReleaseNumber) : List Char :=
  match number.candidate with
  | some index => '-' :: 'r' :: 'c' :: index.chars
  | none => []

def text (number : ReleaseNumber) : String :=
  String.ofList ('v' :: number.major.chars ++ '.' :: number.minor.chars ++
    '.' :: number.patch.chars ++ number.ending)

def numbers (number : ReleaseNumber) : List Nat :=
  [number.major.value, number.minor.value, number.patch.value] ++
    (number.candidate.map Numeral.value).toList

def core (number : ReleaseNumber) : Nat ×ₗ Nat ×ₗ Nat :=
  toLex (number.major.value, toLex (number.minor.value, number.patch.value))

/-- One is newer than the other if it is of a later release, if it is the release and the other a
candidate for it, or if both are candidates and it is the later one. -/
inductive Newer (first second : ReleaseNumber) : Prop
  | later (larger : second.core < first.core)
  | released (same : first.core = second.core) (final : first.candidate.isNone)
      (early : second.candidate.isSome)
  | moreRecent {index other : Numeral} (same : first.core = second.core)
      (isIndex : first.candidate = some index) (isOther : second.candidate = some other)
      (larger : other.value < index.value)

def CandidateFor (first second : ReleaseNumber) : Prop :=
  first.core = second.core ∧ first.candidate.isSome ∧ second.candidate.isNone

instance (first second : ReleaseNumber) : Decidable (first.CandidateFor second) :=
  inferInstanceAs (Decidable (_ ∧ _))

/-- The first may stand before the second in a listing. -/
inductive Precedes (first second : ReleaseNumber) : Prop
  | later (larger : second.core < first.core)
  | final (same : first.core = second.core) (last : second.candidate.isNone)
  | candidates {index other : Numeral} (same : first.core = second.core)
      (isIndex : first.candidate = some index) (isOther : second.candidate = some other)
      (atLeast : other.value ≤ index.value)

end ReleaseNumber

/-- Nothing stands behind something older. -/
def NewestFirst (listed : List ReleaseNumber) : Prop :=
  listed.Pairwise fun first second => ¬second.Newer first

theorem numbersLe_total (first second : List Nat) :
    (numbersLe first second || numbersLe second first) = true := by
  induction first generalizing second with
  | nil => rfl
  | cons a first ih =>
      cases second with
      | nil => rfl
      | cons b second =>
          have more := ih second
          simp only [numbersLe, Bool.or_eq_true, Bool.and_eq_true, decide_eq_true_eq] at more ⊢
          rcases Nat.lt_trichotomy a b with less | rfl | greater
          · exact .inl (.inl less)
          · simpa using more
          · exact .inr (.inl greater)

theorem numbersLe_trans (first second third : List Nat) (le : numbersLe first second = true)
    (next : numbersLe second third = true) : numbersLe first third = true := by
  induction first generalizing second third with
  | nil => rfl
  | cons a first ih =>
      cases second with
      | nil => cases le
      | cons b second =>
          cases third with
          | nil => cases next
          | cons c third =>
              have more := ih second third
              simp only [numbersLe, Bool.or_eq_true, Bool.and_eq_true, decide_eq_true_eq]
                at le next ⊢
              grind

theorem newestFirst_pairwise (versions : List String) : (newestFirst versions).Pairwise
    fun first second => numbersLe (versionNumbers second) (versionNumbers first) = true := by
  refine List.pairwise_mergeSort ?_ ?_ versions
  · intro first second third le next
    exact numbersLe_trans _ _ _ next le
  · intro first second
    exact numbersLe_total _ _

theorem newestFirst_perm (versions : List String) : (newestFirst versions).Perm versions :=
  List.mergeSort_perm versions _

theorem numbersFrom_digits {chars : List Char} (digits : chars.all isDecimalDigit = true)
    (value : Nat) (rest : List Char) : numbersFrom (some value) (chars ++ rest) =
      numbersFrom (some (Nat.ofDigits 10 (chars.map digitValue).reverse +
        10 ^ chars.length * value)) rest := by
  induction chars generalizing value with
  | nil => simp
  | cons c chars ih =>
      rw [List.all_cons, Bool.and_eq_true] at digits
      obtain ⟨digit, isDigit⟩ := Option.isSome_iff_exists.mp digits.1
      have isValue : digitValue c = digit := by rw [digitValue, isDigit, Option.getD_some]
      rw [List.cons_append, numbersFrom, isDigit]
      dsimp only
      rw [ih digits.2, List.map_cons, List.reverse_cons, Nat.ofDigits_append,
        Nat.ofDigits_singleton, List.length_reverse, List.length_map, List.length_cons, isValue, Option.getD_some]
      congr 2
      ring

def EndsNumber (rest : List Char) : Prop := ∀ c ∈ rest.head?, decimalDigit? c = none

theorem numbersFrom_end {rest : List Char} (ends : EndsNumber rest) (value : Nat) :
    numbersFrom (some value) rest = value :: numbersFrom none rest := by
  cases rest with
  | nil => rfl
  | cons c rest => simp [numbersFrom, ends c rfl]

theorem numbersFrom_numeral (numeral : Numeral) {rest : List Char} (ends : EndsNumber rest) :
    numbersFrom none (numeral.chars ++ rest) = numeral.value :: numbersFrom none rest := by
  obtain ⟨chars, inner, digits⟩ := numeral
  cases chars with
  | nil => exact absurd rfl inner
  | cons c chars =>
      have whole := numbersFrom_digits digits 0 rest
      rw [Nat.mul_zero, Nat.add_zero, numbersFrom_end ends] at whole
      rw [List.all_cons, Bool.and_eq_true] at digits
      obtain ⟨digit, isDigit⟩ := Option.isSome_iff_exists.mp digits.1
      rw [Numeral.value, ← whole, List.cons_append, numbersFrom, numbersFrom, isDigit]
      rfl

theorem numbersFrom_char {c : Char} (other : decimalDigit? c = none) (rest : List Char) :
    numbersFrom none (c :: rest) = numbersFrom none rest := by
  rw [numbersFrom, other]
  rfl

namespace ReleaseNumber

theorem numbersFrom_ending (number : ReleaseNumber) :
    numbersFrom none number.ending = (number.candidate.map Numeral.value).toList := by
  unfold ending
  cases number.candidate with
  | none => rfl
  | some index =>
      have whole : numbersFrom none (index.chars ++ []) = [index.value] :=
        numbersFrom_numeral index (by simp [EndsNumber])
      rw [List.append_nil] at whole
      rw [numbersFrom_char (by decide), numbersFrom_char (by decide), numbersFrom_char (by decide),
        whole]
      rfl

theorem endsNumber_ending (number : ReleaseNumber) : EndsNumber number.ending := by
  unfold ending EndsNumber
  cases number.candidate with
  | none => simp
  | some index => simpa using (by decide : decimalDigit? '-' = none)

theorem versionNumbers_text (number : ReleaseNumber) :
    versionNumbers number.text = number.numbers := by
  have point (rest : List Char) : EndsNumber ('.' :: rest) := by
    simpa [EndsNumber] using (by decide : decimalDigit? '.' = none)
  rw [versionNumbers, text, String.toList_ofList]
  simp only [List.cons_append, List.append_assoc]
  rw [numbersFrom_char (by decide), numbersFrom_numeral _ (point _), numbersFrom_char (by decide),
    numbersFrom_numeral _ (point _), numbersFrom_char (by decide),
    numbersFrom_numeral _ number.endsNumber_ending, numbersFrom_ending]
  rfl

theorem precedes_of_numbersLe {first second : ReleaseNumber}
    (le : numbersLe second.numbers first.numbers = true) : first.Precedes second := by
  have lt_iff : second.core < first.core ↔ second.major.value < first.major.value ∨
      second.major.value = first.major.value ∧ (second.minor.value < first.minor.value ∨
        second.minor.value = first.minor.value ∧ second.patch.value < first.patch.value) := by
    simp [core, Prod.Lex.toLex_lt_toLex]
  by_cases larger : second.core < first.core
  · exact .later larger
  rw [lt_iff] at larger
  have equal : second.major.value = first.major.value ∧ second.minor.value = first.minor.value ∧
      second.patch.value = first.patch.value := by
    simp only [numbers, List.cons_append, List.nil_append, numbersLe, Bool.or_eq_true,
      Bool.and_eq_true, decide_eq_true_eq] at le
    grind
  obtain ⟨major, minor, patch⟩ := equal
  have same : first.core = second.core := by rw [core, core, major, minor, patch]
  have rest : numbersLe (second.candidate.map Numeral.value).toList
      (first.candidate.map Numeral.value).toList = true := by
    simpa [numbers, numbersLe, major, minor, patch] using le
  cases isOther : second.candidate with
  | none => exact .final same (by rw [isOther]; rfl)
  | some other =>
      cases isIndex : first.candidate with
      | none => simp [isOther, isIndex, numbersLe] at rest
      | some index =>
          refine .candidates same isIndex isOther ?_
          rw [isOther, isIndex] at rest
          simpa [numbersLe, ← Nat.le_iff_lt_or_eq] using rest

theorem Precedes.newer_iff {first second : ReleaseNumber} (precedes : first.Precedes second) :
    second.Newer first ↔ first.CandidateFor second := by
  constructor
  · rintro (larger | ⟨same, final, early⟩ | ⟨same, isIndex, isOther, larger⟩)
    · rcases precedes with smaller | ⟨same, _⟩ | ⟨same, _, _, _⟩
      · exact absurd larger smaller.asymm
      · exact absurd larger (by rw [same]; exact lt_irrefl _)
      · exact absurd larger (by rw [same]; exact lt_irrefl _)
    · exact ⟨same.symm, early, final⟩
    · rcases precedes with smaller | ⟨_, last⟩ | ⟨_, isFirst, isSecond, atLeast⟩
      · exact absurd smaller (by rw [same]; exact lt_irrefl _)
      · rw [isIndex] at last
        cases last
      · rw [isSecond, Option.some.injEq] at isIndex
        rw [isFirst, Option.some.injEq] at isOther
        subst isIndex isOther
        exact absurd larger (not_lt.mpr atLeast)
  · rintro ⟨same, early, final⟩
    exact .released same.symm final early

theorem not_candidateFor_self (number : ReleaseNumber) : ¬number.CandidateFor number :=
  fun ⟨_, early, final⟩ => by simp [Option.isNone_iff_eq_none.mp final] at early

theorem not_newer_self (number : ReleaseNumber) : ¬number.Newer number := by
  rintro (larger | ⟨_, final, early⟩ | ⟨_, isIndex, isOther, larger⟩)
  · exact lt_irrefl _ larger
  · simp [Option.isNone_iff_eq_none.mp final] at early
  · rw [isIndex, Option.some.injEq] at isOther
    exact Nat.lt_irrefl _ (isOther ▸ larger)

theorem CandidateFor.not_precedes {first second : ReleaseNumber}
    (candidate : first.CandidateFor second) : ¬second.Precedes first := by
  obtain ⟨same, early, final⟩ := candidate
  rintro (larger | ⟨_, last⟩ | ⟨_, isIndex, _, _⟩)
  · exact lt_irrefl _ (same ▸ larger)
  · simp [Option.isNone_iff_eq_none.mp last] at early
  · rw [isIndex] at final
    cases final

end ReleaseNumber

section

variable {listed rest : List ReleaseNumber} {first : ReleaseNumber}

theorem newestFirst_iff (ordered : listed.Pairwise ReleaseNumber.Precedes) : NewestFirst listed ↔
    ∀ first ∈ listed, ∀ second ∈ listed, ¬first.CandidateFor second := by
  constructor
  · intro newest first isFirst second isSecond candidate
    let Allowed (one other : ReleaseNumber) : Prop := one.Precedes other ∧ ¬other.Newer one
    have symmetric : Std.Symm fun one other => Allowed one other ∨ Allowed other one :=
      ⟨fun _ _ => Or.symm⟩
    have either := ((ordered.and newest).imp (S := fun one other => Allowed one other ∨
      Allowed other one) .inl).forall isFirst isSecond
    rcases either fun same => second.not_candidateFor_self (same ▸ candidate) with
      ⟨precedes, notNewer⟩ | ⟨precedes, _⟩
    · exact notNewer (precedes.newer_iff.mpr candidate)
    · exact candidate.not_precedes precedes
  · intro none
    exact ordered.imp_of_mem fun isFirst isSecond precedes newer =>
      none _ isFirst _ isSecond (precedes.newer_iff.mp newer)

theorem first_newest_iff (ordered : (first :: rest).Pairwise ReleaseNumber.Precedes) :
    (∀ other ∈ first :: rest, ¬other.Newer first) ↔
      ∀ other ∈ first :: rest, ¬first.CandidateFor other := by
  refine forall₂_congr fun other member => not_congr ?_
  rcases List.mem_cons.mp member with rfl | later
  · exact iff_of_false other.not_newer_self other.not_candidateFor_self
  · exact (List.rel_of_pairwise_cons ordered later).newer_iff

end

/-- The bundles of a repository in a directory are those of these releases. -/
structure HoldsBundles (tree : Tree) (place : Place) (repository : String)
    (releases : List ReleaseNumber) : Prop where
  once : tree.Distinct
  distinct : (releases.map ReleaseNumber.text).Nodup
  exactly : ∀ version, (tree.at? (place ++ [bundleName repository version])).isSome ↔
    version ∈ releases.map ReleaseNumber.text

theorem matches_iff_bundleName {repository name : String}
    (plain : ∀ c ∈ repository.toList, Text.IsPlain c) :
    Text.matchesPattern (repositoryStart repository ++ "*" ++ bundleEnding) name = true ↔
      ∃ version, name = bundleName repository version := by
  rw [Text.matchesPattern_star_iff (isPlain_of_mem_repositoryStart plain)
    (Text.isPlain_of_all (by decide))]
  constructor
  · rintro ⟨middle, same⟩
    refine ⟨String.ofList middle, String.toList_inj.mp ?_⟩
    rw [same, bundleName_toList, String.toList_ofList]
  · rintro ⟨version, rfl⟩
    exact ⟨version.toList, bundleName_toList repository version⟩

theorem versionOf_bundleName {repository version : String}
    (noEnding : ¬bundleEnding.toList <:+: version.toList) :
    versionOf repository (bundleName repository version) = version := by
  have rest : Text.afterChars (bundleName repository version) (repositoryStart repository).length =
      version ++ bundleEnding := by
    rw [Text.afterChars, bundleName_toList, List.append_assoc, ← String.length_toList,
      List.drop_left, ← String.toList_append, String.ofList_toList]
  rw [versionOf, rest, removeAll_bundleEnding noEnding]

theorem ReleaseNumber.bundleEnding_not_infix (number : ReleaseNumber) :
    ¬bundleEnding.toList <:+: number.text.toList := by
  intro within
  have digit (numeral : Numeral) : 'x' ∉ numeral.chars := by
    intro member
    have isDigit := List.all_eq_true.mp numeral.digits 'x' member
    revert isDigit
    decide
  have member : 'x' ∈ number.text.toList := within.subset (by decide)
  rw [text, ending, String.toList_ofList] at member
  cases isIndex : number.candidate with
  | none => simp [isIndex, digit] at member
  | some index => simp [isIndex, digit] at member

theorem HoldsBundles.versionsIn_perm {tree : Tree} {place : Place} {repository : String}
    {releases : List ReleaseNumber} (plain : ∀ c ∈ repository.toList, Text.IsPlain c)
    (holds : HoldsBundles tree place repository releases) :
    (versionsIn tree place repository).Perm (releases.map ReleaseNumber.text) := by
  set texts := releases.map ReleaseNumber.text with isTexts
  have names : (tree.namesLike place (repositoryStart repository ++ "*" ++ bundleEnding)).Perm
      (texts.map (bundleName repository)) := by
    refine (List.perm_ext_iff_of_nodup ((holds.once.children_nodup place).filter _)
      (holds.distinct.map fun _ _ => bundleName_injective)).mpr fun name => ?_
    rw [← Tree.namesLike, mem_namesLike_iff, matches_iff_bundleName plain, List.mem_map]
    constructor
    · rintro ⟨there, version, rfl⟩
      exact ⟨version, (holds.exactly version).mp there, rfl⟩
    · rintro ⟨version, member, rfl⟩
      exact ⟨(holds.exactly version).mpr member, version, rfl⟩
  have read : (texts.map (bundleName repository)).map (versionOf repository) = texts := by
    rw [isTexts, List.map_map, List.map_map]
    exact List.map_congr_left fun number _ => versionOf_bundleName number.bundleEnding_not_infix
  exact (newestFirst_perm _).trans (read ▸ names.map _)

theorem HoldsBundles.exists_listed {tree : Tree} {place : Place} {repository : String}
    {releases : List ReleaseNumber} (plain : ∀ c ∈ repository.toList, Text.IsPlain c)
    (holds : HoldsBundles tree place repository releases) : ∃ listed : List ReleaseNumber,
      versionsIn tree place repository = listed.map ReleaseNumber.text ∧ listed.Perm releases ∧
      listed.Pairwise ReleaseNumber.Precedes := by
  obtain ⟨listed, isListed, same⟩ :=
    (congrFun₂ (List.eq_map_comp_perm ReleaseNumber.text) _ _).mpr (holds.versionsIn_perm plain)
  refine ⟨listed, isListed, same, ?_⟩
  have ordered := newestFirst_pairwise
    ((tree.namesLike place (repositoryStart repository ++ "*" ++ bundleEnding)).map
      (versionOf repository))
  rw [← versionsIn, isListed, List.pairwise_map] at ordered
  refine ordered.imp fun {first second} le => ReleaseNumber.precedes_of_numbersLe ?_
  rwa [ReleaseNumber.versionNumbers_text, ReleaseNumber.versionNumbers_text] at le

theorem resolveVersion_of_cached {world opened : World} {version : String} {others : List String}
    (unset : (world.environment.lookup "GENVM_VERSION").getD "" = "")
    (cached : cachedVersions.runIn world = (.ok (version :: others), opened)) :
    resolveVersion.runIn world = (.ok (.string version), opened) := by
  have given : (Action.given? "GENVM_VERSION").runIn world = (.ok none, world) := by
    change ((Except.ok ((world.environment.lookup "GENVM_VERSION").filter fun value =>
      !value.isEmpty) : Except Failure (Option String)), world) = _
    cases isSet : world.environment.lookup "GENVM_VERSION" with
    | none => rfl
    | some value =>
        rw [isSet] at unset
        cases unset
        rfl
  simp only [resolveVersion, Action.runIn_bind, given, cached, Action.runIn_pure]

/-- The versions in the cache are listed each once, later releases first and later candidates for
one release first, but candidates before the release itself. So the listing is newest first exactly
if no release is there together with a candidate for it, and the version that is used where none is
set is the newest one exactly if it is no candidate for one that is there. -/
theorem cachedVersions_newestFirst_iff {world opened : World} {path : Path}
    {releases : List ReleaseNumber} (plain : ∀ c ∈ world.repository.toList, Text.IsPlain c)
    (opens : cacheDirectory.runIn world = (.ok path, opened))
    (holds : HoldsBundles opened.tree (world.cache.place world.here) world.repository releases) :
    ∃ listed : List ReleaseNumber,
      cachedVersions.runIn world = (.ok (listed.map ReleaseNumber.text), opened) ∧
      listed.Perm releases ∧ listed.Pairwise ReleaseNumber.Precedes ∧
      (NewestFirst listed ↔
        ∀ first ∈ releases, ∀ second ∈ releases, ¬first.CandidateFor second) ∧
      ((world.environment.lookup "GENVM_VERSION").getD "" = "" → ∀ first rest,
        listed = first :: rest → resolveVersion.runIn world = (.ok (.string first.text), opened) ∧
          ((∀ other ∈ releases, ¬other.Newer first) ↔
            ∀ other ∈ releases, ¬first.CandidateFor other)) := by
  obtain ⟨listed, isListed, perm, ordered⟩ := holds.exists_listed plain
  have cached := cachedVersions_of_opened opens
  rw [isListed] at cached
  refine ⟨listed, cached, perm, ordered, ?_, ?_⟩
  · rw [newestFirst_iff ordered]
    simp only [perm.mem_iff]
  · rintro unset first rest rfl
    refine ⟨resolveVersion_of_cached unset cached, ?_⟩
    simp only [← perm.mem_iff]
    exact first_newest_iff ordered

def cacheOf (releases : List ReleaseNumber) : World :=
  let repository := "genlayerlabs/genvm-manager"
  { tree := ⟨(["cache"], .directory) :: releases.map fun number =>
      (["cache", bundleName repository number.text], .file (.bytes []))⟩,
    cache := .ofRoot ["cache"], repository }

theorem holds_cacheOf {releases : List ReleaseNumber}
    (distinct : (releases.map ReleaseNumber.text).Nodup) :
    HoldsBundles (cacheOf releases).tree ["cache"] (cacheOf releases).repository releases := by
  refine ⟨?_, distinct, fun version => ?_⟩
  · have places : (cacheOf releases).tree.entries.map (·.1) = ["cache"] ::
        (releases.map ReleaseNumber.text).map fun version =>
          ["cache", bundleName (cacheOf releases).repository version] := by
      simp [cacheOf]
    rw [Tree.Distinct, places, List.nodup_cons]
    refine ⟨by simp, distinct.map fun first second same => ?_⟩
    exact bundleName_injective (List.cons.inj (List.cons.inj same).2).1
  · rw [Option.isSome_iff_ne_none, Tree.at?_ne_none_iff, List.mem_map]
    constructor
    · rintro (root | ⟨entry, member, atPlace⟩)
      · cases root
      · rcases List.mem_cons.mp member with rfl | isBundle
        · cases atPlace
        · obtain ⟨number, isRelease, rfl⟩ := List.mem_map.mp isBundle
          have sameName := (List.cons.inj (List.cons.inj atPlace).2).1
          exact ⟨number, isRelease, bundleName_injective sameName⟩
    · rintro ⟨number, isRelease, rfl⟩
      exact .inr ⟨_, List.mem_cons_of_mem _ (List.mem_map_of_mem isRelease), rfl⟩

def sixth (candidate : Option Numeral) : ReleaseNumber where
  major := ⟨['0'], by decide, by decide⟩
  minor := ⟨['6'], by decide, by decide⟩
  patch := ⟨['0'], by decide, by decide⟩
  candidate

def firstCandidate : ReleaseNumber := sixth (some ⟨['1'], by decide, by decide⟩)

def tenthCandidate : ReleaseNumber := sixth (some ⟨['1', '0'], by decide, by decide⟩)

theorem newestFirst_of_candidates :
    HoldsBundles (cacheOf [firstCandidate, tenthCandidate]).tree ["cache"]
      "genlayerlabs/genvm-manager" [firstCandidate, tenthCandidate] ∧
    ∃ listed : List ReleaseNumber,
      (cachedVersions.runIn (cacheOf [firstCandidate, tenthCandidate])).1 =
        .ok (listed.map ReleaseNumber.text) ∧
      listed.Perm [firstCandidate, tenthCandidate] ∧ NewestFirst listed := by
  have holds : HoldsBundles (cacheOf [firstCandidate, tenthCandidate]).tree ["cache"] _ _ :=
    holds_cacheOf (by decide)
  obtain ⟨listed, cached, perm, _, newest, _⟩ := cachedVersions_newestFirst_iff
    (Text.isPlain_of_all (by decide)) (cacheDirectory_of_there rfl) holds
  exact ⟨holds, listed, by rw [cached], perm, newest.mpr (by decide)⟩

theorem not_newestFirst_released :
    (cachedVersions.runIn (cacheOf [firstCandidate, sixth none])).1 =
      .ok ["v0.6.0-rc1", "v0.6.0"] ∧
    (resolveVersion.runIn (cacheOf [firstCandidate, sixth none])).1 = .ok (.string "v0.6.0-rc1") ∧
    [firstCandidate, sixth none].map ReleaseNumber.text = ["v0.6.0-rc1", "v0.6.0"] ∧
    (sixth none).Newer firstCandidate := by
  have listed : versionsIn (cacheOf [firstCandidate, sixth none]).tree ["cache"]
      "genlayerlabs/genvm-manager" = ["v0.6.0-rc1", "v0.6.0"] := by
    have names : ((cacheOf [firstCandidate, sixth none]).tree.namesLike ["cache"]
        (repositoryStart "genlayerlabs/genvm-manager" ++ "*" ++ bundleEnding)).map
          (versionOf "genlayerlabs/genvm-manager") = ["v0.6.0-rc1", "v0.6.0"] := by
      decide +kernel
    rw [versionsIn, names]
    exact List.mergeSort_of_pairwise (by decide)
  have cached : cachedVersions.runIn (cacheOf [firstCandidate, sixth none]) =
      (.ok ["v0.6.0-rc1", "v0.6.0"], cacheOf [firstCandidate, sixth none]) :=
    (cachedVersions_of_there rfl).trans (congrArg (Except.ok ·, _) listed)
  refine ⟨by rw [cached], ?_, by decide, .released rfl rfl rfl⟩
  rw [resolveVersion_of_cached rfl cached]

end ContractLint.Release
