import ContractLint.Proofs.Files.Texts
import ContractLint.Proofs.Json.Access
import ContractLint.Proofs.Release.Cleaning

/-! The newest release of a listing. The search keeps the first early release in mind and stops at
the first stable one, so it prefers a stable release wherever that stands; where early releases are
allowed it stops at the first one of either kind. Whatever a server answers, there is a version. -/

namespace ContractLint.Release

open Json (Value bind_eq_ok_iff mapM_eq_ok_iff)

def isSet (release : Value) (flag : String) : Bool := (release.field? flag).any Value.holds

def namesBundle (asset : Value) : Bool :=
  ((asset.field? "name").bind Value.string?).any Failure.bundleAssets.contains

def offersBundle (release : Value) : Bool :=
  match release.field? "assets" with
  | some (.array assets) => assets.any namesBundle
  | _ => false

/-- A release that is published and has a bundle. -/
def isUsable (release : Value) : Bool := !isSet release "draft" && offersBundle release

def isEarly (release : Value) : Bool := isSet release "prerelease"

/-- An asset is an object, and its name, if it has one, is neither an array nor an object. -/
def IsAsset (asset : Value) : Prop :=
  ∃ fields, asset = .object fields ∧
    ((fields.lookup "name").getD .null).hashable = .ok ((fields.lookup "name").getD .null)

/-- A release as listings describe it: with a tag, maybe flags, and a list of assets. -/
structure IsRelease (release : Value) : Prop where
  isObject : ∃ fields, release = .object fields
  tagged : ∃ tag, release.field? "tag_name" = some tag ∧ tag ≠ .null
  assets : ∀ assets, release.field? "assets" = some assets →
    ∃ items, assets = .array items ∧ ∀ item ∈ items, IsAsset item

/-- The release that is preferred: the first usable one where early ones are allowed, else the first
usable one that is not early, else the first usable early one. -/
def preferred? (allowEarly : Bool) (releases : List Value) : Option Value :=
  let usable := releases.filter isUsable
  if allowEarly then usable.head?
  else (usable.find? fun release => !isEarly release).or (usable.find? isEarly)

/-- The tag of the preferred release, or the version to fall back to. -/
def preferredTag (allowEarly : Bool) (releases : List Value) : Value :=
  ((preferred? allowEarly releases).bind (·.field? "tag_name")).getD (.string fallbackVersion)

def assetName (asset : Value) : Value := (asset.field? "name").getD .null

theorem assetName_eq_ok_iff {asset name : Value} :
    (do (← asset.get "name").hashable) = .ok name ↔ IsAsset asset ∧ name = assetName asset := by
  rw [bind_eq_ok_iff]
  constructor
  · rintro ⟨value, isValue, done⟩
    obtain ⟨fields, rfl, rfl⟩ := Value.getOr_eq_ok_iff.mp isValue
    obtain rfl := Value.hashable_eq_ok done
    exact ⟨⟨fields, rfl, done⟩, rfl⟩
  · rintro ⟨⟨fields, rfl, done⟩, rfl⟩
    exact ⟨_, Value.getOr_eq_ok_iff.mpr ⟨fields, rfl, rfl⟩, done⟩

theorem assetNames_eq_ok_iff {assets names : List Value} :
    (assets.mapM fun asset => do (← asset.get "name").hashable) = .ok names ↔
      (∀ asset ∈ assets, IsAsset asset) ∧ names = assets.map assetName := by
  rw [mapM_eq_ok_iff]
  simp only [assetName_eq_ok_iff]
  induction assets generalizing names with
  | nil => simp
  | cons asset assets ih =>
      rw [List.forall₂_cons_left_iff]
      simp only [ih, List.forall_mem_cons, List.map_cons]
      constructor
      · rintro ⟨_, _, ⟨isAsset, rfl⟩, ⟨areAssets, rfl⟩, rfl⟩
        exact ⟨⟨isAsset, areAssets⟩, rfl⟩
      · rintro ⟨⟨isAsset, areAssets⟩, rfl⟩
        exact ⟨_, _, ⟨isAsset, rfl⟩, ⟨areAssets, rfl⟩, rfl⟩

theorem not_isAsset_string (text : String) : ¬IsAsset (.string text) := by
  rintro ⟨fields, same, _⟩
  cases same

theorem offersBundle_eq {fields : List (String × Value)} {items : List Value}
    (listed : ((fields.lookup "assets").getD (.array [])).elements = .ok items)
    (areAssets : ∀ item ∈ items, IsAsset item) :
    offersBundle (.object fields) = items.any namesBundle := by
  rw [offersBundle, Value.field?]
  cases found : fields.lookup "assets" with
  | none =>
      rw [found] at listed
      cases listed
      rfl
  | some assets =>
      rw [found, Option.getD_some] at listed
      cases assets with
      | array values =>
          cases listed
          rfl
      | object names =>
          cases listed
          cases names with
          | nil => rfl
          | cons name names => exact absurd (areAssets _ List.mem_cons_self) (not_isAsset_string _)
      | string text =>
          cases listed
          cases chars : text.toList with
          | nil => rfl
          | cons c rest =>
              rw [chars] at areAssets
              exact absurd (areAssets _ List.mem_cons_self) (not_isAsset_string _)
      | _ => cases listed

theorem any_assetName {test : Value → Bool}
    (isTest : ∀ name, test name = name.string?.any Failure.bundleAssets.contains)
    (assets : List Value) : (assets.map assetName).any test = assets.any namesBundle := by
  rw [List.any_map]
  refine congrArg assets.any (funext fun asset => ?_)
  rw [Function.comp, isTest, assetName, namesBundle]
  cases asset.field? "name" <;> rfl

theorem shipsBundle_eq_ok_iff {release : Value} {ships : Bool} : shipsBundle release = .ok ships ↔
    (∃ fields items, release = .object fields ∧
      ((fields.lookup "assets").getD (.array [])).elements = .ok items ∧
      ∀ item ∈ items, IsAsset item) ∧ ships = offersBundle release := by
  simp only [shipsBundle, bind_eq_ok_iff, Value.getOr_eq_ok_iff, assetNames_eq_ok_iff]
  constructor
  · rintro ⟨_, ⟨fields, rfl, rfl⟩, items, listed, _, ⟨areAssets, rfl⟩, same⟩
    refine ⟨⟨fields, items, rfl, listed, areAssets⟩, ?_⟩
    rw [offersBundle_eq listed areAssets, ← Except.ok.inj same, any_assetName]
    rintro (_ | _ | _ | _ | name | _ | _) <;> rfl
  · rintro ⟨⟨fields, items, rfl, listed, areAssets⟩, rfl⟩
    refine ⟨_, ⟨fields, rfl, rfl⟩, items, listed, _, ⟨areAssets, rfl⟩, ?_⟩
    rw [offersBundle_eq listed areAssets]
    refine congrArg Except.ok (any_assetName ?_ items)
    rintro (_ | _ | _ | _ | name | _ | _) <;> rfl

theorem holds_flag (fields : List (String × Value)) (flag : String) :
    ((fields.lookup flag).getD .null).holds = isSet (.object fields) flag := by
  rw [isSet, Value.field?]
  cases fields.lookup flag <;> rfl

/-- The tag to fall back to once a release with this tag was seen. -/
def kept (candidate tag : Value) : Value :=
  match candidate with
  | .null => tag
  | other => other

theorem newestTag?_cons {release tag : Value} (isRelease : IsRelease release)
    (isTag : release.field? "tag_name" = some tag) (allowEarly : Bool) (candidate : Value)
    (rest : List Value) : newestTag? allowEarly candidate (release :: rest) =
      if isUsable release then
        if isEarly release && !allowEarly then newestTag? allowEarly (kept candidate tag) rest
        else .ok (some tag)
      else newestTag? allowEarly candidate rest := by
  obtain ⟨fields, rfl⟩ := isRelease.isObject
  have ships : shipsBundle (.object fields) = .ok (offersBundle (.object fields)) := by
    refine shipsBundle_eq_ok_iff.mpr ⟨?_, rfl⟩
    cases found : fields.lookup "assets" with
    | none => exact ⟨fields, [], rfl, by rw [found]; rfl, by simp⟩
    | some assets =>
        obtain ⟨items, rfl, areAssets⟩ := isRelease.assets assets found
        exact ⟨fields, items, rfl, by rw [found]; rfl, areAssets⟩
  have flag (key : String) : (Value.object fields).get key =
      .ok ((fields.lookup key).getD .null) := Value.getOr_eq_ok_iff.mpr ⟨fields, rfl, rfl⟩
  have required := Value.require_eq_ok_iff.mpr isTag
  rw [newestTag?.eq_def]
  simp only [flag, ships, required, bind, Except.bind, pure, Except.pure, holds_flag, isUsable,
    isEarly]
  by_cases draft : isSet (.object fields) "draft"
  · simp [draft]
  by_cases offers : offersBundle (.object fields)
  · simp only [draft, offers, Bool.not_true, Bool.not_false, Bool.and_self, Bool.false_eq_true,
      if_true, if_false]
    refine if_congr Iff.rfl ?_ rfl
    cases candidate <;> rfl
  · simp [draft, offers]

def remembered? (candidate : Value) : Option Value :=
  match candidate with
  | .null => none
  | tag => some tag

theorem remembered?_kept {candidate tag : Value} (isTag : tag ≠ .null) :
    remembered? (kept candidate tag) = (remembered? candidate).or (some tag) := by
  cases candidate with
  | null =>
      cases tag with
      | null => exact absurd rfl isTag
      | _ => rfl
  | _ => rfl

theorem newestTag?_of_releases {releases : List Value}
    (areReleases : ∀ release ∈ releases, IsRelease release) (allowEarly : Bool)
    (candidate : Value) : newestTag? allowEarly candidate releases = .ok
      (((releases.find? fun release => isUsable release && (allowEarly || !isEarly release)).bind
        (·.field? "tag_name")).or ((remembered? candidate).or
          ((releases.find? fun release => isUsable release && isEarly release).bind
            (·.field? "tag_name")))) := by
  induction releases generalizing candidate with
  | nil => cases candidate <;> rfl
  | cons release rest ih =>
      rw [List.forall_mem_cons] at areReleases
      obtain ⟨tag, isTag, notNull⟩ := areReleases.1.tagged
      rw [newestTag?_cons areReleases.1 isTag, ih areReleases.2, ih areReleases.2,
        remembered?_kept notNull, List.find?_cons, List.find?_cons]
      by_cases usable : isUsable release
      · by_cases early : isEarly release
        · cases allowEarly with
          | true => simp [usable, early, isTag]
          | false =>
              cases remembered? candidate <;> simp [usable, early, isTag]
        · simp [usable, early, isTag]
      · simp [usable]

theorem newestTag?_eq_preferred {releases : List Value}
    (areReleases : ∀ release ∈ releases, IsRelease release) (allowEarly : Bool) :
    newestTag? allowEarly .null releases =
      .ok ((preferred? allowEarly releases).bind (·.field? "tag_name")) := by
  have taken (test : Value → Bool) (other : Option Value) :
      ((releases.find? test).bind (·.field? "tag_name")).or (other.bind (·.field? "tag_name")) =
        ((releases.find? test).or other).bind (·.field? "tag_name") := by
    cases found : releases.find? test with
    | none => rfl
    | some release =>
        obtain ⟨tag, isTag, _⟩ := (areReleases release (List.mem_of_find?_eq_some found)).tagged
        simp [isTag]
  rw [newestTag?_of_releases areReleases, preferred?]
  refine congrArg Except.ok ((taken _ _).trans (congrArg (Option.bind · _) ?_))
  cases allowEarly with
  | false => simp [List.find?_filter]
  | true =>
      simp only [Bool.true_or, Bool.and_true, List.head?_filter, if_true]
      cases found : releases.find? isUsable with
      | some release => rfl
      | none =>
          have none := List.find?_eq_none.mp found
          refine List.find?_eq_none.mpr fun release member both => ?_
          exact none release member (Bool.and_eq_true_iff.mp both).1

theorem newestTag?_cons_ok {allowEarly : Bool} {candidate release : Value} {rest : List Value}
    {found : Option Value} (done : newestTag? allowEarly candidate (release :: rest) = .ok found) :
    newestTag? allowEarly candidate rest = .ok found ∨
      isUsable release = true ∧ ∃ tag, release.field? "tag_name" = some tag ∧
        (found = some tag ∨ newestTag? allowEarly tag rest = .ok found) := by
  rw [newestTag?.eq_def] at done
  obtain ⟨draft, isDraft, done⟩ := bind_eq_ok_iff.mp done
  obtain ⟨fields, rfl, rfl⟩ := Value.getOr_eq_ok_iff.mp isDraft
  rw [holds_flag] at done
  split at done
  · exact .inl done
  case isFalse published =>
    obtain ⟨ships, doesShip, done⟩ := bind_eq_ok_iff.mp done
    obtain ⟨_, rfl⟩ := shipsBundle_eq_ok_iff.mp doesShip
    split at done
    · exact .inl done
    case isFalse offers =>
      have usable : isUsable (.object fields) = true := by
        simpa [isUsable, published] using offers
      obtain ⟨early, _, done⟩ := bind_eq_ok_iff.mp done
      split at done
      · split at done
        · obtain ⟨tag, isTag, done⟩ := bind_eq_ok_iff.mp done
          exact .inr ⟨usable, tag, Value.require_eq_ok_iff.mp isTag, .inr done⟩
        · exact .inl done
      · obtain ⟨tag, isTag, done⟩ := bind_eq_ok_iff.mp done
        exact .inr ⟨usable, tag, Value.require_eq_ok_iff.mp isTag, .inl (Except.ok.inj done).symm⟩

theorem mem_of_newestTag? {allowEarly : Bool} {candidate tag : Value} {elements : List Value}
    (done : newestTag? allowEarly candidate elements = .ok (some tag)) :
    tag = candidate ∧ candidate ≠ .null ∨
      ∃ release ∈ elements, isUsable release = true ∧ release.field? "tag_name" = some tag := by
  induction elements generalizing candidate with
  | nil =>
      cases candidate with
      | null => cases done
      | _ => exact .inl ⟨(Option.some.inj (Except.ok.inj done)).symm, by simp⟩
  | cons release rest ih =>
      rcases newestTag?_cons_ok done with passed | ⟨usable, seen, isTag, taken | going⟩
      · refine (ih passed).imp_right ?_
        rintro ⟨other, member, isOther⟩
        exact ⟨other, List.mem_cons_of_mem _ member, isOther⟩
      · cases taken
        exact .inr ⟨release, List.mem_cons_self, usable, isTag⟩
      · rcases ih going with ⟨rfl, _⟩ | ⟨other, member, isOther⟩
        · exact .inr ⟨release, List.mem_cons_self, usable, isTag⟩
        · exact .inr ⟨other, List.mem_cons_of_mem _ member, isOther⟩

/-- What the servers answer when they are asked for the releases. -/
def listingReply (world : World) : Reply :=
  world.reply (listingUrl world.repository ++ "?per_page=100")

/-- The servers list the releases of the repository so. -/
def Lists (world : World) (listing : Value) : Prop :=
  ∃ body content chars, listingReply world = .sent body ∧ body.readAll = .ok content ∧
    Text.decodeUtf8 content.raw = .ok chars ∧
    Json.load world.nesting (String.ofList chars) = .ok listing

/-- A read of the body fails before its end, or the body is shorter than was announced. -/
def Broken (body : Body) : Prop :=
  (∃ start failure, body.fault = some (start, failure) ∧ start < body.content.size ∧
    ∀ length ∈ body.announced?, start < length) ∨
  ∃ length, body.announced? = some length ∧ body.content.size < length

theorem Broken.readAll {body : Body} (broken : Broken body) :
    ∃ failure, body.readAll = .error failure := by
  rw [Body.readAll]
  generalize isCount : (body.announced?.getD (body.content.size + 1)).min
    (body.content.size + 1) = count
  dsimp only
  cases fails : body.failureWithin? count with
  | some failure => exact ⟨failure, rfl⟩
  | none =>
      rcases broken with ⟨start, failure, isFault, early, within⟩ | ⟨length, announced, short⟩
      · -- The count is one above the start at least, so that position is read as well.
        have reaches : start < count := by
          rw [← isCount]
          cases announced : body.announced? with
          | none => exact Nat.lt_min.mpr ⟨Nat.lt_succ_of_lt early, Nat.lt_succ_of_lt early⟩
          | some length =>
              exact Nat.lt_min.mpr ⟨within length announced, Nat.lt_succ_of_lt early⟩
        obtain ⟨last, rfl⟩ := Nat.exists_eq_succ_of_ne_zero (Nat.ne_zero_of_lt reaches)
        rw [Body.failureWithin?, Body.failureAt?, isFault] at fails
        simp [Nat.le_of_lt_succ reaches] at fails
      · rw [announced, Option.getD_some, if_neg (by omega)]
        exact ⟨_, rfl⟩

def allowsEarly (world : World) : Bool :=
  world.environment.lookup "GENVM_ALLOW_PRERELEASE" = some "1"

/-- What a search through the elements of a listing comes to. -/
def searched (world : World) (listing : Value) : Except Json.Mismatch (Option Value) := do
  newestTag? (allowsEarly world) .null (← listing.elements)

theorem Lists.unique {world : World} {listing other : Value} (lists : Lists world listing)
    (alsoLists : Lists world other) : listing = other := by
  obtain ⟨body, content, chars, sent, whole, decoded, loaded⟩ := lists
  obtain ⟨_, _, _, sameSent, sameWhole, sameDecoded, sameLoaded⟩ := alsoLists
  cases sent.symm.trans sameSent
  cases whole.symm.trans sameWhole
  cases decoded.symm.trans sameDecoded
  exact Except.ok.inj (loaded.symm.trans sameLoaded)

theorem runIn_fetchText (url : String) (world : World) : ∃ result,
    (fetchText url).runIn world = (result, { world with requests := world.requests ++ [url] }) ∧
    ∀ text, result = .ok text ↔ ∃ body content chars, world.reply url = .sent body ∧
      body.readAll = .ok content ∧ Text.decodeUtf8 content.raw = .ok chars ∧
      text = String.ofList chars := by
  generalize isAsked : { world with requests := world.requests ++ [url] } = asked
  have noted : (modify fun world : World => { world with requests := world.requests ++ [url] } :
      Action PUnit).runIn world = (.ok ⟨⟩, asked) := isAsked ▸ rfl
  have same : asked.reply url = world.reply url := isAsked ▸ rfl
  simp only [fetchText, Action.request, Action.runIn_bind, noted, Action.runIn_get, same]
  cases world.reply url with
  | failed failure => exact ⟨.error failure, rfl, by simp⟩
  | sent body =>
      simp only [Action.runIn_pure]
      cases whole : body.readAll with
      | error failure => exact ⟨.error failure, rfl, by simp [whole]⟩
      | ok content =>
          cases decoded : Text.decodeUtf8 content.raw with
          | error fault =>
              refine ⟨.error (.notText fault), ?_, by simp [whole, decoded]⟩
              simp only [decoded]
              rfl
          | ok chars =>
              refine ⟨.ok (String.ofList chars), ?_, by simp [whole, decoded, eq_comm]⟩
              simp only [decoded]
              rfl

theorem listedVersion_eq_ok_iff {world : World} {found : Option Value} :
    (listedVersion?.runIn world).1 = .ok found ↔
      ∃ listing, Lists world listing ∧ searched world listing = .ok found := by
  obtain ⟨result, fetched, isText⟩ :=
    runIn_fetchText (listingUrl world.repository ++ "?per_page=100") world
  have lists_iff (listing : Value) : Lists world listing ↔
      ∃ text, result = .ok text ∧ Json.load world.nesting text = .ok listing := by
    simp only [isText, Lists]
    constructor
    · rintro ⟨body, content, chars, sent, whole, decoded, loaded⟩
      exact ⟨_, ⟨body, content, chars, sent, whole, decoded, rfl⟩, loaded⟩
    · rintro ⟨_, ⟨body, content, chars, sent, whole, decoded, rfl⟩, loaded⟩
      exact ⟨body, content, chars, sent, whole, decoded, loaded⟩
  simp only [lists_iff, listedVersion?, Action.runIn_bind, Action.runIn_get, fetched]
  cases result with
  | error failure => simp
  | ok text =>
      have parsed (requests : List String) :
          (Action.parseJson text).runIn { world with requests := requests } =
            ((Json.load world.nesting text).mapError .notJson, { world with requests := requests }) :=
        Action.runIn_parseJson text _
      simp only [parsed]
      cases loaded : Json.load world.nesting text with
      | error problem => simp [Except.mapError, loaded]
      | ok listing =>
          change ((Action.attempt (searched world listing)).runIn _).1 = .ok found ↔ _
          cases isFound : searched world listing with
          | error mismatch => simp [Action.attempt, loaded, isFound]
          | ok version => simp [Action.attempt, loaded, isFound]

theorem latestVersion_eq (world : World) : (latestVersion.runIn world).1 =
    .ok ((listedVersion?.runIn world).1.toOption.join.getD (.string fallbackVersion)) := by
  simp only [latestVersion, Action.runIn_bind, Action.runIn_get, Action.runIn_outcome]
  rcases (listedVersion?.runIn world).1 with failure | _ | tag
  · rfl
  · rfl
  · rfl

theorem latestVersion_of_not_listed {world : World}
    (none : ∀ listing found, Lists world listing → searched world listing ≠ .ok found) :
    (latestVersion.runIn world).1 = .ok (.string fallbackVersion) := by
  rw [latestVersion_eq]
  cases listed : (listedVersion?.runIn world).1 with
  | error failure => rfl
  | ok found =>
      obtain ⟨listing, lists, isFound⟩ := listedVersion_eq_ok_iff.mp listed
      exact absurd isFound (none listing found lists)

/-- There is a version whatever the servers answer: the one to fall back to, or the tag of a usable
release that they list. Where they list releases it is that of the preferred one. It is the one to
fall back to where they refuse, break off or send less than they announced, where what they send is
no listing, and where a search cannot get through it. -/
theorem latestVersion_preferred (world : World) :
    (∃ version, (latestVersion.runIn world).1 = .ok version ∧
      (version = .string fallbackVersion ∨ ∃ listing elements release, Lists world listing ∧
        listing.elements = .ok elements ∧ release ∈ elements ∧ isUsable release = true ∧
        release.field? "tag_name" = some version)) ∧
    (∀ releases, Lists world (.array releases) → (∀ release ∈ releases, IsRelease release) →
      (latestVersion.runIn world).1 = .ok (preferredTag (allowsEarly world) releases)) ∧
    ((∃ failure, listingReply world = .failed failure) ∨
        (∃ body, listingReply world = .sent body ∧ Broken body) →
      (latestVersion.runIn world).1 = .ok (.string fallbackVersion)) ∧
    ((∀ listing, ¬Lists world listing) →
      (latestVersion.runIn world).1 = .ok (.string fallbackVersion)) ∧
    ∀ listing mismatch, Lists world listing → searched world listing = .error mismatch →
      (latestVersion.runIn world).1 = .ok (.string fallbackVersion) := by
  have without (none : ∀ listing, ¬Lists world listing) :
      (latestVersion.runIn world).1 = .ok (.string fallbackVersion) :=
    latestVersion_of_not_listed fun listing _ lists => absurd lists (none listing)
  refine ⟨⟨_, latestVersion_eq world, ?_⟩, ?_, ?_, without, ?_⟩
  · rcases listed : (listedVersion?.runIn world).1 with failure | _ | tag
    · exact .inl rfl
    · exact .inl rfl
    · obtain ⟨listing, lists, isFound⟩ := listedVersion_eq_ok_iff.mp listed
      obtain ⟨elements, areElements, isFound⟩ := bind_eq_ok_iff.mp isFound
      rcases mem_of_newestTag? isFound with ⟨_, notNull⟩ | ⟨release, member, usable, isTag⟩
      · exact absurd rfl notNull
      · exact .inr ⟨listing, elements, release, lists, areElements, member, usable, isTag⟩
  · intro releases lists areReleases
    have listed := listedVersion_eq_ok_iff.mpr
      ⟨_, lists, newestTag?_eq_preferred areReleases (allowsEarly world)⟩
    rw [latestVersion_eq, listed]
    rfl
  · rintro (⟨failure, refuses⟩ | ⟨body, sends, broken⟩) <;> refine without fun listing lists => ?_
    · obtain ⟨_, _, _, sent, _⟩ := lists
      cases refuses.symm.trans sent
    · obtain ⟨_, _, _, sent, whole, _⟩ := lists
      cases sends.symm.trans sent
      obtain ⟨failure, fails⟩ := broken.readAll
      cases fails.symm.trans whole
  · intro listing mismatch lists failed
    refine latestVersion_of_not_listed fun other found alsoLists => ?_
    rw [← lists.unique alsoLists, failed]
    simp

def releaseOf (tag asset : String) (isDraft isEarly : Bool) : Value :=
  .object [("tag_name", .string tag), ("draft", .bool isDraft), ("prerelease", .bool isEarly),
    ("assets", .array [.object [("name", .string asset)]])]

theorem isRelease_releaseOf (tag asset : String) (isDraft isEarly : Bool) :
    IsRelease (releaseOf tag asset isDraft isEarly) := by
  refine ⟨⟨_, rfl⟩, ⟨.string tag, rfl, by simp⟩, ?_⟩
  rintro _ ⟨⟩
  refine ⟨_, rfl, fun item member => ?_⟩
  obtain rfl := List.mem_singleton.mp member
  exact ⟨_, rfl, rfl⟩

theorem releaseOf_exact (tag asset : String) (isDraft isEarly : Bool) :
    (releaseOf tag asset isDraft isEarly).Exact := by
  have named : (Value.object [("name", .string asset)]).Exact :=
    .object (by simp) (List.forall_mem_singleton.mpr (.string asset))
  refine .object (show List.Nodup ["tag_name", "draft", "prerelease", "assets"] by decide) ?_
  simp only [List.forall_mem_cons]
  exact ⟨.string tag, .bool isDraft, .bool isEarly, .array (List.forall_mem_singleton.mpr named),
    by simp⟩

theorem releaseOf_within (tag asset : String) (isDraft isEarly : Bool) (spare : Nat) :
    (releaseOf tag asset isDraft isEarly).Within
      ⟨some Json.digitLimit, some (spare + 99)⟩ := by
  refine .object rfl ?_
  simp only [List.forall_mem_cons]
  refine ⟨.string tag, .bool isDraft, .bool isEarly, .array rfl ?_, by simp⟩
  rw [List.forall_mem_singleton]
  exact .object rfl (List.forall_mem_singleton.mpr (.string asset))

def listingWorld (releases : List Value) (fault : Option (Nat × Failure)) : World :=
  { replies := [(listingUrl "genlayerlabs/genvm-manager" ++ "?per_page=100",
      .sent ⟨.ofText (Value.array releases).spaced, none, [], fault⟩)] }

theorem listingReply_listingWorld (releases : List Value) (fault : Option (Nat × Failure)) :
    listingReply (listingWorld releases fault) =
      .sent ⟨.ofText (Value.array releases).spaced, none, [], fault⟩ := by
  simp [listingReply, World.reply, listingWorld]

theorem lists_listingWorld {releases : List Value} (each : ∀ release ∈ releases, release.Exact)
    (eachWithin : ∀ release ∈ releases,
      release.Within ⟨some Json.digitLimit, some (850 + 99)⟩) :
    Lists (listingWorld releases none) (.array releases) := by
  have exact : (Value.array releases).Exact := .array each
  have ascii : ∀ c ∈ (Value.array releases).spaced.toList, c.toNat < 128 := fun c member =>
    Nat.lt_trans (exact.spaced_isPrinted c member).2 (by decide)
  refine ⟨_, _, _, listingReply_listingWorld releases none, ?_,
    Files.Content.decodeUtf8_ofText ascii, ?_⟩
  · simp [Body.readAll, Body.announced?, Body.failureWithin?, Body.failureAt?, Files.Content.first]
  · rw [String.ofList_toList]
    exact Json.load_spaced exact (.array rfl eachWithin)

def mixedReleases : List Value :=
  [releaseOf "v0.7.0" "genvm-universal.tar.xz" true false,
    releaseOf "v0.6.0-rc1" "genvm-runners-all.tar.xz" false true,
    releaseOf "v0.5.0" "genvm-linux-amd64.tar.xz" false false,
    releaseOf "v0.4.0" "genvm-universal.tar.xz" false false,
    releaseOf "v0.3.0" "genvm-universal.tar.xz" false false]

theorem latestVersion_preferred_mixed :
    (Lists (listingWorld mixedReleases none) (.array mixedReleases) ∧
      (∀ release ∈ mixedReleases, IsRelease release) ∧
      (latestVersion.runIn (listingWorld mixedReleases none)).1 = .ok (.string "v0.4.0")) ∧
    (latestVersion.runIn (listingWorld mixedReleases (some (60, .connectionReset)))).1 =
      .ok (.string fallbackVersion) := by
  have lists : Lists (listingWorld mixedReleases none) (.array mixedReleases) := by
    refine lists_listingWorld ?_ ?_
    · simp [mixedReleases, releaseOf_exact]
    · simp only [mixedReleases, List.forall_mem_cons, List.not_mem_nil, false_imp_iff,
        implies_true, and_true]
      exact ⟨releaseOf_within .., releaseOf_within .., releaseOf_within .., releaseOf_within ..,
        releaseOf_within ..⟩
  have areReleases : ∀ release ∈ mixedReleases, IsRelease release := by
    simp [mixedReleases, isRelease_releaseOf]
  refine ⟨⟨lists, areReleases, (latestVersion_preferred _).2.1 _ lists areReleases⟩, ?_⟩
  refine (latestVersion_preferred _).2.2.1 (.inr ⟨_, listingReply_listingWorld _ _, .inl ?_⟩)
  refine ⟨60, .connectionReset, rfl, ?_, by simp [Body.announced?]⟩
  simp only [Files.Content.ofText, Files.Content.size, Value.spaced, Value.render,
    String.toList_ofList]
  decide +kernel

end ContractLint.Release
