import ContractLint.Proofs.Files.Beside
import ContractLint.Proofs.Release.Isolation

/-! Downloads, whatever servers and reports do. Either the target holds all of the first file that
some server has, or there was a failure and all files are as before. -/

namespace ContractLint

/-- The second world follows the first one when servers have been asked for these addresses. -/
structure World.Asked (world after : World) (urls : List String) : Prop
    extends World.Settled world after where
  replies : after.replies = world.replies
  requests : after.requests = world.requests ++ urls

theorem World.Asked.refl (world : World) : world.Asked world [] :=
  ⟨.refl world, rfl, (List.append_nil _).symm⟩

theorem World.Asked.trans {world middle after : World} {first second : List String}
    (before : world.Asked middle first) (next : middle.Asked after second) :
    world.Asked after (first ++ second) :=
  ⟨before.toSettled.trans next.toSettled, next.replies.trans before.replies, by
    rw [next.requests, before.requests, List.append_assoc]⟩

theorem World.Asked.withTree {world after : World} {urls : List String}
    (asked : world.Asked after urls) (tree : Files.Tree) : world.Asked { after with tree } urls :=
  ⟨⟨asked.here, asked.cache, asked.repository⟩, asked.replies, asked.requests⟩

theorem World.Asked.reply {world after : World} {urls : List String} (asked : world.Asked after urls)
    (url : String) : after.reply url = world.reply url := by
  rw [World.reply, World.reply, asked.replies]

def Failure.IsRefusal (failure : Failure) : Prop := ∃ status reason, failure = .refused status reason

/-- Reading it may fail, but refusals come in the place of a body. -/
def Body.Granted (body : Body) : Prop :=
  ∀ position failure, body.failureAt? position = some failure → ¬failure.IsRefusal

theorem Body.failureAt?_mono {body : Body} {position later : Nat} {failure : Failure}
    (fails : body.failureAt? position = some failure) (order : position ≤ later) :
    body.failureAt? later = some failure := by
  rw [failureAt?] at fails ⊢
  split at fails
  · split at fails
    · rw [if_pos (by omega), fails]
    · cases fails
  · cases fails

end ContractLint

namespace ContractLint.Release

open Files (Content Entry IsName Path Place Tree)

/-- What hears of progress stays away from files and servers; what it raises is no refusal. -/
structure Progress.Quiet (report : Progress) : Prop where
  asked : ∀ downloaded total world, World.Asked world ((report downloaded total).runIn world).2 []
  tree : ∀ downloaded total world, ((report downloaded total).runIn world).2.tree = world.tree
  raised : ∀ downloaded total world failure,
    ((report downloaded total).runIn world).1 = .error failure → ¬failure.IsRefusal

/-- Why a body that a server sent did not become a file of the directory. -/
inductive Interrupted (tree : Tree) (here : Place) (directory : Path) (body : Body)
    (report : Progress) : Failure → Prop
  | length {text : String} (announced : body.length = some text)
      (notWhole : Text.readInt? text = none) :
      Interrupted tree here directory body report (.notWhole text)
  | directory {fault : Files.FileFault} (missing : tree.hasDirectory here directory = false) :
      Interrupted tree here directory body report (.file fault)
  | read {failure : Failure} (fails : body.failureAt? body.content.size = some failure) :
      Interrupted tree here directory body report failure
  | report {failure : Failure} {downloaded : Nat} {total : Int} {during : World}
      (raised : ((report downloaded total).runIn during).1 = .error failure) :
      Interrupted tree here directory body report failure

/-- What comes of a download from one address, and the tree after it. -/
inductive Delivered (world : World) (url : String) (target : Path) (report : Progress) :
    Except Failure Unit → Tree → Prop
  | refused {failure : Failure} (reply : world.reply url = .failed failure) :
      Delivered world url target report (.error failure) world.tree
  | interrupted {body : Body} {failure : Failure} (reply : world.reply url = .sent body)
      (why : Interrupted world.tree world.here target.parent body report failure) :
      Delivered world url target report (.error failure) world.tree
  | complete {body : Body} (reply : world.reply url = .sent body)
      (there : world.tree.hasDirectory world.here target.parent = true)
      (whole : body.failureAt? body.content.size = none) :
      Delivered world url target report (.ok ())
        (world.tree.put (target.place world.here) (.file body.content))

structure Unused (world : World) (directory : Path) (name : String) : Prop where
  isName : IsName name
  there : world.tree.hasDirectory world.here directory = true
  absent : world.tree.at? (directory.place world.here ++ [name]) = none

structure Filling (world : World) (directory : Path) (name : String) (content : Content)
    (during : World) : Prop extends World.Asked world during [] where
  tree : during.tree = world.tree.put (directory.place world.here ++ [name]) (.file content)

section

variable {world during : World} {directory : Path} {name last : String}
  {content : Content} {report : Progress} {body : Body}

theorem Filling.there (filling : Filling world directory name content during)
    (unused : Unused world directory name) :
    during.tree.hasDirectory during.here directory = true := by
  rw [filling.here, filling.tree]
  exact Tree.hasDirectory_put unused.absent unused.there

theorem Filling.found (filling : Filling world directory name content during) :
    during.tree.at? (directory.place during.here ++ [name]) = some (.file content) := by
  rw [filling.here, filling.tree, Tree.at?_put_self (by simp)]

theorem Filling.removed (filling : Filling world directory name content during)
    (unused : Unused world directory name) (based : world.tree.Based) :
    during.tree.remove (directory.place during.here ++ [name]) = world.tree := by
  rw [filling.here, filling.tree, Tree.remove_put based unused.absent]

theorem Filling.write (filling : Filling world directory name content during)
    (unused : Unused world directory name) (next : Content) : ∃ after,
      (Action.write (directory.child name) next).runIn during = (.ok (), after) ∧
        Filling world directory name next after := by
  have written : during.tree.write during.here (directory.child name) next =
      .ok (world.tree.put (directory.place world.here ++ [name]) (.file next)) := by
    rw [Tree.write_of_there unused.isName next (filling.there unused)
      (by rw [filling.found]; nofun), filling.here, filling.tree, Tree.put_put unused.absent]
  exact ⟨_, Action.changeTree_of_ok written, filling.withTree _, rfl⟩

theorem Unused.begin (unused : Unused world directory name) (content : Content) : ∃ after,
    (Action.write (directory.child name) content).runIn world = (.ok (), after) ∧
      Filling world directory name content after := by
  have written := Tree.write_of_there unused.isName content unused.there
    (by rw [unused.absent]; nofun)
  exact ⟨_, Action.changeTree_of_ok written, (World.Asked.refl world).withTree _, rfl⟩

theorem Filling.reported (filling : Filling world directory name content during)
    (quiet : report.Quiet) (downloaded : Nat) (total : Int) :
    Filling world directory name content ((report downloaded total).runIn during).2 :=
  ⟨filling.toAsked.trans (quiet.asked downloaded total during),
    (quiet.tree downloaded total during).trans filling.tree⟩

theorem transfer_run (quiet : report.Quiet) (unused : Unused world directory name) (total : Int)
    (sizes : List Nat) {position : Nat} (bound : position ≤ body.content.size)
    (filling : Filling world directory name (body.content.first position) during) :
    ∃ result content after,
      (transfer body (directory.child name) total report sizes position).runIn during =
        (result, after) ∧
      Filling world directory name content after ∧
      ((result = .ok () ∧ content = body.content ∧ body.failureAt? body.content.size = none) ∨
        ∃ failure, result = .error failure ∧
          Interrupted world.tree world.here directory body report failure) := by
  induction remaining : body.content.size - position using Nat.strongRecOn
    generalizing position sizes during with
  | ind remaining ih =>
      rw [transfer]
      cases fails : body.failureAt? position with
      | some failure =>
          have unread := Body.failureAt?_mono fails bound
          exact ⟨_, _, _, rfl, filling, .inr ⟨failure, rfl, .read unread⟩⟩
      | none =>
          by_cases ended : body.content.size ≤ position
          · have whole : position = body.content.size := by omega
            rw [whole, Content.first, if_pos (Nat.le_refl _)] at filling
            rw [whole] at fails
            exact ⟨.ok (), body.content, during, by simp [ended], filling, .inl ⟨rfl, rfl, fails⟩⟩
          simp only [if_neg ended, Action.runIn_bind]
          generalize isNext : min (position + chunkOf sizes.head?) body.content.size = next
          have further : position < next ∧ next ≤ body.content.size := by
            rw [chunkOf] at isNext
            omega
          obtain ⟨_, written, filled⟩ := filling.write unused (body.content.first next)
          simp only [written]
          have reported := filled.reported quiet next total
          split
          case h_1 run =>
            rw [run] at reported
            exact ih _ (by omega) _ further.2 reported rfl
          case h_2 failure _ run =>
            have raised := congrArg Prod.fst run
            rw [run] at reported
            exact ⟨_, _, _, rfl, reported, .inr ⟨failure, rfl, .report raised⟩⟩

theorem Filling.moveFile (filling : Filling world directory name content during)
    (unused : Unused world directory name) (based : world.tree.Based) (isLast : IsName last)
    (free : world.tree.at? (directory.place world.here ++ [last]) ≠ some .directory) : ∃ after,
      (Release.moveFile (directory.child name) (directory.child last)).runIn during =
        (.ok (), after) ∧ world.Asked after [] ∧
      after.tree = world.tree.put (directory.place world.here ++ [last]) (.file content) := by
  have read : (Action.read (directory.child name)).runIn during = (.ok content, during) := by
    rw [Action.read, Action.runIn_onTree,
      Tree.read_child unused.isName (filling.there unused) filling.found]
    rfl
  have written : (during.tree.locate during.here (directory.child name) >>= fun place =>
      (during.tree.remove place).write during.here (directory.child last) content) =
      .ok (world.tree.put (directory.place world.here ++ [last]) (.file content)) := by
    rw [Tree.locate_child unused.isName (filling.there unused)]
    change Tree.write (during.tree.remove _) _ _ _ = _
    rw [filling.removed unused based, filling.here,
      Tree.write_of_there isLast content unused.there free]
  rw [Release.moveFile, Action.runIn_bind, read]
  exact ⟨_, Action.changeTree_of_ok written, filling.withTree _, rfl⟩

theorem Filling.removeFile (filling : Filling world directory name content during)
    (unused : Unused world directory name) (based : world.tree.Based) :
    (Action.has (directory.child name)).runIn during = (.ok true, during) ∧
      ∃ after, (Release.removeFile (directory.child name)).runIn during = (.ok (), after) ∧
        world.Asked after [] ∧ after.tree = world.tree := by
  constructor
  · rw [Action.has, Action.runIn_ask, Tree.has,
      Tree.find?_child unused.isName (filling.there unused), filling.found]
    rfl
  · refine ⟨_, Action.changeTree_of_ok ?_, filling.withTree _, rfl⟩
    simp only [Tree.locate_child unused.isName (filling.there unused), bind, Except.bind,
      filling.removed unused based]
    rfl

theorem announcedLength_run (length : Option String) (world : World) :
    (∃ total, (announcedLength length).runIn world = (.ok total, world)) ∨
      ∃ text, length = some text ∧ Text.readInt? text = none ∧
        (announcedLength length).runIn world = (.error (.notWhole text), world) := by
  cases length with
  | none => exact .inl ⟨0, rfl⟩
  | some text =>
      rw [announcedLength]
      cases read : Text.readInt? text with
      | some value => exact .inl ⟨value, rfl⟩
      | none => exact .inr ⟨text, rfl, read, rfl⟩

theorem pathBeside_of_there (isLast : IsName last)
    (there : world.tree.hasDirectory world.here directory = true) :
    ∃ name, (pathBeside (directory.child last)).runIn world = (.ok (directory.child name), world) ∧
      Unused world directory name := by
  refine ⟨world.tree.freshName (directory.place world.here), ?_, Tree.freshName_isName _ _, there,
    Tree.at?_freshName _ _⟩
  simp only [pathBeside, Path.parent_child isLast, Action.runIn_bind, Action.runIn_onTree,
    Tree.locate_of_hasDirectory there]
  rfl

theorem pathBeside_of_not_there (isLast : IsName last)
    (missing : world.tree.hasDirectory world.here directory = false) :
    (∃ fault, (pathBeside (directory.child last)).runIn world = (.error (.file fault), world)) ∨
      ∃ file, (pathBeside (directory.child last)).runIn world = (.ok file, world) ∧
        ∀ content, ∃ fault,
          (Action.write file content).runIn world = (.error (.file fault), world) := by
  simp only [pathBeside, Path.parent_child isLast, Action.runIn_bind, Action.runIn_onTree]
  cases located : world.tree.locate world.here directory with
  | error fault => exact .inl ⟨fault, rfl⟩
  | ok place =>
      refine .inr ⟨directory.child (world.tree.freshName place), rfl, fun content => ?_⟩
      obtain ⟨fault, refused⟩ := Tree.write_child_of_not_there
        (Tree.freshName_isName world.tree place) content missing
      exact ⟨fault, by rw [Action.write, Action.runIn_changeTree, refused]⟩

theorem request_run (url : String) (world : World) : ∃ after, world.Asked after [url] ∧
    after.tree = world.tree ∧
    ((∃ failure, world.reply url = .failed failure ∧
        (Action.request url).runIn world = (.error failure, after)) ∨
      ∃ body, world.reply url = .sent body ∧
        (Action.request url).runIn world = (.ok body, after)) := by
  generalize isAfter : { world with requests := world.requests ++ [url] } = after
  have asked : world.Asked after [url] := isAfter ▸ ⟨⟨rfl, rfl, rfl⟩, rfl, rfl⟩
  have noted : (modify fun world : World => { world with requests := world.requests ++ [url] } :
      Action PUnit).runIn world = (.ok ⟨⟩, after) := isAfter ▸ rfl
  refine ⟨after, asked, isAfter ▸ rfl, ?_⟩
  simp only [Action.request, Action.runIn_bind, noted, Action.runIn_get, asked.reply]
  cases world.reply url with
  | sent body => exact .inr ⟨body, rfl, rfl⟩
  | failed failure => exact .inl ⟨failure, rfl, rfl⟩

theorem downloadTo_run (based : world.tree.Based) (quiet : report.Quiet) (isLast : IsName last)
    (absent : world.tree.has world.here (directory.child last) = false) (url : String) :
    ∃ result after, (downloadTo url (directory.child last) report).runIn world = (result, after) ∧
      world.Asked after [url] ∧ Delivered world url (directory.child last) report result after.tree := by
  obtain ⟨asking, asked, sameTree, ⟨failure, reply, requested⟩ | ⟨body, reply, requested⟩⟩ :=
    request_run url world
  · refine ⟨.error failure, asking, ?_, asked, sameTree ▸ .refused reply⟩
    simp only [downloadTo, Action.runIn_bind, requested]
  have unchanged {failure : Failure}
      (why : Interrupted asking.tree asking.here directory body report failure) :
      Delivered world url (directory.child last) report (.error failure) asking.tree := by
    rw [sameTree, asked.here, ← Path.parent_child isLast directory] at why
    exact sameTree ▸ .interrupted reply why
  rcases announcedLength_run body.length asking with
    ⟨total, announced⟩ | ⟨text, announces, notWhole, fails⟩
  case inr =>
    refine ⟨_, asking, ?_, asked, unchanged (.length announces notWhole)⟩
    simp only [downloadTo, Action.runIn_bind, requested, fails]
  cases there : asking.tree.hasDirectory asking.here directory with
  | false =>
      rcases pathBeside_of_not_there isLast there with ⟨fault, fails⟩ | ⟨file, beside, unwritten⟩
      · refine ⟨.error (.file fault), asking, ?_, asked, unchanged (.directory there)⟩
        simp only [downloadTo, Action.runIn_bind, requested, announced, fails]
      · obtain ⟨fault, fails⟩ := unwritten (body.content.first 0)
        refine ⟨.error (.file fault), asking, ?_, asked, unchanged (.directory there)⟩
        simp only [downloadTo, Action.runIn_bind, requested, announced, beside, fails]
  | true =>
      obtain ⟨name, beside, unused⟩ := pathBeside_of_there isLast there
      obtain ⟨begun, began, filling⟩ := unused.begin (body.content.first 0)
      obtain ⟨result, content, ended, transferred, filled, outcome⟩ :=
        transfer_run quiet unused total body.sizes (Nat.zero_le _) filling
      have stillBased : asking.tree.Based := sameTree ▸ based
      rcases outcome with ⟨rfl, rfl, whole⟩ | ⟨failure, rfl, why⟩
      · have free : asking.tree.at? (directory.place asking.here ++ [last]) ≠ some .directory := by
          rw [← Tree.find?_child isLast there, sameTree, asked.here]
          intro found
          rw [Tree.has, found] at absent
          cases absent
        obtain ⟨after, moved, quietly, target⟩ :=
          filled.moveFile unused stillBased isLast free
        refine ⟨.ok (), after, ?_, asked.trans quietly, ?_⟩
        · simp only [downloadTo, Action.runIn_bind, requested, announced, beside, began,
            Action.runIn_outcome, transferred, moved, Action.runIn_pure]
        · rw [sameTree, asked.here, ← Path.parent_child isLast directory] at there
          rw [target, asked.here, sameTree, ← Path.place_child_name isLast]
          exact .complete reply there whole
      · obtain ⟨found, after, removed, quietly, same⟩ := filled.removeFile unused stillBased
        refine ⟨.error failure, after, ?_, asked.trans quietly, same ▸ unchanged why⟩
        simp only [downloadTo, Action.runIn_bind, requested, announced, beside, began,
          Action.runIn_outcome, transferred, found, if_true, removed, Action.runIn_throw]

end

def Missing (world : World) (version asset : String) : Prop :=
  ∃ reason, world.reply (assetUrl world.repository version asset) = .failed (.refused 404 reason)

/-- The first file that is not missing, with those before it. -/
structure FirstFound (world : World) (version : String) (assets before : List String)
    (asset : String) : Prop where
  listed : before ++ [asset] <+: assets
  missing : ∀ other ∈ before, Missing world version other
  found : ¬Missing world version asset

def assetUrls (world : World) (version : String) (assets : List String) : List String :=
  assets.map (assetUrl world.repository version)

/-- What comes of looking for a release under the names of these files: what is returned, what has
been asked for, and the tree after it. -/
inductive Fetched (world : World) (version : String) (target : Path) (report : Progress)
    (assets : List String) : Except Failure Unit → List String → Tree → Prop
  | nowhere (missing : ∀ asset ∈ assets, Missing world version asset) :
      Fetched world version target report assets (.error (.noBundle version))
        (assetUrls world version assets) world.tree
  | tried {before : List String} {asset : String} {result : Except Failure Unit} {tree : Tree}
      (first : FirstFound world version assets before asset)
      (delivered : Delivered world (assetUrl world.repository version asset) target report
        result tree) :
      Fetched world version target report assets result
        (assetUrls world version (before ++ [asset])) tree

section

variable {world during : World} {directory target : Path} {version last url : String}
  {report : Progress} {body : Body} {failure : Failure} {result : Except Failure Unit}
  {tree : Tree} {urls : List String}

theorem Interrupted.not_refusal {here : Place} (quiet : report.Quiet) (granted : body.Granted)
    (why : Interrupted tree here directory body report failure) : ¬failure.IsRefusal := by
  cases why with
  | length _ _ => nofun
  | directory _ => nofun
  | read fails => exact granted _ _ fails
  | report raised => exact quiet.raised _ _ _ _ raised

theorem Delivered.of_failed (delivered : Delivered world url target report result tree)
    (reply : world.reply url = .failed failure) : result = .error failure ∧ tree = world.tree := by
  cases delivered with
  | refused other =>
      rw [reply] at other
      cases other
      exact ⟨rfl, rfl⟩
  | interrupted other _ =>
      rw [reply] at other
      cases other
  | complete other _ _ =>
      rw [reply] at other
      cases other

theorem Delivered.reply_of_refusal (quiet : report.Quiet)
    (granted : ∀ body, world.reply url = .sent body → body.Granted)
    (delivered : Delivered world url target report (.error failure) tree)
    (isRefusal : failure.IsRefusal) : world.reply url = .failed failure := by
  cases delivered with
  | refused reply => exact reply
  | interrupted reply why => exact absurd isRefusal (why.not_refusal quiet (granted _ reply))

theorem Delivered.before (asked : world.Asked during urls) (same : during.tree = world.tree)
    (delivered : Delivered during url target report result tree) :
    Delivered world url target report result tree := by
  cases delivered with
  | refused reply => exact same ▸ .refused (asked.reply url ▸ reply)
  | interrupted reply why =>
      rw [asked.here] at why
      exact same ▸ .interrupted (asked.reply url ▸ reply) (same ▸ why)
  | complete reply there whole =>
      rw [asked.here, same] at there ⊢
      exact .complete (asked.reply url ▸ reply) there whole

theorem Delivered.grows (isLast : IsName last)
    (absent : world.tree.has world.here (directory.child last) = false)
    (delivered : Delivered world url (directory.child last) report result tree) :
    world.tree.Grows (fun _ => False) (fun place => world.tree.at? place = none ∧
      place = directory.place world.here ++ [last]) tree := by
  cases delivered with
  | refused _ => exact .refl _
  | interrupted _ _ => exact .refl _
  | complete _ there _ =>
      rw [Path.parent_child isLast] at there
      have free : world.tree.at? (directory.place world.here ++ [last]) = none := by
        rw [← Tree.find?_child isLast there]
        exact Option.isNone_iff_eq_none.mp (by simpa [Tree.has] using absent)
      rw [Path.place_child_name isLast]
      refine Tree.put_grows (.inr ⟨⟨free, rfl⟩, by simp [free], _, rfl⟩) fun _ => ?_
      rw [List.dropLast_concat]
      exact Tree.hasDirectory_iff.mp there _ List.prefix_rfl

theorem Delivered.tree_of_error
    (delivered : Delivered world url target report (.error failure) tree) : tree = world.tree := by
  cases delivered <;> rfl

theorem downloadFirst_run (based : world.tree.Based) (quiet : report.Quiet) (isLast : IsName last)
    (absent : world.tree.has world.here (directory.child last) = false)
    {assets before rest : List String} (listed : before ++ rest = assets)
    (granted : ∀ asset ∈ assets, ∀ body,
      world.reply (assetUrl world.repository version asset) = .sent body → body.Granted)
    (missing : ∀ asset ∈ before, Missing world version asset)
    (asked : world.Asked during (assetUrls world version before))
    (same : during.tree = world.tree) : ∃ result urls after,
      (downloadFirst (.string version) (directory.child last) report rest).runIn during =
        (result, after) ∧ world.Asked after urls ∧
      Fetched world version (directory.child last) report assets result urls after.tree := by
  induction rest generalizing before during with
  | nil =>
      rw [List.append_nil] at listed
      subst listed
      exact ⟨_, _, during, rfl, asked, same ▸ .nowhere missing⟩
  | cons asset rest ih =>
      have member : asset ∈ assets := by simp [← listed]
      generalize isUrl : assetUrl world.repository version asset = url
      have granted := isUrl ▸ granted asset member
      obtain ⟨result, after, run, further, delivered⟩ := downloadTo_run (same ▸ based) quiet isLast
        (by rw [same, asked.here, absent]) url
      have askedAll : world.Asked after (assetUrls world version (before ++ [asset])) := by
        rw [assetUrls, List.map_append, List.map_singleton, isUrl]
        exact asked.trans further
      have delivered := delivered.before asked same
      simp only [downloadFirst, Action.runIn_bind, Action.runIn_get, asked.repository,
        Json.Value.plain, isUrl, Action.runIn_outcome, run]
      by_cases isMissing : Missing world version asset
      · obtain ⟨reason, reply⟩ := isMissing
        obtain ⟨rfl, sameAgain⟩ := delivered.of_failed (isUrl ▸ reply)
        refine ih (by simp [listed]) (fun other isOther => ?_) askedAll sameAgain
        rcases List.mem_append.mp isOther with isBefore | isLast
        · exact missing other isBefore
        · exact List.mem_singleton.mp isLast ▸ ⟨reason, reply⟩
      · have first : FirstFound world version assets before asset :=
          ⟨⟨rest, by simp [listed]⟩, missing, isMissing⟩
        refine ⟨result, _, after, ?_, askedAll, .tried first (isUrl ▸ delivered)⟩
        split
        · rfl
        · have reply := delivered.reply_of_refusal quiet granted ⟨_, _, rfl⟩
          exact absurd ⟨_, isUrl ▸ reply⟩ isMissing
        · rfl

theorem downloadFirst_grows (quiet : report.Quiet) (isLast : IsName last) (based : world.tree.Based)
    (absent : world.tree.has world.here (directory.child last) = false) (tag : Json.Value)
    (assets : List String) :
    World.Grows (fun _ => False) (fun place => world.tree.at? place = none ∧
      place = directory.place world.here ++ [last]) world
      ((downloadFirst tag (directory.child last) report assets).runIn world).2 := by
  induction assets generalizing world with
  | nil => exact .refl world
  | cons asset rest ih =>
      obtain ⟨result, after, run, asked, delivered⟩ := downloadTo_run based quiet isLast absent
        (assetUrl world.repository tag.plain asset)
      have grown : World.Grows _ _ world after := ⟨asked.toSettled, delivered.grows isLast absent⟩
      simp only [downloadFirst, Action.runIn_bind, Action.runIn_get, Action.runIn_outcome, run]
      split
      · exact grown
      · have same := delivered.tree_of_error
        have more := ih (same ▸ based) (by rw [same, asked.here, absent])
        simp only [same, asked.here] at more
        exact grown.trans more
      · exact grown

end

/-- What comes of a download: the bundle that was there already, or what was fetched. -/
inductive Downloaded (world : World) (version : String) (target : Path) (report : Progress) :
    Except Failure Path → World → Prop
  | kept (there : world.tree.has world.here target = true) :
      Downloaded world version target report (.ok target) world
  | fetched {result : Except Failure Unit} {urls : List String} {after : World}
      (absent : world.tree.has world.here target = false) (asked : world.Asked after urls)
      (fetched : Fetched world version target report Failure.bundleAssets result urls after.tree) :
      Downloaded world version target report (result.map fun _ => target) after

theorem exists_bundle_child (path : Path) (repository version : String) : ∃ directory last,
    IsName last ∧ bundleEnding.toList <:+ last.toList ∧
      path.child (bundleName repository version) = Path.child directory last := by
  have chars : (repositoryStart repository ++ version).toList = 'g' :: ("envm-universal-".toList ++
      (slug repository).toList ++ '-' :: version.toList) := by
    simp [repositoryStart, bundleStart]
  refine Path.exists_child path chars (by decide) (by decide) fun text member => ?_
  have long : ∀ name ∈ ["", ".", ".."], name.length < bundleEnding.length := by decide
  have short := long _ member
  rw [← String.length_toList, ← String.length_toList, String.toList_ofList,
    List.length_append] at short
  omega

theorem bundlePath_run (world : World) (version : Json.Value) : ∃ ready,
    World.Grows (world.cache.OnWay world.here) (fun _ => False) world ready ∧
      world.Asked ready [] ∧
      (world.tree.hasDirectory world.here world.cache = true → ready = world) ∧
      ((∃ failure, cacheDirectory.runIn world = (.error failure, ready) ∧
          (bundlePath version).runIn world = (.error failure, ready)) ∨
        (bundlePath version).runIn world =
          (.ok (world.cache.child (bundleName world.repository version.plain)), ready)) := by
  have grows := cacheDirectory_growing world.here world.cache (fun _ => False) world rfl rfl
  obtain ⟨tree, same⟩ := cacheDirectory_local world
  have unchanged (there : world.tree.hasDirectory world.here world.cache = true) :
      (cacheDirectory.runIn world).2 = world := by rw [cacheDirectory_of_there there]
  have asked : world.Asked (cacheDirectory.runIn world).2 [] := by
    rw [same]
    exact (World.Asked.refl world).withTree tree
  simp only [bundlePath, Action.runIn_bind]
  rcases run : cacheDirectory.runIn world with ⟨failure | path, ready⟩
  · rw [run] at grows asked unchanged
    exact ⟨ready, grows, asked, unchanged, .inl ⟨failure, rfl, rfl⟩⟩
  · rw [run] at grows asked unchanged
    have sameRepository : ready.repository = world.repository := asked.repository
    refine ⟨ready, grows, asked, unchanged, .inr ?_⟩
    simp only [Action.runIn_get, Action.runIn_pure, cacheDirectory_ok run, sameRepository]

def NewBundle (tree : Tree) (place : Place) : Prop :=
  tree.at? place = none ∧ ∃ area last, place = area ++ [last] ∧ bundleEnding.toList <:+ last.toList

theorem download_grows {world : World} {report : Progress} (based : world.tree.Based)
    (quiet : report.Quiet) (version : String) :
    World.Grows (world.cache.OnWay world.here) (NewBundle world.tree) world
      ((download (.string version) report).runIn world).2 := by
  obtain ⟨ready, grows, _, _, ⟨failure, _, run⟩ | run⟩ := bundlePath_run world (.string version)
  · simp only [download, Action.runIn_bind, Action.runIn_pure, run]
    exact grows.mono (fun _ => id) fun _ => False.elim
  obtain ⟨directory, last, isLast, ends, isTarget⟩ :=
    exists_bundle_child world.cache world.repository version
  rw [Json.Value.plain, isTarget] at run
  simp only [download, Action.runIn_bind, Action.runIn_pure, run, Action.has, Action.runIn_ask]
  have before : World.Grows (world.cache.OnWay world.here) (NewBundle world.tree) world ready :=
    grows.mono (fun _ => id) fun _ => False.elim
  cases absent : ready.tree.has ready.here (directory.child last) with
  | true => exact before
  | false =>
      have added := downloadFirst_grows quiet isLast (grows.tree.isBased based) absent
        (.string version) Failure.bundleAssets
      have isNew (place : Place) (free : ready.tree.at? place = none ∧
          place = directory.place ready.here ++ [last]) : NewBundle world.tree place := by
        refine ⟨?_, _, last, free.2, ends⟩
        by_contra there
        obtain ⟨entry, found⟩ := Option.ne_none_iff_exists'.mp there
        rw [grows.tree.still id found] at free
        cases free.1
      have whole := before.trans (added.mono (fun _ => False.elim) isNew)
      simp only [Bool.not_false, if_true, Action.runIn_bind]
      split
      case h_1 done =>
        rw [done] at whole
        exact whole
      case h_2 done =>
        rw [done] at whole
        exact whole

/-- A download makes the directory of the cache if it is not there. Then it either returns the path
of the bundle, which is there already or holds all of the first file that is not missing, or it
fails and no file has changed. It asks for no file beyond the first that is not missing. -/
theorem download_outcome (world : World) (version : String) {report : Progress}
    (based : world.tree.Based) (quiet : report.Quiet)
    (granted : ∀ asset ∈ Failure.bundleAssets, ∀ body,
      world.reply (assetUrl world.repository version asset) = .sent body → body.Granted) :
    ∃ ready, World.Grows (world.cache.OnWay world.here) (fun _ => False) world ready ∧
      world.Asked ready [] ∧
      (world.tree.hasDirectory world.here world.cache = true → ready = world) ∧
      ((∃ failure, cacheDirectory.runIn world = (.error failure, ready) ∧
          (download (.string version) report).runIn world = (.error failure, ready)) ∨
        ∃ result after, (download (.string version) report).runIn world = (result, after) ∧
          Downloaded ready version (world.cache.child (bundleName world.repository version)) report
            result after) := by
  obtain ⟨ready, grows, asked, unchanged, ⟨failure, unmade, run⟩ | run⟩ :=
    bundlePath_run world (.string version)
  · refine ⟨ready, grows, asked, unchanged, .inl ⟨failure, unmade, ?_⟩⟩
    simp only [download, Action.runIn_bind, Action.runIn_pure, run]
  obtain ⟨directory, last, isLast, _, isTarget⟩ :=
    exists_bundle_child world.cache world.repository version
  rw [Json.Value.plain, isTarget] at run
  rw [isTarget]
  refine ⟨ready, grows, asked, unchanged, .inr ?_⟩
  simp only [download, Action.runIn_bind, Action.runIn_pure, run, Action.has, Action.runIn_ask]
  cases absent : ready.tree.has ready.here (directory.child last) with
  | true => exact ⟨_, _, rfl, .kept absent⟩
  | false =>
      have stillGranted : ∀ asset ∈ Failure.bundleAssets, ∀ body,
          ready.reply (assetUrl ready.repository version asset) = .sent body → body.Granted := by
        intro asset member body reply
        rw [asked.reply, asked.repository] at reply
        exact granted asset member body reply
      obtain ⟨result, urls, after, found, askedAll, fetched⟩ := downloadFirst_run
        (grows.tree.isBased based) quiet isLast absent (List.nil_append _) stillGranted
        (by simp) (World.Asked.refl ready) rfl
      refine ⟨_, after, ?_, .fetched absent askedAll fetched⟩
      simp only [Bool.not_false, if_true, Action.runIn_bind, found]
      cases result <;> rfl

theorem resolveVersion_settles : resolveVersion.Settles := by
  refine .bind (fun world => .refl world) fun given => ?_
  split
  · exact fun world => .refl world
  · refine .bind ?_ fun versions => ?_
    · exact .bind cacheDirectory_local.settles fun _ => .bind (fun world => .refl world) fun _ =>
        (Action.Idle.onTree _).settles
    · split
      · exact fun world => .refl world
      · exact latestVersion_treeless.settled

section

variable {report : Progress} (settles : ∀ downloaded total, (report downloaded total).Settles)

include settles

theorem transfer_settles (body : Body) (file : Path) (total : Int) (sizes : List Nat)
    (position : Nat) : (transfer body file total report sizes position).Settles := by
  fun_induction transfer body file total report sizes position with
  | case1 => exact fun world => .refl world
  | case2 => exact fun world => .refl world
  | case3 sizes position _ _ next ih =>
      exact .bind (Action.Local.changeTree _).settles fun _ => .bind (settles _ _) fun _ => ih

theorem downloadTo_settles (url : String) (target : Path) :
    (downloadTo url target report).Settles := by
  refine .bind (request_treeless url).settled fun body => .bind ?_ fun total => ?_
  · refine Action.Idle.settles fun world => ?_
    rcases announcedLength_run body.length world with ⟨_, run⟩ | ⟨_, _, _, run⟩ <;> rw [run]
  have changes (change : Tree → Place → Except Files.FileFault Tree) :
      (Action.changeTree change).Settles := (Action.Local.changeTree change).settles
  have besides : (pathBeside target).Settles :=
    .bind (Action.Idle.onTree _).settles fun _ world => .refl world
  refine .bind besides fun file => .bind (changes _) fun _ => .bind (.outcome ?_) fun result => ?_
  · exact .bind (transfer_settles settles _ _ _ _ _) fun _ =>
      .bind (Action.Idle.onTree _).settles fun _ => changes _
  split
  · exact fun world => .refl world
  · refine .bind (fun world => .refl world) fun there => ?_
    split
    · exact .bind (changes _) fun _ world => .refl world
    · exact fun world => .refl world

theorem downloadFirst_settles (version : Json.Value) (target : Path) (assets : List String) :
    (downloadFirst version target report assets).Settles := by
  induction assets with
  | nil => exact fun world => .refl world
  | cons asset rest ih =>
      refine .bind (fun world => .refl world) fun _ =>
        .bind (downloadTo_settles settles _ _).outcome fun result => ?_
      split
      · exact fun world => .refl world
      · exact ih
      · exact fun world => .refl world

theorem download_settles (version : Json.Value) : (download version report).Settles := by
  have fetches (chosen : Json.Value) : (do
      let target ← bundlePath chosen
      if !(← Action.has target) then downloadFirst chosen target report Failure.bundleAssets
      return target : Action Path).Settles := by
    refine .bind (.bind cacheDirectory_local.settles fun _ world => .refl world) fun target =>
      .bind (fun world => .refl world) fun there => ?_
    dsimp only
    split
    · exact .bind (downloadFirst_settles settles _ _ _) fun _ world => .refl world
    · exact fun world => .refl world
  unfold download
  dsimp only
  split
  · exact .bind resolveVersion_settles fetches
  · exact fetches _

end

theorem silent_settles (downloaded : Nat) (total : Int) : (silent downloaded total).Settles :=
  fun world => .refl world

theorem noteProgress_quiet : Progress.Quiet Action.noteProgress where
  asked _ _ _ := ⟨⟨rfl, rfl, rfl⟩, rfl, (List.append_nil _).symm⟩
  tree _ _ _ := rfl
  raised downloaded total world failure raised := by
    have noted : ((Action.noteProgress downloaded total).runIn world).1 = .ok () := rfl
    rw [noted] at raised
    cases raised

def breakingWorld : World where
  tree := ⟨[(["cache"], .directory), (["cache", "tmp0"], .directory)]⟩
  cache := .ofRoot ["cache"]
  replies := [(assetUrl "genlayerlabs/genvm-manager" "v1" "genvm-universal.tar.xz",
    .sent { content := .bytes [1, 2, 3], sizes := [1, 1], fault := some (2, .connectionReset) })]

theorem breakingWorld_granted {url : String} {body : Body}
    (reply : breakingWorld.reply url = .sent body) : body.Granted := by
  have only : body.fault = some (2, .connectionReset) := by
    simp only [World.reply, breakingWorld, List.lookup_cons] at reply
    split at reply
    · cases reply
      rfl
    · cases reply
  intro position failure fails
  rw [Body.failureAt?, only] at fails
  dsimp only at fails
  split at fails
  · cases fails
    nofun
  · cases fails

theorem download_outcome_breaking :
    (breakingWorld.tree.Sound ∧ Progress.Quiet Action.noteProgress ∧
      ∀ url body, breakingWorld.reply url = .sent body → body.Granted) ∧
    ∃ result after,
      (download (.string "v1") Action.noteProgress).runIn breakingWorld = (result, after) ∧
      Downloaded breakingWorld "v1" (breakingWorld.cache.child (bundleName
        breakingWorld.repository "v1")) Action.noteProgress result after ∧
      result.isOk = false ∧ after.progress = [(1, 0), (2, 0)] := by
  have sound : breakingWorld.tree.Sound := by decide
  have there : breakingWorld.tree.hasDirectory breakingWorld.here breakingWorld.cache = true := by
    decide
  refine ⟨⟨sound, noteProgress_quiet, fun _ _ => breakingWorld_granted⟩, ?_⟩
  obtain ⟨ready, _, _, unchanged, ⟨_, unmade, _⟩ | ⟨result, after, run, downloaded⟩⟩ :=
    download_outcome breakingWorld "v1" sound.based noteProgress_quiet
      fun _ _ _ reply => breakingWorld_granted reply
  · rw [cacheDirectory_of_there there] at unmade
    cases unmade
  · have shown : ((download (.string "v1") Action.noteProgress).runIn breakingWorld).1.isOk = false ∧
        ((download (.string "v1") Action.noteProgress).runIn breakingWorld).2.progress =
          [(1, 0), (2, 0)] := by
      decide +kernel
    rw [run] at shown
    rw [unchanged there] at downloaded
    exact ⟨result, after, run, downloaded, shown⟩

end ContractLint.Release
