import ContractLint.Proofs.Files.Growth
import ContractLint.World.Basic

/-! What actions lead to: a value or a failure, and the world after it. What most actions do to the
tree is that it grows. -/

namespace ContractLint

open Files (Path Place Tree)

namespace Action

variable {α β : Type}

/-- Runs an action in a world. -/
def runIn (action : Action α) (world : World) : Except Failure α × World := action.run.run world

@[simp] theorem runIn_pure (value : α) (world : World) :
    (pure value : Action α).runIn world = (.ok value, world) := rfl

@[simp] theorem runIn_throw (failure : Failure) (world : World) :
    (throw failure : Action α).runIn world = (.error failure, world) := rfl

@[simp] theorem runIn_get (world : World) : (get : Action World).runIn world = (.ok world, world) :=
  rfl

theorem runIn_bind (action : Action α) (next : α → Action β) (world : World) :
    (action >>= next).runIn world =
      match action.runIn world with
      | (.ok value, after) => (next value).runIn after
      | (.error failure, after) => (.error failure, after) := by
  simp only [runIn, ExceptT.run_bind, StateT.run_bind]
  rcases action.run.run world with ⟨result, after⟩
  cases result <;> rfl

theorem runIn_bind_eq_ok_iff {action : Action α} {next : α → Action β} {world after : World}
    {value : β} : (action >>= next).runIn world = (.ok value, after) ↔
      ∃ first middle, action.runIn world = (.ok first, middle) ∧
        (next first).runIn middle = (.ok value, after) := by
  rw [runIn_bind]
  rcases action.runIn world with ⟨_ | first, middle⟩ <;> simp

theorem runIn_bind_eq_error_iff {action : Action α} {next : α → Action β} {world after : World}
    {failure : Failure} : (action >>= next).runIn world = (.error failure, after) ↔
      action.runIn world = (.error failure, after) ∨
        ∃ first middle, action.runIn world = (.ok first, middle) ∧
          (next first).runIn middle = (.error failure, after) := by
  rw [runIn_bind]
  rcases action.runIn world with ⟨_ | first, middle⟩ <;> simp

theorem runIn_tryCatch (action : Action α) (handle : Failure → Action α) (world : World) :
    (tryCatch action handle).runIn world =
      match action.runIn world with
      | (.ok value, after) => (.ok value, after)
      | (.error failure, after) => (handle failure).runIn after := by
  unfold runIn ExceptT.run StateT.run
  simp only [tryCatch, tryCatchThe, MonadExceptOf.tryCatch, ExceptT.tryCatch, ExceptT.mk, bind,
    StateT.bind]
  rcases action world with ⟨result, after⟩
  cases result <;> rfl

@[simp] theorem runIn_outcome (action : Action α) (world : World) :
    (outcome action).runIn world = (.ok (action.runIn world).1, (action.runIn world).2) := by
  simp only [outcome, runIn_tryCatch, runIn_bind, runIn_pure]
  rcases action.runIn world with ⟨result, after⟩
  cases result <;> rfl

@[simp] theorem runIn_onTree (use : Tree → Place → Except Files.FileFault α) (world : World) :
    (onTree use).runIn world = ((use world.tree world.here).mapError .file, world) := by
  simp only [onTree, runIn_bind, runIn_get]
  cases use world.tree world.here <;> rfl

theorem onTree_eq_ok {use : Tree → Place → Except Files.FileFault α} {world : World} {value : α}
    (done : ((onTree use).runIn world).1 = .ok value) : use world.tree world.here = .ok value := by
  rw [runIn_onTree] at done
  cases used : use world.tree world.here with
  | ok found =>
      rw [used] at done
      cases done
      rfl
  | error fault =>
      rw [used] at done
      cases done

theorem runIn_changeTree (change : Tree → Place → Except Files.FileFault Tree) (world : World) :
    (changeTree change).runIn world =
      match change world.tree world.here with
      | .ok tree => (.ok (), { world with tree })
      | .error fault => (.error (.file fault), world) := by
  simp only [changeTree, runIn_bind, runIn_onTree]
  cases change world.tree world.here <;> rfl

theorem changeTree_of_ok {change : Tree → Place → Except Files.FileFault Tree} {world : World}
    {tree : Tree} (changed : change world.tree world.here = .ok tree) :
    (changeTree change).runIn world = (.ok (), { world with tree }) := by
  rw [runIn_changeTree, changed]

theorem changeTree_eq_ok {change : Tree → Place → Except Files.FileFault Tree}
    {world after : World} (done : (changeTree change).runIn world = (.ok (), after)) :
    ∃ tree, change world.tree world.here = .ok tree ∧ after = { world with tree } := by
  rw [runIn_changeTree] at done
  cases changed : change world.tree world.here with
  | ok tree =>
      rw [changed] at done
      exact ⟨tree, rfl, (congrArg Prod.snd done).symm⟩
  | error fault =>
      rw [changed] at done
      cases done

@[simp] theorem runIn_ask (question : Tree → Place → α) (world : World) :
    (ask question).runIn world = (.ok (question world.tree world.here), world) := rfl

theorem runIn_readText {world : World} {path : Path} {content : Files.Content} {text : String}
    (isContent : world.tree.read world.here path = .ok content)
    (isText : content.text = .ok text) : (readText path).runIn world = (.ok text, world) := by
  rw [readText, runIn_bind, read, runIn_onTree, isContent]
  simp only [Except.mapError, textOf, isText, runIn_pure]

theorem attempt_ok {world after : World} {result : Except Json.Mismatch α} {value : α}
    (done : (attempt result).runIn world = (.ok value, after)) :
    after = world ∧ result = .ok value := by
  cases result with
  | error mismatch => cases done
  | ok found =>
      cases done
      exact ⟨rfl, rfl⟩

theorem runIn_parseJson (text : String) (world : World) : (parseJson text).runIn world =
    ((Json.load world.nesting text).mapError .notJson, world) := by
  simp only [parseJson, runIn_bind, runIn_get]
  cases Json.load world.nesting text <;> rfl

def Leaves (place : Place) (action : Action α) : Prop :=
  ∀ world, (action.runIn world).2.tree.at? place = world.tree.at? place

theorem Leaves.pure (place : Place) (value : α) : Leaves place (Pure.pure value : Action α) :=
  fun _ => rfl

theorem Leaves.bind {place : Place} {action : Action α} {next : α → Action β}
    (first : Leaves place action) (second : ∀ value, Leaves place (next value)) :
    Leaves place (action >>= next) := by
  intro world
  have same := first world
  rw [runIn_bind]
  rcases run : action.runIn world with ⟨_ | value, after⟩
  · rwa [run] at same
  · rw [run] at same
    exact (second value after).trans same

end Action

def Action.Idle {α : Type} (action : Action α) : Prop := ∀ world, (action.runIn world).2 = world

theorem Action.Idle.onTree {α : Type} (use : Tree → Place → Except Files.FileFault α) :
    (Action.onTree use).Idle := fun _ => by rw [runIn_onTree]

theorem Action.Idle.bind {α β : Type} {action : Action α} {next : α → Action β}
    (first : action.Idle) (second : ∀ value, (next value).Idle) : (action >>= next).Idle := by
  intro world
  have same := first world
  rw [Action.runIn_bind]
  rcases run : action.runIn world with ⟨_ | value, after⟩
  · rwa [run] at same
  · rw [run] at same
    exact (second value after).trans same

def Action.Preserves {α : Type} (invariant : Tree → Prop) (action : Action α) : Prop :=
  ∀ world, invariant world.tree → invariant (action.runIn world).2.tree

theorem Action.Preserves.bind {α β : Type} {invariant : Tree → Prop} {action : Action α}
    {next : α → Action β} (first : action.Preserves invariant)
    (second : ∀ value, (next value).Preserves invariant) :
    (action >>= next).Preserves invariant := by
  intro world holds
  have still := first world holds
  rw [Action.runIn_bind]
  rcases run : action.runIn world with ⟨_ | value, after⟩
  · rwa [run] at still
  · rw [run] at still
    exact second value after still

/-- Where one is, where the cache is and whose releases are used stay the same. -/
structure World.Settled (world after : World) : Prop where
  here : after.here = world.here
  cache : after.cache = world.cache
  repository : after.repository = world.repository

theorem World.Settled.refl (world : World) : world.Settled world := ⟨rfl, rfl, rfl⟩

theorem World.Settled.trans {world middle after : World} (first : world.Settled middle)
    (second : middle.Settled after) : world.Settled after :=
  ⟨second.here.trans first.here, second.cache.trans first.cache,
    second.repository.trans first.repository⟩

def Action.Settles {α : Type} (action : Action α) : Prop :=
  ∀ world : World, world.Settled (action.runIn world).2

theorem Action.Settles.bind {α β : Type} {action : Action α} {next : α → Action β}
    (first : action.Settles) (second : ∀ value, (next value).Settles) :
    (action >>= next).Settles := by
  intro world
  have settled := first world
  rw [Action.runIn_bind]
  rcases run : action.runIn world with ⟨_ | value, after⟩
  · rwa [run] at settled
  · rw [run] at settled
    exact settled.trans (second value after)

theorem Action.Settles.bind_ok {α β : Type} {action : Action α} {next : α → Action β}
    {world after : World} {value : β} (settles : action.Settles)
    (done : (action >>= next).runIn world = (.ok value, after)) :
    ∃ first middle, action.runIn world = (.ok first, middle) ∧ world.Settled middle ∧
      (next first).runIn middle = (.ok value, after) := by
  obtain ⟨first, middle, run, more⟩ := Action.runIn_bind_eq_ok_iff.mp done
  have settled := settles world
  rw [run] at settled
  exact ⟨first, middle, run, settled, more⟩

theorem Action.Idle.settles {α : Type} {action : Action α} (idle : action.Idle) :
    action.Settles := fun world => by
  rw [idle world]
  exact .refl world

theorem Action.Settles.outcome {α : Type} {action : Action α} (settles : action.Settles) :
    (Action.outcome action).Settles := fun world => by
  rw [Action.runIn_outcome]
  exact settles world

theorem Action.Settles.mapM {α β : Type} {next : α → Action β}
    (settles : ∀ value, (next value).Settles) (values : List α) : (values.mapM next).Settles := by
  induction values with
  | nil => exact fun world => .refl world
  | cons value rest ih =>
      rw [List.mapM_cons]
      exact .bind (settles value) fun _ => .bind ih fun _ world => .refl world

theorem Action.Settles.forIn {α β : Type} {body : α → β → Action (ForInStep β)}
    (settles : ∀ value state, (body value state).Settles) (values : List α) (state : β) :
    (ForIn.forIn values state body).Settles := by
  induction values generalizing state with
  | nil => exact fun world => .refl world
  | cons value rest ih =>
      rw [List.forIn_cons]
      refine .bind (settles value state) fun result => ?_
      cases result with
      | done state => exact fun world => .refl world
      | yield state => exact ih state

theorem Action.runIn_forIn_error {α β : Type} {body : α → β → Action (ForInStep β)}
    {values : List α} {state : β} {world after : World} {failure : Failure}
    (failed : (ForIn.forIn values state body).runIn world = (.error failure, after)) :
    ∃ value state before, (body value state).runIn before = (.error failure, after) := by
  induction values generalizing state world with
  | nil => cases failed
  | cons value rest ih =>
      rw [List.forIn_cons] at failed
      rcases Action.runIn_bind_eq_error_iff.mp failed with failed | ⟨result, middle, _, failed⟩
      · exact ⟨value, state, world, failed⟩
      · cases result with
        | done state => cases failed
        | yield state => exact ih failed

/-- The second world is the first one with a tree that has grown. -/
structure World.Grows (made written : Place → Prop) (world after : World) : Prop
    extends World.Settled world after where
  tree : world.tree.Grows made written after.tree

theorem World.Grows.refl {made written : Place → Prop} (world : World) :
    World.Grows made written world world := ⟨.refl world, .refl world.tree⟩

theorem World.Grows.trans {made written : Place → Prop} {world middle after : World}
    (first : World.Grows made written world middle) (second : World.Grows made written middle after) :
    World.Grows made written world after :=
  ⟨first.toSettled.trans second.toSettled, first.tree.trans second.tree⟩

theorem World.Grows.mono {made written alsoMade alsoWritten : Place → Prop} {world after : World}
    (grows : World.Grows made written world after) (moreMade : ∀ place, made place → alsoMade place)
    (moreWritten : ∀ place, written place → alsoWritten place) :
    World.Grows alsoMade alsoWritten world after :=
  ⟨grows.toSettled, grows.tree.mono moreMade moreWritten⟩

namespace Action

variable {α β : Type}

/-- All that an action does to the tree, where one is here and the cache there, is that it
grows. -/
def Growing (here : Place) (cache : Path) (made written : Place → Prop) (action : Action α) :
    Prop :=
  ∀ world : World, world.here = here → world.cache = cache →
    world.Grows made written (action.runIn world).2

theorem Settles.of_growing {action : Action α}
    (growing : ∀ here cache, Growing here cache (fun _ => True) (fun _ => True) action) :
    action.Settles :=
  fun world => (growing _ _ world rfl rfl).toSettled

section

variable {here : Place} {cache : Path} {made written : Place → Prop} {action : Action α}
  {next : α → Action β}

theorem Growing.of_same (same : ∀ world, (action.runIn world).2 = world) :
    Growing here cache made written action := fun world _ _ => by
  rw [same]
  exact .refl world

theorem Growing.pure (value : α) :
    Growing here cache made written (Pure.pure value : Action α) :=
  .of_same fun _ => rfl

theorem Growing.throw (failure : Failure) :
    Growing here cache made written (MonadExcept.throw failure : Action α) :=
  .of_same fun _ => rfl

theorem Growing.get : Growing here cache made written (MonadState.get : Action World) :=
  .of_same fun _ => rfl

theorem Growing.ask (question : Tree → Place → α) :
    Growing here cache made written (Action.ask question) :=
  .of_same fun _ => rfl

theorem Growing.onTree (use : Tree → Place → Except Files.FileFault α) :
    Growing here cache made written (Action.onTree use) :=
  .of_same fun _ => by simp

theorem Growing.bind (first : Growing here cache made written action)
    (second : ∀ world value, world.here = here → world.cache = cache →
      (action.runIn world).1 = .ok value → Growing here cache made written (next value)) :
    Growing here cache made written (action >>= next) := by
  intro world sameHere sameCache
  have grows := first world sameHere sameCache
  rw [runIn_bind]
  rcases run : action.runIn world with ⟨_ | value, after⟩
  · rw [run] at grows
    exact grows
  · rw [run] at grows
    have more := second world value sameHere sameCache (by rw [run]) after
      (grows.here.trans sameHere) (grows.cache.trans sameCache)
    exact grows.trans more

theorem Growing.outcome (growing : Growing here cache made written action) :
    Growing here cache made written (Action.outcome action) := by
  intro world sameHere sameCache
  rw [runIn_outcome]
  exact growing world sameHere sameCache

theorem Growing.changeTree {change : Tree → Place → Except Files.FileFault Tree}
    (grows : ∀ tree grown, change tree here = .ok grown → tree.Grows made written grown) :
    Growing here cache made written (Action.changeTree change) := by
  rintro world rfl _
  rw [runIn_changeTree]
  cases changed : change world.tree world.here with
  | ok grown => exact ⟨⟨rfl, rfl, rfl⟩, grows _ _ changed⟩
  | error fault => exact .refl world

theorem Growing.write {path : Path} (isWritten : written (path.place here))
    (content : Files.Content) : Growing here cache made written (Action.write path content) :=
  .changeTree fun _ _ done => Tree.write_grows done isWritten

theorem Growing.makeDirectory {path : Path} (isMade : made (path.place here)) :
    Growing here cache made written (Action.makeDirectory path) :=
  .changeTree fun _ _ done => Tree.makeDirectory_grows done isMade

theorem Growing.makeUnlessThere {path : Path} (isMade : made (path.place here)) :
    Growing here cache made written (Action.makeUnlessThere path) := by
  refine .bind (.ask _) fun _ there _ _ _ => ?_
  split
  · exact .makeDirectory isMade
  · exact .pure _

theorem made_above {slashes : Nat} {last : String} {above : List String}
    (ways : ∀ way, way <+: (last :: above).reverse → made ((⟨slashes, way⟩ : Path).place here)) :
    ∀ way, way <+: above.reverse → made ((⟨slashes, way⟩ : Path).place here) := by
  intro way isWay
  refine ways way (isWay.trans ?_)
  rw [List.reverse_cons]
  exact List.prefix_append _ _

theorem Growing.makeAll {slashes : Nat} {parts : List String}
    (ways : ∀ way, way <+: parts.reverse → made ((⟨slashes, way⟩ : Path).place here)) :
    Growing here cache made written (Action.makeAll slashes parts) := by
  induction parts with
  | nil => exact .pure _
  | cons last above ih =>
      have isMade := ways _ List.prefix_rfl
      refine .bind (Growing.makeUnlessThere isMade).outcome fun _ result _ _ _ => ?_
      split
      · exact .pure _
      · exact .bind (ih (made_above ways)) fun _ _ _ _ _ => .makeUnlessThere isMade
      · exact .throw _

theorem Growing.makeDirectories {path : Path}
    (ways : ∀ way, way <+: path.parts → made ((⟨path.slashes, way⟩ : Path).place here)) :
    Growing here cache made written (Action.makeDirectories path) :=
  .makeAll (by rwa [List.reverse_reverse])

theorem Growing.makeMissing {slashes : Nat} {parts : List String}
    (ways : ∀ way, way <+: parts.reverse → made ((⟨slashes, way⟩ : Path).place here)) :
    Growing here cache made written (Action.makeMissing slashes parts) := by
  induction parts with
  | nil => exact .pure _
  | cons last above ih =>
      have isMade := ways _ List.prefix_rfl
      refine .bind (.ask _) fun _ there _ _ _ => ?_
      split
      · exact .makeDirectory isMade
      refine .bind (ih (made_above ways)).outcome fun _ result _ _ _ => ?_
      split
      · split
        · exact .pure _
        · exact .makeDirectory isMade
      · split
        · exact .pure _
        · exact .makeDirectory isMade
      · exact .throw _

theorem Growing.makeParents {path : Path}
    (ways : ∀ way, way <+: path.parts → made ((⟨path.slashes, way⟩ : Path).place here)) :
    Growing here cache made written (Action.makeParents path) := by
  refine .bind (.ask _) fun _ there _ _ _ => ?_
  split
  · refine .makeMissing fun way isWay => ways way (isWay.trans ?_)
    rw [List.reverse_reverse]
    exact List.dropLast_prefix _
  · exact .pure _

end

variable {path : Path} {world after : World}

theorem makeDirectory_ok (done : (makeDirectory path).runIn world = (.ok (), after)) :
    after.tree.hasDirectory world.here path = true := by
  obtain ⟨tree, made, rfl⟩ := changeTree_eq_ok done
  obtain ⟨located, absent, _, rfl⟩ := Tree.makeDirectory_eq_ok_iff.mp made
  obtain ⟨_, directories⟩ := Tree.locate_eq_ok_iff.mp located
  have grows : world.tree.Grows (fun _ => True) (fun _ => True) _ :=
    Tree.makeDirectory_grows made trivial
  refine Tree.hasDirectory_iff.mpr fun way isWay => ?_
  by_cases whole : way = path.parts
  · rw [whole]
    refine Tree.at?_put_self (fun root => ?_) _
    rw [root, Tree.at?_root] at absent
    cases absent
  · exact grows.directory (directories way isWay whole)

theorem makeUnlessThere_of_there (there : world.tree.hasDirectory world.here path = true) :
    (makeUnlessThere path).runIn world = (.ok (), world) := by
  simp [makeUnlessThere, runIn_bind, hasDirectory, there]

theorem makeUnlessThere_ok (done : (makeUnlessThere path).runIn world = (.ok (), after)) :
    after.tree.hasDirectory world.here path = true := by
  by_cases there : world.tree.hasDirectory world.here path = true
  · rw [makeUnlessThere_of_there there] at done
    cases done
    exact there
  · simp only [makeUnlessThere, hasDirectory, runIn_bind, runIn_ask, there, Bool.not_false,
      if_true] at done
    exact makeDirectory_ok done

theorem makeDirectories_of_there (there : world.tree.hasDirectory world.here path = true) :
    (makeDirectories path).runIn world = (.ok (), world) := by
  rw [makeDirectories]
  cases parts : path.parts.reverse with
  | nil => rfl
  | cons last above =>
      have same : (⟨path.slashes, (last :: above).reverse⟩ : Path) = path := by
        rw [← parts, List.reverse_reverse]
      simp only [makeAll, same, runIn_bind, runIn_outcome, makeUnlessThere_of_there there,
        runIn_pure]

theorem makeDirectories_ok (done : (makeDirectories path).runIn world = (.ok (), after))
    (inner : path.parts ≠ []) : after.tree.hasDirectory world.here path = true := by
  rw [makeDirectories] at done
  cases parts : path.parts.reverse with
  | nil => exact absurd (List.reverse_eq_nil_iff.mp parts) inner
  | cons last above =>
      have same : (⟨path.slashes, (last :: above).reverse⟩ : Path) = path := by
        rw [← parts, List.reverse_reverse]
      simp only [parts, makeAll, runIn_bind, runIn_outcome, same] at done
      split at done
      case h_1 first =>
        simp only [runIn_pure, Prod.mk.injEq, true_and] at done
        exact makeUnlessThere_ok (Prod.ext first done)
      case h_2 =>
        rw [runIn_bind] at done
        split at done
        case h_2 => cases done
        case h_1 middle run =>
          have grows : World.Grows (fun _ => True) (fun _ => True) world middle := by
            have growing : Growing world.here world.cache (fun _ => True) (fun _ => True)
                (makeUnlessThere path) := .makeUnlessThere trivial
            have first := growing world rfl rfl
            have all : Growing world.here world.cache (fun _ => True) (fun _ => True)
                (makeAll path.slashes above) := .makeAll fun _ _ => trivial
            have second := all _ first.here first.cache
            rw [run] at second
            exact first.trans second
          rw [← grows.here]
          exact makeUnlessThere_ok done
      case h_3 => cases done

def Local {α : Type} (action : Action α) : Prop :=
  ∀ world : World, ∃ tree, (action.runIn world).2 = { world with tree }

namespace Local

variable {α β : Type} {action : Action α} {next : α → Action β}

theorem of_same (same : ∀ world, (action.runIn world).2 = world) : Local action :=
  fun world => ⟨world.tree, same world⟩

theorem settles (isLocal : Local action) : action.Settles := fun world => by
  obtain ⟨_, same⟩ := isLocal world
  rw [same]
  exact ⟨rfl, rfl, rfl⟩

theorem bind (first : Local action) (second : ∀ value, Local (next value)) :
    Local (action >>= next) := by
  intro world
  obtain ⟨tree, same⟩ := first world
  rw [runIn_bind]
  rcases run : action.runIn world with ⟨_ | value, after⟩
  · exact ⟨tree, by rwa [run] at same⟩
  · rw [run] at same
    cases same
    exact second value _

theorem outcome (isLocal : Local action) : Local (Action.outcome action) := fun world => by
  rw [runIn_outcome]
  exact isLocal world

theorem changeTree (change : Tree → Place → Except Files.FileFault Tree) :
    Local (Action.changeTree change) := fun world => by
  rw [runIn_changeTree]
  cases change world.tree world.here with
  | ok tree => exact ⟨tree, rfl⟩
  | error fault => exact ⟨world.tree, rfl⟩

theorem makeUnlessThere (path : Path) : Local (Action.makeUnlessThere path) := by
  refine .bind (.of_same fun _ => rfl) fun there => ?_
  split
  · exact .changeTree _
  · exact .of_same fun _ => rfl

theorem makeAll (slashes : Nat) (parts : List String) : Local (Action.makeAll slashes parts) := by
  induction parts with
  | nil => exact .of_same fun _ => rfl
  | cons last above ih =>
      refine .bind (makeUnlessThere _).outcome fun result => ?_
      split
      · exact .of_same fun _ => rfl
      · exact .bind ih fun _ => makeUnlessThere _
      · exact .of_same fun _ => rfl

end Local

theorem changeTree_eq_error {change : Tree → Place → Except Files.FileFault Tree} {failure : Failure}
    (failed : (changeTree change).runIn world = (.error failure, after)) :
    after = world ∧ ∃ fault, change world.tree world.here = .error fault := by
  rw [runIn_changeTree] at failed
  cases changed : change world.tree world.here with
  | ok tree =>
      rw [changed] at failed
      cases failed
  | error fault =>
      rw [changed] at failed
      exact ⟨(congrArg Prod.snd failed).symm, fault, rfl⟩

theorem makeUnlessThere_error {failure : Failure}
    (failed : (makeUnlessThere path).runIn world = (.error failure, after)) :
    after = world ∧ world.tree.hasDirectory world.here path = false := by
  cases there : world.tree.hasDirectory world.here path with
  | true =>
      rw [makeUnlessThere_of_there there] at failed
      cases failed
  | false =>
      simp only [makeUnlessThere, hasDirectory, runIn_bind, runIn_ask, there, Bool.not_false,
        if_true] at failed
      exact ⟨(changeTree_eq_error failed).1, rfl⟩

theorem makeAll_error {slashes : Nat} {parts : List String} {failure : Failure}
    (failed : (makeAll slashes parts).runIn world = (.error failure, after)) :
    after.tree.hasDirectory after.here ⟨slashes, parts.reverse⟩ = false := by
  induction parts generalizing world after failure with
  | nil => cases failed
  | cons last above ih =>
      rcases run : (makeUnlessThere ⟨slashes, (last :: above).reverse⟩).runIn world with
        ⟨first, middle⟩
      simp only [makeAll, runIn_bind, runIn_outcome, run] at failed
      split at failed
      case h_1 => cases failed
      case h_2 =>
        rcases runIn_bind_eq_error_iff.mp failed with failed | ⟨_, middle, _, failed⟩
        · have notAbove := ih failed
          rw [Bool.eq_false_iff] at notAbove ⊢
          refine fun there => notAbove (Tree.hasDirectory_iff.mpr fun way isWay => ?_)
          refine Tree.hasDirectory_iff.mp there way (isWay.trans ?_)
          rw [List.reverse_cons]
          exact List.prefix_append _ _
        · obtain ⟨rfl, missing⟩ := makeUnlessThere_error failed
          exact missing
      case h_3 =>
        cases failed
        obtain ⟨rfl, missing⟩ := makeUnlessThere_error run
        exact missing

theorem makeDirectories_error {failure : Failure}
    (failed : (makeDirectories path).runIn world = (.error failure, after)) :
    after.tree.hasDirectory after.here path = false := by
  have missing := makeAll_error failed
  rwa [List.reverse_reverse] at missing

/-- An action that neither looks at the tree nor changes it. -/
structure Treeless {α : Type} (action : Action α) : Prop where
  blind : ∀ world tree, action.runIn { world with tree } =
    ((action.runIn world).1, { (action.runIn world).2 with tree })
  settled : action.Settles

namespace Treeless

variable {α β : Type} {action : Action α} {next : α → Action β}

theorem tree (treeless : Treeless action) (world : World) :
    (action.runIn world).2.tree = world.tree := by
  have same := congrArg (·.2.tree) (treeless.blind world world.tree)
  exact same

theorem growing (treeless : Treeless action) {here : Place} {cache : Path}
    {made written : Place → Prop} : Growing here cache made written action := fun world _ _ =>
  ⟨treeless.settled world, by rw [treeless.tree]; exact .refl _⟩

theorem pure (value : α) : Treeless (Pure.pure value : Action α) :=
  ⟨fun _ _ => rfl, fun world => .refl world⟩

theorem throw (failure : Failure) : Treeless (MonadExcept.throw failure : Action α) :=
  ⟨fun _ _ => rfl, fun world => .refl world⟩

theorem bind (first : Treeless action) (second : ∀ value, Treeless (next value)) :
    Treeless (action >>= next) := by
  constructor
  · intro world tree
    rw [runIn_bind, runIn_bind, first.blind]
    rcases action.runIn world with ⟨_ | value, after⟩
    · rfl
    · exact (second value).blind after tree
  · exact first.settled.bind fun value => (second value).settled

theorem outcome (treeless : Treeless action) : Treeless (Action.outcome action) := by
  constructor
  · intro world tree
    rw [runIn_outcome, runIn_outcome, treeless.blind]
  · intro world
    rw [runIn_outcome]
    exact treeless.settled world

theorem reading {next : World → Action β}
    (blind : ∀ world tree, next { world with tree } = next world)
    (treeless : ∀ world, Treeless (next world)) : Treeless (get >>= next) := by
  constructor
  · intro world tree
    change (next { world with tree }).runIn { world with tree } = _
    rw [blind]
    exact (treeless world).blind world tree
  · intro world
    rw [runIn_bind]
    exact (treeless world).settled world

theorem modifying {change : World → World}
    (blind : ∀ world tree, change { world with tree } = { change world with tree })
    (settled : ∀ world : World, world.Settled (change world)) :
    Treeless (modify change : Action PUnit) :=
  ⟨fun world tree => congrArg (Except.ok PUnit.unit, ·) (blind world tree), settled⟩

end Treeless

end Action

/-- The world with other things printed, complained and asked for so far. -/
def World.heard (world : World) (output errors : String) (requests : List String) : World :=
  { world with output, errors, requests }

def Action.Steady {α : Type} (world : World) (action : Action α) : Prop :=
  ∃ result, ∀ output errors requests, ∃ said asked,
    action.runIn (world.heard output errors requests) = (result, world.heard output said asked)

namespace Action.Steady

variable {α β : Type} {world : World} {action : Action α} {next : α → Action β}

theorem pure (value : α) : Steady world (Pure.pure value : Action α) :=
  ⟨.ok value, fun _ errors requests => ⟨errors, requests, rfl⟩⟩

theorem throw (failure : Failure) : Steady world (MonadExcept.throw failure : Action α) :=
  ⟨.error failure, fun _ errors requests => ⟨errors, requests, rfl⟩⟩

theorem bind (first : Steady world action) (second : ∀ value, Steady world (next value)) :
    Steady world (action >>= next) := by
  obtain ⟨result, runs⟩ := first
  cases result with
  | error failure =>
      refine ⟨.error failure, fun output errors requests => ?_⟩
      obtain ⟨said, asked, run⟩ := runs output errors requests
      exact ⟨said, asked, by rw [runIn_bind, run]⟩
  | ok value =>
      obtain ⟨result, goesOn⟩ := second value
      refine ⟨result, fun output errors requests => ?_⟩
      obtain ⟨said, asked, run⟩ := runs output errors requests
      obtain ⟨said, asked, more⟩ := goesOn output said asked
      refine ⟨said, asked, ?_⟩
      rw [runIn_bind, run]
      exact more

theorem outcome (steady : Steady world action) : Steady world (Action.outcome action) := by
  obtain ⟨result, runs⟩ := steady
  refine ⟨.ok result, fun output errors requests => ?_⟩
  obtain ⟨said, asked, run⟩ := runs output errors requests
  exact ⟨said, asked, by rw [runIn_outcome, run]⟩

theorem reading {next : World → Action β} (steady : Steady world (next world))
    (same : ∀ output errors requests, next (world.heard output errors requests) = next world) :
    Steady world (get >>= next) := by
  obtain ⟨result, runs⟩ := steady
  refine ⟨result, fun output errors requests => ?_⟩
  obtain ⟨said, asked, run⟩ := runs output errors requests
  refine ⟨said, asked, ?_⟩
  rw [runIn_bind, runIn_get, ← run, ← same output errors requests]

theorem complain (text : String) : Steady world (Action.complain text) :=
  ⟨.ok (), fun _ errors requests => ⟨errors ++ text ++ "\n", requests, rfl⟩⟩

theorem request (url : String) : Steady world (Action.request url) := by
  refine .bind ⟨.ok ⟨⟩, fun _ errors requests => ⟨errors, requests ++ [url], rfl⟩⟩ fun _ => ?_
  refine .reading ?_ fun _ _ _ => rfl
  cases world.reply url with
  | sent body => exact .pure body
  | failed failure => exact .throw failure

end Action.Steady

end ContractLint
