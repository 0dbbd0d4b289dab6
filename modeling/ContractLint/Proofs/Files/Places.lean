import ContractLint.Files.Tree
import ContractLint.Proofs.Text.Patterns

/-! Where paths lead, and what a tree has at a place after it was changed. A tree is looked at
through `at?` only: the order of its entries shows nowhere but in listings. -/

namespace ContractLint.Files

/-- Where a path leads, whatever is there. -/
def Path.place (path : Path) (here : Place) : Place := lead (path.start here) path.parts

def Inside (area place : Place) : Prop := area <+: place ∧ place ≠ area

instance (area place : Place) : Decidable (Inside area place) :=
  inferInstanceAs (Decidable (area <+: place ∧ place ≠ area))

/-- A place that a path leads through, its start and its end with it. -/
def Path.OnWay (path : Path) (here place : Place) : Prop :=
  ∃ way, way <+: path.parts ∧ place = lead (path.start here) way

theorem Path.mem_map_inits_iff {path : Path} {here place : Place} :
    place ∈ path.parts.inits.map (lead (path.start here)) ↔ path.OnWay here place := by
  simp only [List.mem_map, List.mem_inits, OnWay, @eq_comm _ _ place]

instance (path : Path) (here place : Place) : Decidable (path.OnWay here place) :=
  decidable_of_iff _ Path.mem_map_inits_iff

theorem Path.onWay_place (path : Path) (here : Place) : path.OnWay here (path.place here) :=
  ⟨path.parts, List.prefix_rfl, rfl⟩

theorem lead_append (place : Place) (first second : List String) :
    lead place (first ++ second) = lead (lead place first) second := by
  simp [lead]

theorem lead_cons (place : Place) (part : String) (parts : List String) :
    lead place (part :: parts) = lead (step place part) parts := rfl

theorem step_down {part : String} (up : part ≠ "..") (stay : part ≠ ".") (place : Place) :
    step place part = place ++ [part] := by
  simp [step, up, stay]

/-- A name that is one part of a path. -/
structure IsName (name : String) : Prop where
  single : '/' ∉ name.toList
  inner : name ≠ ""
  notHere : name ≠ "."
  notAbove : name ≠ ".."

instance (name : String) : Decidable (IsName name) :=
  decidable_of_iff ('/' ∉ name.toList ∧ name ≠ "" ∧ name ≠ "." ∧ name ≠ "..")
    ⟨fun ⟨single, inner, notHere, notAbove⟩ => ⟨single, inner, notHere, notAbove⟩,
      fun isName => ⟨isName.single, isName.inner, isName.notHere, isName.notAbove⟩⟩

theorem Path.ofText_joinWith {pieces : List String} (inner : pieces ≠ [])
    (single : ∀ piece ∈ pieces, '/' ∉ piece.toList)
    (kept : ∀ piece ∈ pieces, piece ≠ "" ∧ piece ≠ ".") :
    Path.ofText (Text.joinWith "/" pieces) = ⟨0, pieces⟩ := by
  have leading : (Text.joinWith "/" pieces).toList.takeWhile (· = '/') = [] := by
    cases pieces with
    | nil => exact absurd rfl inner
    | cons first rest =>
        obtain ⟨more, same⟩ : first.toList <+: (Text.joinWith "/" (first :: rest)).toList := by
          rw [Text.joinWith]
          cases rest <;> simp [String.intercalate_cons_cons]
        cases chars : first.toList with
        | nil => exact absurd (String.toList_eq_nil_iff.mp chars) (kept first List.mem_cons_self).1
        | cons c cs =>
            have different : c ≠ '/' := by
              rintro rfl
              exact single first List.mem_cons_self (chars ▸ List.mem_cons_self)
            rw [← same, chars]
            simp [different]
  have filtered : (pieces.filter fun part => part != "" && part != ".") = pieces :=
    List.filter_eq_self.mpr fun piece member => by simp [kept piece member]
  simp only [ofText, leading, Text.splitAt_joinWith inner single, filtered]
  rfl

theorem Path.ofText_name {name : String} (isName : IsName name) : Path.ofText name = ⟨0, [name]⟩ := by
  have joined := ofText_joinWith (List.cons_ne_nil name [])
  simp only [List.mem_singleton, forall_eq] at joined
  rw [← joined isName.single ⟨isName.inner, isName.notHere⟩, Text.joinWith,
    String.intercalate_singleton]

theorem Path.child_name {name : String} (isName : IsName name) (path : Path) :
    path.child name = ⟨path.slashes, path.parts ++ [name]⟩ := by
  simp [child, ofText_name isName, join, isAbsolute]

theorem Path.place_child_name {name : String} (isName : IsName name) (path : Path)
    (here : Place) : (path.child name).place here = path.place here ++ [name] := by
  rw [child_name isName, place, place, lead_append]
  exact step_down isName.notAbove isName.notHere _

theorem Path.onWay_of_child {name : String} (isName : IsName name) {path : Path} {here place : Place}
    (onWay : (path.child name).OnWay here place) :
    path.OnWay here place ∨ place = path.place here ++ [name] := by
  rw [child_name isName] at onWay
  obtain ⟨way, isWay, rfl⟩ := onWay
  rcases List.prefix_concat_iff.mp isWay with rfl | isWay
  · refine .inr ?_
    rw [← place_child_name isName, child_name isName]
    rfl
  · exact .inl ⟨way, isWay, rfl⟩

namespace Tree

theorem at?_root (tree : Tree) : tree.at? [] = some .directory := rfl

theorem at?_of_ne {tree : Tree} {place : Place} (inner : place ≠ []) :
    tree.at? place = tree.entries.lookup place := by
  simp [at?, inner]

theorem at?_ne_none_iff {tree : Tree} {place : Place} :
    tree.at? place ≠ none ↔ place = [] ∨ ∃ entry ∈ tree.entries, entry.1 = place := by
  by_cases root : place = []
  · simp [root, at?_root]
  · rw [at?_of_ne root, ← Option.isSome_iff_ne_none, List.lookup_isSome_iff]
    simp only [root, false_or, beq_iff_eq, @eq_comm _ place]

theorem lookup_map_entry {entries : List (Place × Entry)} {place other : Place} {entry : Entry} :
    (entries.map fun (found, old) => if found = place then (place, entry) else (found, old)).lookup
      other = if other = place then (entries.lookup place).map fun _ => entry
        else entries.lookup other := by
  induction entries with
  | nil => simp
  | cons first rest ih =>
      obtain ⟨found, old⟩ := first
      by_cases atPlace : found = place <;> by_cases atOther : other = found <;>
        simp_all [List.lookup_cons] <;> grind

theorem lookup_filter_places {entries : List (Place × Entry)} {place : Place}
    (test : Place → Bool) :
    (entries.filter fun (found, _) => test found).lookup place =
      if test place then entries.lookup place else none := by
  induction entries with
  | nil => simp
  | cons first rest ih =>
      obtain ⟨found, old⟩ := first
      by_cases passes : test found <;> by_cases same : place = found <;>
        simp_all [List.lookup_cons] <;> grind

theorem at?_put_self {tree : Tree} {place : Place} (inner : place ≠ []) (entry : Entry) :
    (tree.put place entry).at? place = some entry := by
  rw [at?_of_ne inner, put]
  split
  case isTrue there =>
    rw [at?_of_ne inner, Option.isSome_iff_exists] at there
    obtain ⟨old, found⟩ := there
    simp [lookup_map_entry, found]
  case isFalse absent =>
    rw [at?_of_ne inner] at absent
    simp only [Option.not_isSome_iff_eq_none] at absent
    simp [List.lookup_append, absent]

theorem at?_put_other {tree : Tree} {place other : Place} (different : other ≠ place)
    (entry : Entry) : (tree.put place entry).at? other = tree.at? other := by
  by_cases inner : other = []
  · subst inner
    rfl
  rw [at?_of_ne inner, at?_of_ne inner, put]
  split
  case isTrue => simp [lookup_map_entry, different]
  case isFalse => simp [List.lookup_append, List.lookup_cons, beq_eq_false_iff_ne.mpr different]

theorem at?_remove {tree : Tree} {place other : Place} (inner : other ≠ []) :
    (tree.remove place).at? other = if place <+: other then none else tree.at? other := by
  rw [at?_of_ne inner, at?_of_ne inner, remove, lookup_filter_places fun found =>
    !place.isPrefixOf found]
  by_cases below : place <+: other
  · simp [below, List.isPrefixOf_iff_prefix.mpr below]
  · simp [below, Bool.eq_false_iff.mpr (below <| List.isPrefixOf_iff_prefix.mp ·)]

theorem at?_clear {tree : Tree} {place other : Place} :
    (tree.clear place).at? other =
      if place <+: other ∧ other ≠ place then none else tree.at? other := by
  by_cases inner : other = []
  · subst inner
    have same : place <+: [] → [] = place := fun below => (List.prefix_nil.mp below).symm
    rw [at?_root, at?_root, if_neg fun ⟨below, different⟩ => different (same below)]
  rw [at?_of_ne inner, at?_of_ne inner, clear, lookup_filter_places fun found =>
    !place.isPrefixOf found || found = place]
  by_cases same : other = place
  · simp [same]
  by_cases below : place <+: other
  · simp [below, same, List.isPrefixOf_iff_prefix.mpr below]
  · simp [below, Bool.eq_false_iff.mpr (below <| List.isPrefixOf_iff_prefix.mp ·)]

theorem mem_children_iff_mem_entries {tree : Tree} {place : Place} {name : String} {entry : Entry} :
    (name, entry) ∈ tree.children place ↔ (place ++ [name], entry) ∈ tree.entries := by
  rw [children, List.mem_filterMap]
  constructor
  · rintro ⟨⟨found, old⟩, member, chosen⟩
    dsimp only at chosen
    split at chosen
    case h_2 => cases chosen
    case h_1 last isLast =>
      obtain ⟨above, rfl⟩ := List.getLast?_eq_some_iff.mp isLast
      rw [List.dropLast_concat, Option.ite_none_right_eq_some] at chosen
      obtain ⟨rfl, same⟩ := chosen
      cases same
      exact member
  · exact fun member => ⟨_, member, by simp⟩

theorem mem_children_iff {tree : Tree} {place : Place} {name : String} :
    name ∈ (tree.children place).map (·.1) ↔ (tree.at? (place ++ [name])).isSome := by
  rw [at?_of_ne (by simp), List.lookup_isSome_iff, List.mem_map]
  constructor
  · rintro ⟨⟨_, entry⟩, member, rfl⟩
    exact ⟨_, mem_children_iff_mem_entries.mp member, by simp⟩
  · rintro ⟨⟨other, entry⟩, member, same⟩
    obtain rfl := eq_of_beq same
    exact ⟨_, mem_children_iff_mem_entries.mpr member, rfl⟩

theorem children_isEmpty_iff {tree : Tree} {place : Place} :
    (tree.children place).isEmpty = true ↔ ∀ name, tree.at? (place ++ [name]) = none := by
  constructor
  · intro empty name
    have none : name ∉ (tree.children place).map (·.1) := by simp [List.isEmpty_iff.mp empty]
    rwa [mem_children_iff, Option.not_isSome_iff_eq_none] at none
  · intro none
    by_contra filled
    obtain ⟨child, member⟩ := List.exists_mem_of_ne_nil _ (mt List.isEmpty_iff.mpr filled)
    have found := mem_children_iff.mp (List.mem_map_of_mem (f := (·.1)) member)
    rw [none] at found
    cases found

theorem follow_eq_ok_iff {tree : Tree} {place target : Place} {parts : List String} :
    tree.follow place parts = .ok target ↔ target = lead place parts ∧
      ∀ way, way <+: parts → way ≠ parts → tree.at? (lead place way) = some .directory := by
  induction parts generalizing place with
  | nil =>
      simp only [follow, Except.ok.injEq]
      constructor
      · rintro rfl
        refine ⟨rfl, fun way isWay different => absurd (List.prefix_nil.mp isWay) different⟩
      · rintro ⟨rfl, _⟩
        rfl
  | cons part parts ih =>
      rw [follow]
      constructor
      · intro followed
        split at followed
        case h_1 => cases followed
        case h_2 => cases followed
        case h_3 isDirectory =>
          obtain ⟨same, directories⟩ := ih.mp followed
          refine ⟨same, fun way isWay different => ?_⟩
          cases way with
          | nil => exact isDirectory
          | cons first way =>
              obtain ⟨rfl, isRest⟩ := List.cons_prefix_cons.mp isWay
              exact directories way isRest fun equal => different (by rw [equal])
      · rintro ⟨same, directories⟩
        have isDirectory : tree.at? place = some .directory :=
          directories [] (List.nil_prefix) (by simp)
        rw [isDirectory]
        refine ih.mpr ⟨same, fun way isWay different => ?_⟩
        exact directories (part :: way) (List.cons_prefix_cons.mpr ⟨rfl, isWay⟩) (by simp [different])

theorem locate_eq_ok_iff {tree : Tree} {here target : Place} {path : Path} :
    tree.locate here path = .ok target ↔ target = path.place here ∧
      ∀ way, way <+: path.parts → way ≠ path.parts →
        tree.at? (lead (path.start here) way) = some .directory := by
  rw [Path.place, ← follow_eq_ok_iff, locate, resolve]
  cases tree.follow (path.start here) path.parts <;> simp [refuse]

theorem find?_eq_some_iff {tree : Tree} {here : Place} {path : Path} {entry : Entry} :
    tree.find? here path = some entry ↔ tree.at? (path.place here) = some entry ∧
      ∀ way, way <+: path.parts → way ≠ path.parts →
        tree.at? (lead (path.start here) way) = some .directory := by
  rw [find?]
  split
  case h_1 target found =>
    obtain ⟨rfl, directories⟩ := follow_eq_ok_iff.mp found
    exact ⟨fun there => ⟨there, directories⟩, And.left⟩
  case h_2 obstacle notFound =>
    refine ⟨fun there => (nomatch there), fun ⟨_, directories⟩ => ?_⟩
    rw [resolve, follow_eq_ok_iff.mpr ⟨rfl, directories⟩] at notFound
    cases notFound

theorem hasDirectory_iff_find? {tree : Tree} {here : Place} {path : Path} :
    tree.hasDirectory here path = true ↔ tree.find? here path = some .directory := by
  rw [hasDirectory]
  split <;> simp_all

theorem hasDirectory_iff {tree : Tree} {here : Place} {path : Path} :
    tree.hasDirectory here path = true ↔
      ∀ way, way <+: path.parts → tree.at? (lead (path.start here) way) = some .directory := by
  rw [hasDirectory_iff_find?, find?_eq_some_iff]
  constructor
  · rintro ⟨there, directories⟩ way isWay
    by_cases whole : way = path.parts
    · rw [whole]
      exact there
    · exact directories way isWay whole
  · intro directories
    exact ⟨directories _ List.prefix_rfl, fun way isWay _ => directories way isWay⟩

theorem find?_congr {tree other : Tree} {here : Place} {path : Path}
    (same : ∀ place, path.OnWay here place → other.at? place = tree.at? place) :
    other.find? here path = tree.find? here path := by
  refine Option.ext fun entry => ?_
  rw [find?_eq_some_iff, find?_eq_some_iff, same _ (path.onWay_place here)]
  refine and_congr_right fun _ => forall₃_congr fun way isWay _ => ?_
  rw [same _ ⟨way, isWay, rfl⟩]

theorem hasDirectory_congr {tree other : Tree} {here : Place} {path : Path}
    (same : ∀ place, path.OnWay here place → other.at? place = tree.at? place) :
    other.hasDirectory here path = tree.hasDirectory here path := by
  rw [hasDirectory, hasDirectory, find?_congr same]

theorem find?_of_read {tree : Tree} {here : Place} {path : Path} {content : Content}
    (done : tree.read here path = .ok content) : tree.find? here path = some (.file content) := by
  rw [read] at done
  cases located : tree.locate here path with
  | error fault =>
      rw [located] at done
      cases done
  | ok place =>
      obtain ⟨rfl, ways⟩ := locate_eq_ok_iff.mp located
      rw [located] at done
      simp only [bind, Except.bind] at done
      split at done
      case h_1 found =>
        cases done
        exact find?_eq_some_iff.mpr ⟨found, ways⟩
      case h_2 => cases done
      case h_3 => cases done

theorem read_of_find? {tree : Tree} {here : Place} {path : Path} {content : Content}
    (found : tree.find? here path = some (.file content)) : tree.read here path = .ok content := by
  obtain ⟨there, ways⟩ := find?_eq_some_iff.mp found
  simp only [read, locate_eq_ok_iff.mpr ⟨rfl, ways⟩, bind, Except.bind, there]
  rfl

theorem locate_of_hasDirectory {tree : Tree} {here : Place} {path : Path}
    (there : tree.hasDirectory here path = true) : tree.locate here path = .ok (path.place here) :=
  locate_eq_ok_iff.mpr ⟨rfl, fun way isWay _ => hasDirectory_iff.mp there way isWay⟩

theorem locate_child {tree : Tree} {here : Place} {path : Path} {name : String}
    (isName : IsName name) (there : tree.hasDirectory here path = true) :
    tree.locate here (path.child name) = .ok (path.place here ++ [name]) := by
  refine locate_eq_ok_iff.mpr ⟨(Path.place_child_name isName path here).symm, ?_⟩
  rw [Path.child_name isName]
  intro way isWay different
  exact hasDirectory_iff.mp there way ((List.prefix_concat_iff.mp isWay).resolve_left different)

theorem locateDirectory_of_hasDirectory {tree : Tree} {here : Place} {path : Path}
    (there : tree.hasDirectory here path = true) :
    tree.locateDirectory here path = .ok (path.place here) := by
  have isDirectory : tree.at? (path.place here) = some .directory :=
    hasDirectory_iff.mp there _ List.prefix_rfl
  simp only [locateDirectory, locate_of_hasDirectory there, bind, Except.bind, isDirectory]
  rfl

theorem locateDirectory_eq_ok {tree : Tree} {here place : Place} {path : Path}
    (found : tree.locateDirectory here path = .ok place) : place = path.place here := by
  rw [locateDirectory] at found
  cases located : tree.locate here path with
  | error fault =>
      rw [located] at found
      cases found
  | ok target =>
      rw [located] at found
      simp only [bind, Except.bind] at found
      split at found
      · cases found
        exact (locate_eq_ok_iff.mp located).1
      · cases found
      · cases found

/-- Whatever is there stands in a directory. -/
def Based (tree : Tree) : Prop :=
  ∀ place, tree.at? place ≠ none → tree.at? place.dropLast = some .directory

theorem Based.nothing_inside {tree : Tree} {area place : Place} (based : tree.Based)
    (notDirectory : tree.at? area ≠ some .directory) (inside : Inside area place) :
    tree.at? place = none := by
  obtain ⟨⟨rest, rfl⟩, different⟩ := inside
  induction rest using List.reverseRecOn with
  | nil => exact absurd (List.append_nil area) different
  | append_singleton rest last ih =>
      by_contra there
      have isDirectory := based _ there
      rw [← List.append_assoc, List.dropLast_concat] at isDirectory
      by_cases same : area ++ rest = area
      · exact notDirectory (same ▸ isDirectory)
      · rw [ih same] at isDirectory
        cases isDirectory

theorem Based.nothing_below {tree : Tree} {area place : Place} (based : tree.Based)
    (empty : (tree.children area).isEmpty = true) (inside : Inside area place) :
    tree.at? place = none := by
  obtain ⟨⟨rest, rfl⟩, different⟩ := inside
  cases rest with
  | nil => exact absurd (List.append_nil area) different
  | cons name rest =>
      have nothing := children_isEmpty_iff.mp empty name
      by_cases last : rest = []
      · rw [last, nothing]
      · refine based.nothing_inside (by rw [nothing]; nofun) ⟨⟨rest, ?_⟩, ?_⟩
        · exact (List.append_cons area name rest).symm
        · simp [last]

/-- A tree as files can be: whatever is there stands in a directory and has a name. -/
structure Sound (tree : Tree) : Prop where
  based : tree.Based
  names : ∀ place, tree.at? place ≠ none → ∀ name ∈ place, IsName name

theorem sound_iff {tree : Tree} : tree.Sound ↔ ∀ entry ∈ tree.entries,
    (tree.at? entry.1.dropLast).any Entry.isDirectory = true ∧ ∀ name ∈ entry.1, IsName name := by
  have isDirectory (place : Place) : (tree.at? place).any Entry.isDirectory = true ↔
      tree.at? place = some .directory := by
    rcases tree.at? place with _ | _ | content <;> simp [Entry.isDirectory]
  constructor
  · intro sound entry member
    have there := at?_ne_none_iff.mpr (.inr ⟨entry, member, rfl⟩)
    exact ⟨(isDirectory _).mpr (sound.based _ there), sound.names _ there⟩
  · refine fun each => ⟨fun place there => ?_, fun place there => ?_⟩ <;>
      rcases at?_ne_none_iff.mp there with rfl | ⟨entry, member, rfl⟩
    · rfl
    · exact (isDirectory _).mp (each entry member).1
    · nofun
    · exact (each entry member).2

instance (tree : Tree) : Decidable tree.Sound := decidable_of_iff' _ sound_iff

structure Cleared (place : Place) (tree after : Tree) : Prop where
  outside : ∀ other, ¬place <+: other → after.at? other = tree.at? other
  below : ∀ other, place <+: other → other ≠ place → after.at? other = none
  itself : after.at? place = tree.at? place ∨ after.at? place = none

theorem Cleared.isBased {place : Place} {tree after : Tree} (cleared : Cleared place tree after)
    (based : tree.Based) : after.Based := by
  intro other there
  by_cases root : other.dropLast = []
  · rw [root, at?_root]
  have kept : other = place ∨ ¬place <+: other := by
    by_contra below
    rw [not_or, not_not] at below
    exact there (cleared.below other below.2 below.1)
  have before : tree.at? other ≠ none := by
    rcases kept with rfl | apart
    · rcases cleared.itself with same | gone
      · rwa [← same]
      · exact absurd gone there
    · rwa [← cleared.outside other apart]
  have apart : ¬place <+: other.dropLast := by
    rintro below
    rcases kept with rfl | apart
    · have short := below.length_le
      rw [List.length_dropLast] at short
      exact root (List.eq_nil_of_length_eq_zero (by rw [List.length_dropLast]; omega))
    · exact apart (below.trans (List.dropLast_prefix _))
  rw [cleared.outside _ apart, based other before]

theorem clear_cleared (tree : Tree) (place : Place) : Cleared place tree (tree.clear place) where
  outside other apart := by rw [at?_clear, if_neg fun within => apart within.1]
  below other within different := by rw [at?_clear, if_pos ⟨within, different⟩]
  itself := .inl (by rw [at?_clear, if_neg fun within => within.2 rfl])

theorem remove_cleared (tree : Tree) (place : Place) :
    Cleared place tree ((tree.clear place).remove place) where
  outside other apart := by
    by_cases root : other = []
    · rw [root, at?_root, at?_root]
    · rw [at?_remove root, if_neg apart, (clear_cleared tree place).outside other apart]
  below other within different := by
    have inner : other ≠ [] := by
      rintro rfl
      exact different (List.prefix_nil.mp within).symm
    rw [at?_remove inner, if_pos within]
  itself := by
    by_cases root : place = []
    · exact .inl (by rw [root, at?_root, at?_root])
    · exact .inr (by rw [at?_remove root, if_pos List.prefix_rfl])

end Tree

end ContractLint.Files
