import Mathlib.Data.List.Nodup
import Mathlib.Data.List.Perm.Subperm
import ContractLint.Proofs.Files.Growth

/-! New files beside those that are there: a name that is free, and a tree that a file was put into
and taken from again. -/

namespace ContractLint.Files

theorem Path.exists_child {start ending : String} {c : Char} {rest : List Char} (path : Path)
    (chars : start.toList = c :: rest) (relative : c ≠ '/') (single : '/' ∉ ending.toList)
    (kept : ∀ text : List Char, String.ofList (text ++ ending.toList) ∉ ["", ".", ".."]) :
    ∃ directory name, IsName name ∧ ending.toList <:+ name.toList ∧
      path.child (start ++ ending) = Path.child directory name := by
  obtain ⟨pieces, last, split, isSingle⟩ := Text.splitChars_concat single start.toList
  have isName : IsName (String.ofList (last ++ ending.toList)) := by
    have apart := kept last
    simp only [List.mem_cons, List.not_mem_nil, or_false, not_or] at apart
    exact ⟨by simpa using ⟨isSingle, single⟩, apart.1, apart.2.1, apart.2.2⟩
  have ends : ending.toList <:+ (String.ofList (last ++ ending.toList)).toList := by
    rw [String.toList_ofList]
    exact List.suffix_append _ _
  generalize isLast : String.ofList (last ++ ending.toList) = name at isName ends
  have leading : (start.toList ++ ending.toList).takeWhile (· = '/') = [] := by
    simp [chars, relative]
  have keeps : ([name].filter fun part => part != "" && part != ".") = [name] := by
    simp [isName.inner, isName.notHere]
  have parts : ofText (start ++ ending) = ⟨0, ((pieces.map String.ofList).filter fun part =>
      part != "" && part != ".") ++ [name]⟩ := by
    simp only [ofText, Text.splitAt, String.toList_append, leading, split, List.map_append,
      List.map_cons, List.map_nil, isLast, List.filter_append, keeps]
    rfl
  refine ⟨⟨path.slashes, path.parts ++ (pieces.map String.ofList).filter fun part =>
    part != "" && part != "."⟩, _, isName, ends, ?_⟩
  rw [child_name isName, child, parts]
  simp [join, isAbsolute]

theorem Path.parent_child {name : String} (isName : IsName name) (path : Path) :
    (path.child name).parent = path := by
  rw [child_name isName, parent, List.dropLast_concat]

namespace Tree

variable {tree : Tree} {here place : Place} {path : Path} {name : String} {entry : Entry}

theorem hasDirectory_of_locate_child {target : Place} (isName : IsName name)
    (located : tree.locate here (path.child name) = .ok target) :
    tree.hasDirectory here path = true := by
  obtain ⟨_, directories⟩ := locate_eq_ok_iff.mp located
  rw [Path.child_name isName] at directories
  refine hasDirectory_iff.mpr fun way isWay => directories way ?_ ?_
  · exact isWay.trans (List.prefix_append _ _)
  · rintro rfl
    have long := isWay.length_le
    rw [List.length_append, List.length_singleton] at long
    omega

theorem find?_child (isName : IsName name) (there : tree.hasDirectory here path = true) :
    tree.find? here (path.child name) = tree.at? (path.place here ++ [name]) := by
  obtain ⟨_, directories⟩ := locate_eq_ok_iff.mp (locate_child isName there)
  refine Option.ext fun entry => ?_
  rw [find?_eq_some_iff, Path.place_child_name isName]
  exact ⟨And.left, fun found => ⟨found, directories⟩⟩

theorem has_child_iff (isName : IsName name) : tree.has here (path.child name) = true ↔
    tree.hasDirectory here path = true ∧ (tree.at? (path.place here ++ [name])).isSome := by
  rw [has]
  constructor
  · intro found
    obtain ⟨entry, isEntry⟩ := Option.isSome_iff_exists.mp found
    obtain ⟨_, directories⟩ := find?_eq_some_iff.mp isEntry
    have there := hasDirectory_of_locate_child isName (locate_eq_ok_iff.mpr ⟨rfl, directories⟩)
    rw [find?_child isName there] at found
    exact ⟨there, found⟩
  · rintro ⟨there, found⟩
    rwa [find?_child isName there]

theorem write_child_of_not_there (isName : IsName name) (content : Content)
    (missing : tree.hasDirectory here path = false) :
    ∃ fault, tree.write here (path.child name) content = .error fault := by
  cases written : tree.write here (path.child name) content with
  | error fault => exact ⟨fault, rfl⟩
  | ok after =>
      have there := hasDirectory_of_locate_child isName (write_eq_ok written).1
      rw [missing] at there
      cases there

theorem read_child {content : Content} (isName : IsName name)
    (there : tree.hasDirectory here path = true)
    (found : tree.at? (path.place here ++ [name]) = some (.file content)) :
    tree.read here (path.child name) = .ok content := by
  simp only [read, locate_child isName there, bind, Except.bind, found]
  rfl

theorem ne_of_absent (absent : tree.at? place = none) {found : Place × Entry}
    (member : found ∈ tree.entries) : found.1 ≠ place := fun same =>
  at?_ne_none_iff.mpr (.inr ⟨found, member, same⟩) absent

theorem put_of_absent (absent : tree.at? place = none) :
    tree.put place entry = ⟨tree.entries ++ [(place, entry)]⟩ := by
  rw [put, absent]
  rfl

theorem inner_of_absent (absent : tree.at? place = none) : place ≠ [] := by
  rintro rfl
  cases absent

theorem put_put (absent : tree.at? place = none) (next : Entry) :
    (tree.put place entry).put place next = tree.put place next := by
  rw [put, at?_put_self (inner_of_absent absent), put_of_absent absent, put_of_absent absent,
    Option.isSome_some, if_pos rfl, List.map_append]
  congr 2
  · exact (List.map_congr_left fun found member => if_neg (ne_of_absent absent member)).trans
      (List.map_id _)
  · simp

theorem remove_put (based : tree.Based) (absent : tree.at? place = none) :
    (tree.put place entry).remove place = tree := by
  rw [put_of_absent absent, remove, List.filter_append]
  have kept (found : Place × Entry) (member : found ∈ tree.entries) :
      place.isPrefixOf found.1 = false := by
    refine Bool.eq_false_iff.mpr fun below => ?_
    have inside := based.nothing_inside (by simp [absent])
      ⟨List.isPrefixOf_iff_prefix.mp below, ne_of_absent absent member⟩
    exact at?_ne_none_iff.mpr (.inr ⟨found, member, rfl⟩) inside
  rw [List.filter_eq_self.mpr fun found member => by simp [kept found member]]
  simp

theorem hasDirectory_put (absent : tree.at? place = none)
    (there : tree.hasDirectory here path = true) :
    (tree.put place entry).hasDirectory here path = true := by
  refine hasDirectory_iff.mpr fun way isWay => ?_
  have isDirectory := hasDirectory_iff.mp there way isWay
  rw [at?_put_other (fun same => ?_), isDirectory]
  rw [same, absent] at isDirectory
  cases isDirectory

theorem exists_freshName (tree : Tree) (place : Place) : ∃ index : Nat,
    tree.freshName place = "tmp" ++ toString index ∧
      tree.at? (place ++ [tree.freshName place]) = none := by
  let names := (tree.children place).map (·.1)
  let candidates := (List.range (names.length + 1)).map fun index => "tmp" ++ toString index
  have distinct : candidates.Nodup := by
    refine List.Nodup.map (fun first second same => ?_) List.nodup_range
    have digits : Nat.toDigits 10 first = Nat.toDigits 10 second := by
      simpa using congrArg String.toList same
    rw [← Nat.ofDigitChars_ten_toDigits (n := first), digits, Nat.ofDigitChars_ten_toDigits]
  have some_free : ¬candidates ⊆ names := by
    intro taken
    have fewer := (distinct.subperm taken).length_le
    simp only [candidates, List.length_map, List.length_range] at fewer
    omega
  obtain ⟨free, member, isFree⟩ : ∃ free ∈ candidates, free ∉ names := by
    simpa [List.subset_def] using some_free
  have found : (candidates.find? fun name => !names.contains name).isSome := by
    rw [List.find?_isSome]
    exact ⟨free, member, by simpa using isFree⟩
  obtain ⟨chosen, isChosen⟩ := Option.isSome_iff_exists.mp found
  have isFresh : tree.freshName place = chosen := by
    change (candidates.find? fun name => !names.contains name).getD "tmp" = chosen
    rw [isChosen, Option.getD_some]
  obtain ⟨index, _, rfl⟩ := List.mem_map.mp (List.mem_of_find?_eq_some isChosen)
  have notTaken : "tmp" ++ toString index ∉ names := by
    simpa using List.find?_some isChosen
  refine ⟨index, isFresh, ?_⟩
  rw [isFresh, ← Option.not_isSome_iff_eq_none, ← mem_children_iff]
  exact notTaken

theorem at?_freshName (tree : Tree) (place : Place) :
    tree.at? (place ++ [tree.freshName place]) = none :=
  (exists_freshName tree place).choose_spec.2

theorem freshName_isName (tree : Tree) (place : Place) : IsName (tree.freshName place) := by
  obtain ⟨index, isFresh, _⟩ := exists_freshName tree place
  rw [isFresh]
  have chars : ("tmp" ++ toString index).toList = 't' :: 'm' :: 'p' :: Nat.toDigits 10 index := by
    simp
  refine ⟨?_, ?_, ?_, ?_⟩
  · rw [chars]
    simp only [List.mem_cons, not_or]
    refine ⟨by decide, by decide, by decide, fun member => ?_⟩
    have isDigit := Nat.isDigit_of_mem_toDigits (by decide) (by decide) member
    revert isDigit
    decide
  all_goals
    intro same
    rw [same] at chars
    revert chars
    simp

end Tree

end ContractLint.Files
