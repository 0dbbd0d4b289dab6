import Mathlib.Data.List.Forall2
import ContractLint.Command.Releases
import ContractLint.Proofs.Entries
import ContractLint.Proofs.Files.Texts
import ContractLint.Proofs.Sdk.Pins
import ContractLint.Proofs.World.Runs

/-! Dependencies as they are written: in the header of a contract, on one line or on several, and in
the manifest of a runner. Both are read as the same map. -/

namespace ContractLint

theorem Text.dropWhile_isBlank {text : List Char}
    (unpadded : ∀ c ∈ text.head?, isBlank c = false) : text.dropWhile isBlank = text := by
  cases text with
  | nil => rfl
  | cons c rest => simp [unpadded c rfl]

theorem Text.strip_padded {blanks text : List Char} (areBlank : ∀ c ∈ blanks, isBlank c = true)
    (first : ∀ c ∈ text.head?, isBlank c = false) (last : ∀ c ∈ text.getLast?, isBlank c = false) :
    strip (blanks ++ text) = text := by
  rw [← List.head?_reverse] at last
  rw [strip, List.dropWhile_append_of_pos areBlank, dropWhile_isBlank first, dropWhile_isBlank last,
    List.reverse_reverse]

namespace Sdk

open Files (Content Path)
open Json (Value)
open Lint (commentText headerComments)

/-! What is found in a text, part by part. -/

def allIn (text : List Char) : List (String × String) := findDependencies text.length text

theorem findDependencies_of_le {text : List Char} {fuel other : Nat} (enough : text.length ≤ fuel)
    (alsoEnough : text.length ≤ other) :
    findDependencies fuel text = findDependencies other text := by
  induction fuel generalizing text other with
  | zero =>
      rw [List.length_eq_zero_iff.mp (Nat.le_zero.mp enough)]
      cases other <;> rfl
  | succ fuel ih =>
      cases text with
      | nil => cases other <;> rfl
      | cons c rest =>
          obtain ⟨other, rfl⟩ := Nat.exists_eq_add_of_le' (Nat.one_le_of_lt alsoEnough)
          rw [List.length_cons] at enough alsoEnough
          rw [findDependencies, findDependencies]
          cases read : readDependency? (c :: rest) with
          | none => exact ih (by omega) (by omega)
          | some found =>
              have shorter := (readDependency?_eq_some_iff.mp read).length_lt
              rw [List.length_cons] at shorter
              exact congrArg (found.1 :: ·) (ih (by omega) (by omega))

theorem allIn_of_begins {text after : List Char} {dependency : String × String}
    (begins : Begins text dependency after) : allIn text = dependency :: allIn after := by
  have shorter := begins.length_lt
  cases text with
  | nil => cases shorter
  | cons c rest =>
      rw [List.length_cons] at shorter
      rw [allIn, List.length_cons, findDependencies, readDependency?_eq_some_iff.mpr begins]
      exact congrArg (dependency :: ·) (findDependencies_of_le (by omega) le_rfl)

theorem allIn_cons {c : Char} {rest : List Char} (noKey : ¬dependsKey <+: c :: rest) :
    allIn (c :: rest) = allIn rest := by
  have unread : readDependency? (c :: rest) = none :=
    Option.eq_none_iff_forall_ne_some.mpr fun found read =>
      noKey (readDependency?_eq_some_iff.mp read).starts
  rw [allIn, List.length_cons, findDependencies, unread]
  rfl

def Gives (part : List Char) (found : List (String × String)) : Prop :=
  ∀ rest, allIn (part ++ rest) = found ++ allIn rest

namespace Gives

variable {part other : List Char} {found more : List (String × String)}

theorem append (first : Gives part found) (second : Gives other more) :
    Gives (part ++ other) (found ++ more) := by
  intro rest
  rw [List.append_assoc, first, second, List.append_assoc]

theorem of_notMem (absent : '"' ∉ part) : Gives part [] := by
  intro rest
  induction part with
  | nil => rfl
  | cons c part ih =>
      rw [List.mem_cons, not_or] at absent
      rw [List.cons_append, allIn_cons, ih absent.2]
      exact fun isKey => absent.1 (dependsKey_prefix_cons_iff.mp isKey).1.symm

theorem intercalate {between : List Char} (absent : '"' ∉ between) {parts : List (List Char)}
    {founds : List (List (String × String))} (each : List.Forall₂ Gives parts founds) :
    Gives (between.intercalate parts) founds.flatten := by
  induction each with
  | nil => exact fun rest => rfl
  | @cons part found parts founds first later ih =>
      cases later with
      | nil => simpa using first
      | cons second later =>
          rw [List.intercalate_cons_cons, List.append_assoc, List.flatten_cons]
          exact first.append ((of_notMem absent).append ih)

end Gives

/-! Forms of a header. -/

def Printable (text : List Char) : Prop := ∀ c ∈ text, ' ' ≤ c

instance (text : List Char) : Decidable (Printable text) :=
  decidable_of_iff (text.all (fun c => ' ' ≤ c) = true) (by simp [Printable])

theorem printable_append_iff {text other : List Char} :
    Printable (text ++ other) ↔ Printable text ∧ Printable other := List.forall_mem_append

theorem printable_cons_iff {c : Char} {text : List Char} :
    Printable (c :: text) ↔ ' ' ≤ c ∧ Printable text := List.forall_mem_cons

/-- A name or a hash that can stand in quotes as it is, before or behind a colon. -/
structure IsPart (text : String) : Prop where
  inner : text ≠ ""
  plain : ∀ c ∈ text.toList, c ≠ ':' ∧ c ≠ '"' ∧ c ≠ '\\' ∧ ' ' ≤ c

instance (text : String) : Decidable (IsPart text) :=
  decidable_of_iff (text ≠ "" ∧
      text.toList.all (fun c => c ≠ ':' ∧ c ≠ '"' ∧ c ≠ '\\' ∧ ' ' ≤ c) = true) <| by
    rw [List.all_eq_true]
    simp only [decide_eq_true_eq]
    exact ⟨fun ⟨inner, plain⟩ => ⟨inner, plain⟩, fun ⟨inner, plain⟩ => ⟨inner, plain⟩⟩

theorem IsPart.printable {text : String} (isPart : IsPart text) : Printable text.toList :=
  fun c member => (isPart.plain c member).2.2.2

def entryText (pair : String × String) : String :=
  "\x7b \"Depends\": \"" ++ pair.1 ++ ":" ++ pair.2 ++ "\" \x7d"

theorem toList_entryText (pair : String × String) : (entryText pair).toList =
    "\x7b ".toList ++ (dependsKey ++ ([' '] ++ '"' :: (pair.1.toList ++ ':' :: (pair.2.toList ++
      '"' :: " \x7d".toList)))) := by
  unfold entryText
  simp [dependsKey_eq]

def entryLines : List (String × String) → List String
  | [] => []
  | [pair] => [entryText pair]
  | pair :: next :: rest => (entryText pair ++ ",") :: entryLines (next :: rest)

/-- The lines of a header with these dependencies: a block with one on each line, all on one line,
or a single one by itself. -/
inductive HeaderOf (pairs : List (String × String)) : List String → Prop
  | block : HeaderOf pairs (["# \x7b", "#   \"Seq\": ["] ++
      (entryLines pairs).map ("#     " ++ ·) ++ ["#   ]", "# \x7d"])
  | line : HeaderOf pairs
      ["# \x7b \"Seq\": [" ++ Text.joinWith ", " (pairs.map entryText) ++ "] \x7d"]
  | single {pair : String × String} (isSingle : pairs = [pair]) :
      HeaderOf pairs ["# " ++ entryText pair]

theorem gives_entryText {name hash : String} (isName : IsPart name) (isHash : IsPart hash) :
    Gives (entryText (name, hash)).toList [(name, hash)] := by
  have begins (rest : List Char) : Begins (dependsKey ++ ([' '] ++ '"' :: (name.toList ++ ':' ::
      (hash.toList ++ '"' :: (" \x7d".toList ++ rest))))) (name, hash) (" \x7d".toList ++ rest) := by
    refine .intro (List.forall_mem_singleton.mpr rfl) ⟨fun member => ?_, ?_⟩ ⟨fun member => ?_, ?_⟩
    · exact (isName.plain _ member).1 rfl
    · exact fun empty => isName.inner (String.toList_eq_nil_iff.mp empty)
    · exact (isHash.plain _ member).2.1 rfl
    · exact fun empty => isHash.inner (String.toList_eq_nil_iff.mp empty)
  intro rest
  have pieces : (entryText (name, hash)).toList ++ rest = "\x7b ".toList ++ (dependsKey ++ ([' '] ++
      '"' :: (name.toList ++ ':' :: (hash.toList ++ '"' :: (" \x7d".toList ++ rest))))) := by
    simp [toList_entryText]
  rw [pieces, Gives.of_notMem (by decide), allIn_of_begins (begins rest),
    Gives.of_notMem (by decide)]
  rfl

theorem not_dependsKey_of_ne {c : Char} (different : c ≠ 'D') (rest : List Char) :
    ¬dependsKey <+: '"' :: c :: rest := by
  intro isKey
  obtain ⟨_, more, same⟩ := dependsKey_prefix_cons_iff.mp isKey
  exact different (List.cons.inj same).1

theorem gives_seq : Gives "\"Seq\": [".toList [] := by
  intro rest
  calc allIn ('"' :: ("Seq".toList ++ '"' :: (": [".toList ++ rest)))
      = allIn ("Seq".toList ++ '"' :: (": [".toList ++ rest)) :=
        allIn_cons (not_dependsKey_of_ne (by decide) _)
    _ = allIn ('"' :: (": [".toList ++ rest)) := Gives.of_notMem (by decide) _
    _ = allIn (": [".toList ++ rest) := allIn_cons (not_dependsKey_of_ne (by decide) _)
    _ = allIn rest := Gives.of_notMem (by decide) rest

theorem entryText_printable {name hash : String} (isName : IsPart name) (isHash : IsPart hash) :
    Printable (entryText (name, hash)).toList := by
  simp only [toList_entryText, printable_append_iff, printable_cons_iff]
  exact ⟨by decide, by decide, by decide, by decide, isName.printable, by decide, isHash.printable,
    by decide, by decide⟩

theorem entryText_starts (pair : String × String) : ['\x7b'] <+: (entryText pair).toList := by
  simp [toList_entryText]

theorem entryText_ends (pair : String × String) : ['\x7d'] <:+ (entryText pair).toList :=
  ⟨"\x7b ".toList ++ (dependsKey ++ (' ' :: '"' :: (pair.1.toList ++ ':' :: (pair.2.toList ++
    ['"', ' '])))), by simp [toList_entryText]⟩

/-- The line is a comment without line ends, and what it says gives these dependencies. -/
structure Tells (line : String) (found : List (String × String)) : Prop where
  printable : Printable line.toList
  comment : ∃ text, commentText line.toList = some text ∧ Gives text found

theorem tells_of_toList {line : String} {found : List (String × String)} {text : List Char}
    {n : Nat} {f l : Char} (isLine : line.toList = '#' :: ' ' :: (List.replicate n ' ' ++ text))
    (printable : Printable text) (starts : [f] <+: text) (ends : [l] <:+ text)
    (unpadded : Text.isBlank f = false ∧ Text.isBlank l = false) (gives : Gives text found) :
    Tells line found := by
  have first : text.head? = some f := by
    obtain ⟨_, rfl⟩ := starts
    rfl
  have last : text.getLast? = some l := by
    obtain ⟨_, rfl⟩ := ends
    simp
  refine ⟨?_, text, ?_, gives⟩
  · rw [isLine]
    simp only [printable_cons_iff, printable_append_iff]
    refine ⟨by decide, by decide, fun c member => ?_, printable⟩
    obtain rfl := List.eq_of_mem_replicate member
    decide
  · rw [isLine, commentText, Text.strip_padded (fun c member => ?_) (by simp [first, unpadded.1])
      (by simp [last, unpadded.2])]
    rw [List.eq_of_mem_replicate member]
    rfl

section

variable {pairs : List (String × String)}

theorem tells_entryLines (parts : ∀ pair ∈ pairs, IsPart pair.1 ∧ IsPart pair.2) :
    List.Forall₂ Tells ((entryLines pairs).map ("#     " ++ ·)) (pairs.map ([·])) := by
  fun_induction entryLines pairs with
  | case1 => exact .nil
  | case2 pair =>
      obtain ⟨isName, isHash⟩ := parts pair List.mem_cons_self
      exact .cons (tells_of_toList (n := 4) (by simp) (entryText_printable isName isHash)
        (entryText_starts pair) (entryText_ends pair) (by decide)
        (gives_entryText isName isHash)) .nil
  | case3 pair next rest ih =>
      obtain ⟨isName, isHash⟩ := parts pair List.mem_cons_self
      have gives := (gives_entryText isName isHash).append
        (Gives.of_notMem (show '"' ∉ [','] by decide))
      refine .cons (tells_of_toList (n := 4) (by simp) ?_
        ((entryText_starts pair).trans (List.prefix_append _ _)) (List.suffix_append _ _)
        (by decide) gives) (ih fun other member => parts other (List.mem_cons_of_mem _ member))
      exact printable_append_iff.mpr ⟨entryText_printable isName isHash, by decide⟩

theorem forall_mem_intercalate {holds : Char → Prop} {between : List Char} {texts : List (List Char)}
    (isBetween : ∀ c ∈ between, holds c) (each : ∀ text ∈ texts, ∀ c ∈ text, holds c) :
    ∀ c ∈ between.intercalate texts, holds c := by
  induction texts with
  | nil => nofun
  | cons text rest ih =>
      rw [List.forall_mem_cons] at each
      cases rest with
      | nil => simpa using each.1
      | cons next rest =>
          rw [List.intercalate_cons_cons]
          simp only [List.forall_mem_append]
          exact ⟨⟨each.1, isBetween⟩, ih each.2⟩

theorem flatten_singletons (pairs : List (String × String)) : (pairs.map ([·])).flatten = pairs := by
  simp [← List.flatMap_def]

theorem tells_line (parts : ∀ pair ∈ pairs, IsPart pair.1 ∧ IsPart pair.2) :
    Tells ("# \x7b \"Seq\": [" ++ Text.joinWith ", " (pairs.map entryText) ++ "] \x7d") pairs := by
  have inner : Gives (", ".toList.intercalate (pairs.map fun pair => (entryText pair).toList))
      (pairs.map ([·])).flatten := by
    refine .intercalate (by decide) ?_
    rw [List.forall₂_map_left_iff, List.forall₂_map_right_iff, List.forall₂_same]
    exact fun pair member => gives_entryText (parts pair member).1 (parts pair member).2
  have gives := (Gives.of_notMem (show '"' ∉ "\x7b ".toList by decide)).append <|
    gives_seq.append <| inner.append (Gives.of_notMem (show '"' ∉ "] \x7d".toList by decide))
  rw [List.nil_append, List.nil_append, List.append_nil, flatten_singletons] at gives
  refine tells_of_toList (n := 0) (f := '\x7b') (l := '\x7d') ?_ ?_ ?_ ?_ (by decide) gives
  · simp [Text.joinWith, String.toList_intercalate, Function.comp_def]
  · simp only [printable_append_iff]
    have isBetween : Printable ", ".toList := by decide
    refine ⟨by decide, by decide, forall_mem_intercalate isBetween ?_, by decide⟩
    simp only [List.mem_map, forall_exists_index, and_imp, forall_apply_eq_imp_iff₂]
    exact fun pair member => entryText_printable (parts pair member).1 (parts pair member).2
  · exact (show ['\x7b'] <+: "\x7b ".toList by decide).trans (List.prefix_append _ _)
  · rw [← List.append_assoc, ← List.append_assoc]
    exact (show ['\x7d'] <:+ "] \x7d".toList by decide).trans (List.suffix_append _ _)

theorem HeaderOf.tells {lines : List String} (isHeader : HeaderOf pairs lines)
    (parts : ∀ pair ∈ pairs, IsPart pair.1 ∧ IsPart pair.2) :
    ∃ founds, List.Forall₂ Tells lines founds ∧ founds.flatten = pairs := by
  cases isHeader with
  | block =>
      have sign (c : Char) (different : '"' ≠ c) : Gives [c] [] :=
        .of_notMem (by simpa using different)
      have opening : Tells "# \x7b" [] := tells_of_toList (n := 0) rfl (by decide) List.prefix_rfl
        List.suffix_rfl (by decide) (sign '\x7b' (by decide))
      have seq : Tells "#   \"Seq\": [" [] := tells_of_toList (n := 2) (f := '"') (l := '[') rfl
        (by decide) (by decide) (by decide) (by decide) gives_seq
      have bracket : Tells "#   ]" [] := tells_of_toList (n := 2) rfl (by decide) List.prefix_rfl
        List.suffix_rfl (by decide) (sign ']' (by decide))
      have closing : Tells "# \x7d" [] := tells_of_toList (n := 0) rfl (by decide) List.prefix_rfl
        List.suffix_rfl (by decide) (sign '\x7d' (by decide))
      refine ⟨[[], []] ++ pairs.map ([·]) ++ [[], []], ?_, by simp [flatten_singletons]⟩
      have start := List.rel_append (.cons opening (.cons seq .nil)) (tells_entryLines parts)
      exact List.rel_append start (.cons bracket (.cons closing .nil))
  | line => exact ⟨[pairs], .cons (tells_line parts) .nil, by simp⟩
  | @single pair isSingle =>
      subst isSingle
      obtain ⟨isName, isHash⟩ := parts pair List.mem_cons_self
      refine ⟨[[pair]], .cons ?_ .nil, rfl⟩
      exact tells_of_toList (n := 0) (by simp) (entryText_printable isName isHash)
        (entryText_starts pair) (entryText_ends pair) (by decide) (gives_entryText isName isHash)

end

/-! Contracts with a header. -/

inductive EndsHeader : List Char → Prop
  | nothing : EndsHeader []
  | line {rest : List Char} (uncommented : rest.head? ≠ some '#') : EndsHeader ('\n' :: rest)

theorem commentText_eq_none {line : List Char} (uncommented : line.head? ≠ some '#') :
    commentText line = none := by
  cases line with
  | nil => rfl
  | cons c rest =>
      unfold commentText
      split
      · simp_all
      · simp_all
      · rfl

theorem headerComments_of_absent {line : List Char} (unbroken : '\n' ∉ line) :
    headerComments line = (commentText line).toList := by
  have absent : ∀ c ∈ line, decide (c = '\n') = false := fun c member =>
    decide_eq_false fun same => unbroken (same ▸ member)
  rw [headerComments, Lint.headerLines, Text.splitWhere_of_absent absent]
  cases isComment : commentText line <;> simp [isComment]

theorem headerComments_append {line : List Char} (unbroken : '\n' ∉ line) (rest : List Char) :
    headerComments (line ++ '\n' :: rest) =
      match commentText line with
      | some text => text :: headerComments rest
      | none => [] := by
  have absent : ∀ c ∈ line, decide (c = '\n') = false := fun c member =>
    decide_eq_false fun same => unbroken (same ▸ member)
  rw [headerComments, Lint.headerLines, Text.splitWhere_append absent rfl, List.map_cons]
  cases isComment : commentText line <;> simp [headerComments, Lint.headerLines]

theorem headerComments_eq_nil {rest : List Char} (uncommented : rest.head? ≠ some '#') :
    headerComments rest = [] := by
  by_cases broken : '\n' ∈ rest
  · obtain ⟨line, more, rfl, unbroken⟩ := List.eq_append_cons_of_mem broken
    rw [headerComments_append unbroken, commentText_eq_none]
    cases line with
    | nil => nofun
    | cons c line => exact uncommented
  · rw [headerComments_of_absent broken, commentText_eq_none uncommented]
    rfl

theorem Tells.newline_notMem {line : String} {found : List (String × String)}
    (tells : Tells line found) : '\n' ∉ line.toList :=
  fun member => absurd (tells.printable '\n' member) (by decide)

theorem headerComments_tells {lines : List String} {founds : List (List (String × String))}
    {tail : List Char} (tells : List.Forall₂ Tells lines founds) (inner : lines ≠ [])
    (ends : EndsHeader tail) :
    List.Forall₂ Gives (headerComments ((Text.joinWith "\n" lines).toList ++ tail)) founds := by
  rw [Text.joinWith, String.toList_intercalate]
  change List.Forall₂ Gives (headerComments (['\n'].intercalate _ ++ tail)) founds
  induction tells with
  | nil => exact absurd rfl inner
  | @cons line found lines founds first later ih =>
      obtain ⟨text, isText, gives⟩ := first.comment
      cases later with
      | nil =>
          rw [List.map_singleton, List.intercalate_singleton]
          cases ends with
          | nothing =>
              rw [List.append_nil, headerComments_of_absent first.newline_notMem, isText]
              exact .cons gives .nil
          | line uncommented =>
              rw [headerComments_append first.newline_notMem, isText]
              exact .cons gives (headerComments_eq_nil uncommented ▸ .nil)
      | cons second later =>
          rw [List.map_cons, List.map_cons, List.intercalate_cons_cons, List.append_assoc,
            List.append_assoc, List.singleton_append, headerComments_append first.newline_notMem,
            isText]
          exact .cons gives (ih (List.cons_ne_nil _ _))

/-- The file of a contract begins with a header that names the dependencies. -/
inductive HasHeader (world : World) (contract : Path) (pairs : List (String × String)) : Prop
  | intro {content : Content} {lines : List String} {tail : List Char}
      (isContent : world.tree.read world.here contract = .ok content)
      (isText : Text.decodeUtf8 content.raw = .ok ((Text.joinWith "\n" lines).toList ++ tail))
      (isHeader : HeaderOf pairs lines) (ends : EndsHeader tail)

def manifestItem (pair : String × String) : Value :=
  .object [("Depends", .string (pair.1 ++ ":" ++ pair.2))]

/-- The manifest in the directory of a runner lists the dependencies. -/
inductive HasManifest (world : World) (directory : Path) (pairs : List (String × String)) : Prop
  | intro {content : Content} {text : String} {fields : Json.Fields}
      (isContent : world.tree.read world.here (directory.child "runner.json") = .ok content)
      (isText : content.text = .ok text)
      (isValue : Json.load world.nesting text = .ok (.object fields))
      (isSeq : fields.get? "Seq" = some (.array (pairs.map manifestItem)))

theorem headerDependencies_of_header {pairs : List (String × String)}
    (parts : ∀ pair ∈ pairs, IsPart pair.1 ∧ IsPart pair.2) {lines : List String}
    (isHeader : HeaderOf pairs lines) {tail : List Char} (ends : EndsHeader tail) :
    headerDependencies (String.ofList ((Text.joinWith "\n" lines).toList ++ tail)) =
      entriesOf pairs := by
  obtain ⟨founds, tells, whole⟩ := isHeader.tells parts
  have inner : lines ≠ [] := by
    cases isHeader <;> simp
  have all := Gives.intercalate (show '"' ∉ ['\n'] by decide)
    (headerComments_tells tells inner ends) []
  rw [headerDependencies, String.toList_ofList, dependenciesIn, ← allIn]
  rw [List.append_nil, whole] at all
  rw [all]
  exact congrArg entriesOf (List.append_nil pairs)

theorem return_notMem_lines {lines : List String} {founds : List (List (String × String))}
    (tells : List.Forall₂ Tells lines founds) : '\r' ∉ (Text.joinWith "\n" lines).toList := by
  have each : ∀ text ∈ lines.map String.toList, ∀ c ∈ text, c ≠ '\r' := by
    induction tells with
    | nil => nofun
    | cons first _ ih =>
        refine List.forall_mem_cons.mpr ⟨?_, ih⟩
        rintro _ member rfl
        exact absurd (first.printable '\r' member) (by decide)
  rw [Text.joinWith, String.toList_intercalate]
  exact fun member => forall_mem_intercalate (by simp) each '\r' member rfl

theorem EndsHeader.unifyNewlines {tail : List Char} (ends : EndsHeader tail) :
    EndsHeader (Source.unifyNewlines tail) := by
  cases ends with
  | nothing => exact .nothing
  | @line rest uncommented =>
      refine .line ?_
      rw [Source.unifyNewlines.eq_def]
      split
      · nofun
      · simp
      · simp
      · exact uncommented

theorem headerOf_runIn {pairs : List (String × String)}
    (parts : ∀ pair ∈ pairs, IsPart pair.1 ∧ IsPart pair.2) {world : World} {contract : Path}
    (hasHeader : HasHeader world contract pairs) :
    (Command.headerOf contract).runIn world = (.ok (entriesOf pairs), world) := by
  obtain @⟨content, lines, tail, isContent, isText, isHeader, ends⟩ := hasHeader
  obtain ⟨_, tells, _⟩ := isHeader.tells parts
  have unified : content.text = .ok (String.ofList ((Text.joinWith "\n" lines).toList ++
      Source.unifyNewlines tail)) := by
    rw [Content.text, isText, ← Source.unifyNewlines_append (return_notMem_lines tells)]
    rfl
  rw [Command.headerOf, Action.runIn_bind, Action.runIn_readText isContent unified]
  simp only [headerDependencies_of_header parts isHeader ends.unifyNewlines, Action.runIn_pure]

/-! Manifests. -/

theorem splitLast_append {name hash : String} (noColon : ':' ∉ hash.toList) :
    Runner.splitLast (name ++ ":" ++ hash) = .ok (name, hash) := by
  have passed : ∀ c ∈ hash.toList.reverse, (c != ':') = true := fun c member => by
    simpa using fun same : c = ':' => noColon (same ▸ List.mem_reverse.mp member)
  have reversed : (name ++ ":" ++ hash).toList.reverse =
      hash.toList.reverse ++ ':' :: name.toList.reverse := by simp
  rw [Runner.splitLast, reversed, List.dropWhile_append_of_pos passed]
  simp [Text.afterChars]

theorem itemDependency?_manifestItem {pair : String × String} (isHash : IsPart pair.2) :
    Runner.itemDependency? (manifestItem pair) = .ok (some pair) := by
  have noColon : ':' ∉ pair.2.toList := fun member => (isHash.plain _ member).1 rfl
  change (Runner.splitLast (pair.1 ++ ":" ++ pair.2) >>= _) = _
  rw [splitLast_append noColon]
  rfl

theorem manifestDependencies_of_seq {pairs : List (String × String)}
    (parts : ∀ pair ∈ pairs, IsPart pair.1 ∧ IsPart pair.2) {fields : Json.Fields}
    (isSeq : fields.get? "Seq" = some (.array (pairs.map manifestItem))) :
    Runner.manifestDependencies (.object fields) = .ok (entriesOf pairs) := by
  have items : (pairs.map manifestItem).mapM Runner.itemDependency? = .ok (pairs.map some) := by
    clear isSeq
    induction pairs with
    | nil => rfl
    | cons pair rest ih =>
        rw [List.forall_mem_cons] at parts
        rw [List.map_cons, List.mapM_cons, itemDependency?_manifestItem parts.1.2, ih parts.2]
        rfl
  have found : (Value.object fields).getOr "Seq" (.array []) =
      .ok (.array (pairs.map manifestItem)) := by
    rw [Value.getOr, Value.fields]
    simp only [bind, Except.bind, isSeq]
    rfl
  simp only [Runner.manifestDependencies, found, Value.elements, bind, Except.bind, items]
  simp [pure, Except.pure]

theorem dependenciesIn_runIn {pairs : List (String × String)}
    (parts : ∀ pair ∈ pairs, IsPart pair.1 ∧ IsPart pair.2) {world : World} {directory : Path}
    (hasManifest : HasManifest world directory pairs) :
    (Runner.dependenciesIn directory).runIn world = (.ok (entriesOf pairs), world) := by
  obtain @⟨content, text, fields, isContent, isText, isValue, isSeq⟩ := hasManifest
  have has : world.tree.has world.here (directory.child "runner.json") = true := by
    rw [Files.Tree.has, Files.Tree.find?_of_read isContent]
    rfl
  simp only [Runner.dependenciesIn, Action.has, Action.runIn_bind, Action.runIn_ask, has, if_true,
    Action.runIn_readText isContent isText, Action.runIn_parseJson, isValue, Except.mapError,
    manifestDependencies_of_seq parts isSeq, Action.attempt, Action.runIn_pure]

/-- Dependencies that are written in a header, in any of its forms, and in a manifest are read as the
same map. -/
theorem dependencies_read_alike {pairs : List (String × String)}
    (parts : ∀ pair ∈ pairs, IsPart pair.1 ∧ IsPart pair.2) :
    ∃ entries, IsMapOf pairs entries ∧
      (∀ world contract, HasHeader world contract pairs →
        (Command.headerOf contract).runIn world = (.ok entries, world)) ∧
      ∀ world directory, HasManifest world directory pairs →
        (Runner.dependenciesIn directory).runIn world = (.ok entries, world) :=
  ⟨entriesOf pairs, entriesOf_isMapOf pairs, fun _ _ => headerOf_runIn parts,
    fun _ _ => dependenciesIn_runIn parts⟩

def repeatedPairs : List (String × String) :=
  [("py-lib-std", "a1"), ("py-genlayer", "b2"), ("py-lib-std", "c3")]

def repeatedHeader : String :=
  Text.joinWith "\n" (["# \x7b", "#   \"Seq\": ["] ++
    (entryLines repeatedPairs).map ("#     " ++ ·) ++ ["#   ]", "# \x7d"])

def repeatedManifest : Value :=
  .object [("Seq", .array (repeatedPairs.map manifestItem))]

def repeatedWorld : World :=
  { tree := ⟨[(["contract.py"], .file (.ofText (repeatedHeader ++ "\n\n# class\n"))),
      (["runner.json"], .file (.ofText repeatedManifest.spaced))]⟩ }

theorem dependencies_read_alike_repeated :
    ((∀ pair ∈ repeatedPairs, IsPart pair.1 ∧ IsPart pair.2) ∧
      HasHeader repeatedWorld (.ofText "contract.py") repeatedPairs ∧
      HasManifest repeatedWorld (.ofRoot []) repeatedPairs) ∧
    ∃ entries, IsMapOf repeatedPairs entries ∧
      (Command.headerOf (.ofText "contract.py")).runIn repeatedWorld = (.ok entries, repeatedWorld) ∧
      (Runner.dependenciesIn (.ofRoot [])).runIn repeatedWorld = (.ok entries, repeatedWorld) := by
  have parts : ∀ pair ∈ repeatedPairs, IsPart pair.1 ∧ IsPart pair.2 := by
    decide
  have hasHeader : HasHeader repeatedWorld (.ofText "contract.py") repeatedPairs := by
    have uncommented : "\n# class\n".toList.head? ≠ some '#' := by decide
    refine .intro rfl ?_ .block (.line uncommented)
    have ascii : (repeatedHeader ++ "\n\n# class\n").toList.all (·.toNat < 128) = true := by
      decide +kernel
    rw [Content.decodeUtf8_ofText fun c member => of_decide_eq_true
      (List.all_eq_true.mp ascii c member), String.toList_append]
    rfl
  have hasManifest : HasManifest repeatedWorld (.ofRoot []) repeatedPairs := by
    have exact : repeatedManifest.Exact := by
      refine .object (by decide) (List.forall_mem_singleton.mpr (.array ?_))
      simp only [List.mem_map, forall_exists_index, and_imp, forall_apply_eq_imp_iff₂]
      exact fun pair _ => .object (by simp) (List.forall_mem_singleton.mpr (.string _))
    have within : repeatedManifest.Within ⟨some Json.digitLimit, some repeatedWorld.nesting⟩ := by
      refine .object rfl (List.forall_mem_singleton.mpr (.array rfl ?_))
      simp only [List.mem_map, forall_exists_index, and_imp, forall_apply_eq_imp_iff₂]
      exact fun pair _ => .object rfl (List.forall_mem_singleton.mpr (.string _))
    exact .intro rfl (Json.read_spaced exact).1 (Json.load_spaced exact within) rfl
  obtain ⟨entries, isMap, ofHeader, ofManifest⟩ := dependencies_read_alike parts
  exact ⟨⟨parts, hasHeader, hasManifest⟩, entries, isMap, ofHeader _ _ hasHeader,
    ofManifest _ _ hasManifest⟩

end Sdk

end ContractLint
