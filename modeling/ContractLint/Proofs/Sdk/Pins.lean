import ContractLint.Proofs.Lint.Headers
import ContractLint.Sdk.Dependencies

/-! Which dependencies a header pins. The check of a header looks for two texts anywhere in it, the
reading of its dependencies for a name and a hash behind each key: whoever pins the runner passes the
check, and in an orderly header whoever passes the check pins the runner. -/

namespace ContractLint.Sdk

open Lint (HeaderAccepted headerAccepted_iff headerComments infix_flatten_headerComments)

theorem dependsKey_eq : dependsKey = '"' :: ("Depends".toList ++ ['"', ':']) := rfl

theorem dependsKey_prefix_cons_iff {c : Char} {rest : List Char} :
    dependsKey <+: c :: rest ↔ c = '"' ∧ ∃ more, rest = "Depends".toList ++ '"' :: ':' :: more := by
  rw [dependsKey_eq, List.cons_prefix_cons, eq_comm]
  refine and_congr_right fun _ => exists_congr fun more => ?_
  rw [List.append_assoc, eq_comm]
  rfl

theorem partBefore?_eq_some_iff {mark : Char} {text part rest : List Char} :
    partBefore? mark text = some (part, rest) ↔
      text = part ++ mark :: rest ∧ mark ∉ part ∧ part ≠ [] := by
  constructor
  · intro found
    rw [partBefore?] at found
    split at found
    case h_1 first after isRest =>
      split at found
      case isTrue => cases found
      case isFalse inner =>
        obtain ⟨rfl, rfl⟩ := Prod.mk.inj (Option.some.inj found)
        have isMark := List.head?_dropWhile_not (· != mark) text
        have whole := List.takeWhile_append_dropWhile (p := (· != mark)) (l := text)
        rw [isRest] at isMark whole
        have same : first = mark := by simpa using isMark
        rw [same] at whole
        refine ⟨whole.symm, fun member => ?_, by simpa using inner⟩
        simpa using List.all_eq_true.mp (List.all_takeWhile (p := (· != mark))) mark member
    case h_2 => cases found
  · rintro ⟨rfl, absent, inner⟩
    have passed : ∀ c ∈ part, (c != mark) = true := fun c member => by
      simpa using fun same : c = mark => absent (same ▸ member)
    simp [partBefore?, List.takeWhile_append_of_pos passed, List.dropWhile_append_of_pos passed,
      inner]

/-- The text begins with a dependency: the key, blanks, and a name and a hash in quotes. -/
inductive Begins : List Char → String × String → List Char → Prop
  | intro {blanks after : List Char} {name hash : String}
      (areBlank : ∀ c ∈ blanks, Text.isBlank c = true)
      (isName : ':' ∉ name.toList ∧ name.toList ≠ [])
      (isHash : '"' ∉ hash.toList ∧ hash.toList ≠ []) :
      Begins (dependsKey ++ (blanks ++ '"' :: (name.toList ++ ':' :: (hash.toList ++ '"' :: after))))
        (name, hash) after

namespace Begins

variable {text after : List Char} {dependency : String × String}

theorem suffix (begins : Begins text dependency after) : after <:+ text := by
  obtain @⟨blanks, _, name, hash, _, _, _⟩ := begins
  exact ⟨dependsKey ++ blanks ++ '"' :: name.toList ++ ':' :: hash.toList ++ ['"'], by simp⟩

theorem length_lt (begins : Begins text dependency after) : after.length < text.length := by
  obtain @⟨blanks, _, name, hash, _, _, _⟩ := begins
  simp only [List.length_append, List.length_cons]
  omega

theorem starts (begins : Begins text dependency after) : dependsKey <+: text := by
  obtain ⟨_, _, _⟩ := begins
  exact List.prefix_append _ _

end Begins

theorem readDependency?_eq_some_iff {text after : List Char} {dependency : String × String} :
    readDependency? text = some (dependency, after) ↔ Begins text dependency after := by
  constructor
  · intro read
    rw [readDependency?, guard] at read
    split at read
    case isFalse => cases read
    case isTrue isKey =>
      obtain ⟨rest, rfl⟩ := List.isPrefixOf_iff_prefix.mp isKey
      rw [pure_bind, List.drop_left] at read
      have whole := List.takeWhile_append_dropWhile (p := Text.isBlank) (l := rest)
      split at read
      case h_2 => cases read
      case h_1 start opened =>
        obtain ⟨⟨name, more⟩, named, later⟩ := Option.bind_eq_some_iff.mp read
        obtain ⟨⟨hash, last⟩, hashed, returned⟩ := Option.bind_eq_some_iff.mp later
        obtain ⟨rfl, isName⟩ := partBefore?_eq_some_iff.mp named
        obtain ⟨rfl, isHash⟩ := partBefore?_eq_some_iff.mp hashed
        cases returned
        rw [opened] at whole
        rw [← whole]
        have areBlank := List.all_eq_true.mp (List.all_takeWhile (p := Text.isBlank) (l := rest))
        rw [← String.toList_ofList (l := name)] at isName
        rw [← String.toList_ofList (l := hash)] at isHash
        simpa using Begins.intro areBlank isName isHash
  · rintro ⟨areBlank, isName, isHash⟩
    have isKey {rest : List Char} : dependsKey.isPrefixOf (dependsKey ++ rest) = true :=
      List.isPrefixOf_iff_prefix.mpr (List.prefix_append _ _)
    have opened {rest : List Char} : ('"' :: rest).dropWhile Text.isBlank = '"' :: rest := rfl
    rw [readDependency?, guard, if_pos isKey, pure_bind, List.drop_left,
      List.dropWhile_append_of_pos areBlank, opened]
    simp [partBefore?_eq_some_iff.mpr ⟨rfl, isName⟩, partBefore?_eq_some_iff.mpr ⟨rfl, isHash⟩]

theorem Begins.unique {text first second : List Char} {dependency other : String × String}
    (isFirst : Begins text dependency first) (isSecond : Begins text other second) :
    dependency = other ∧ first = second := by
  have same := (readDependency?_eq_some_iff.mpr isFirst).symm.trans
    (readDependency?_eq_some_iff.mpr isSecond)
  simpa using same

theorem mem_findDependencies_begins {fuel : Nat} {text : List Char} {dependency : String × String}
    (found : dependency ∈ findDependencies fuel text) :
    ∃ rest after, rest <:+ text ∧ Begins rest dependency after := by
  induction fuel generalizing text with
  | zero => cases found
  | succ fuel ih =>
      cases text with
      | nil => cases found
      | cons c tail =>
          rw [findDependencies] at found
          split at found
          case h_1 first after read =>
            have begins := readDependency?_eq_some_iff.mp read
            rcases List.mem_cons.mp found with rfl | later
            · exact ⟨_, after, List.suffix_rfl, begins⟩
            · obtain ⟨rest, ending, isSuffix, more⟩ := ih later
              exact ⟨rest, ending, isSuffix.trans begins.suffix, more⟩
          case h_2 =>
            obtain ⟨rest, ending, isSuffix, more⟩ := ih found
            exact ⟨rest, ending, isSuffix.trans (List.suffix_cons c tail), more⟩

/-- Each key in the text begins a dependency whose name has no quote in it, and whose last quote does
not begin a key again. -/
def Orderly (text : List Char) : Prop :=
  ∀ rest, rest <:+ text → dependsKey <+: rest → ∃ name hash after,
    Begins rest (name, hash) after ∧ '"' ∉ name.toList ∧ ¬dependsKey <+: '"' :: after

instance (text : List Char) : Decidable (Orderly text) :=
  decidable_of_iff (∀ rest ∈ text.tails, dependsKey <+: rest → ∃ found ∈ readDependency? rest,
      '"' ∉ found.1.1.toList ∧ ¬dependsKey <+: '"' :: found.2) <| by
    simp only [List.mem_tails, Orderly]
    refine forall₃_congr fun rest _ _ => ⟨?_, ?_⟩
    · rintro ⟨⟨⟨name, hash⟩, after⟩, read, isOrderly⟩
      exact ⟨name, hash, after, readDependency?_eq_some_iff.mp read, isOrderly⟩
    · rintro ⟨name, hash, after, begins, isOrderly⟩
      exact ⟨((name, hash), after), readDependency?_eq_some_iff.mpr begins, isOrderly⟩

theorem Orderly.of_suffix {text rest : List Char} (orderly : Orderly text) (within : rest <:+ text) :
    Orderly rest :=
  fun other isSuffix => orderly other (isSuffix.trans within)

theorem suffix_of_notMem {rest text : List Char} (part : List Char) (absent : '"' ∉ part)
    (isKey : dependsKey <+: rest) (within : rest <:+ part ++ text) : rest <:+ text := by
  induction part with
  | nil => exact within
  | cons c part ih =>
      rw [List.mem_cons, not_or] at absent
      rcases List.suffix_cons_iff.mp within with rfl | within
      · exact absurd (dependsKey_prefix_cons_iff.mp isKey).1.symm absent.1
      · exact ih absent.2 within

theorem quote_notMem_blanks {blanks : List Char} (areBlank : ∀ c ∈ blanks, Text.isBlank c = true) :
    '"' ∉ blanks :=
  fun member => absurd (areBlank '"' member) (by decide)

theorem Begins.later {text after rest : List Char} {name hash : String}
    (begins : Begins text (name, hash) after) (noQuote : '"' ∉ name.toList)
    (noKey : ¬dependsKey <+: '"' :: after) (isKey : dependsKey <+: rest) (within : rest <:+ text)
    (different : rest ≠ text) : rest <:+ after := by
  obtain @⟨blanks, _, _, _, areBlank, isName, isHash⟩ := begins
  rw [dependsKey_eq, List.cons_append, List.append_assoc, List.cons_append, List.singleton_append]
    at within different
  have atSecond := suffix_of_notMem "Depends".toList (by decide) isKey
    ((List.suffix_cons_iff.mp within).resolve_left different)
  rcases List.suffix_cons_iff.mp atSecond with rfl | afterSecond
  · obtain ⟨_, more, same⟩ := dependsKey_prefix_cons_iff.mp isKey
    simp at same
  have atThird := suffix_of_notMem (':' :: blanks) (by simpa using quote_notMem_blanks areBlank)
    isKey afterSecond
  rcases List.suffix_cons_iff.mp atThird with rfl | afterThird
  · obtain ⟨_, more, same⟩ := dependsKey_prefix_cons_iff.mp isKey
    rw [List.append_cons _ '"'] at same
    have noColon : ':' ∉ "Depends".toList ++ ['"'] := by decide
    have sameName := (Text.append_mark_inj isName.1 noColon same).1
    exact absurd (by simp [sameName]) noQuote
  have atFourth := suffix_of_notMem (name.toList ++ ':' :: hash.toList)
    (by simpa using ⟨noQuote, isHash.1⟩) isKey (by simpa using afterThird)
  rcases List.suffix_cons_iff.mp atFourth with rfl | afterFourth
  · exact absurd isKey noKey
  · exact afterFourth

theorem Begins.name_eq {blanks more after : List Char} {name other hash : String}
    (begins : Begins (dependsKey ++ (blanks ++ '"' :: (name.toList ++ ':' :: more))) (other, hash)
      after)
    (areBlank : ∀ c ∈ blanks, Text.isBlank c = true) (noColon : ':' ∉ name.toList) :
    other = name := by
  generalize isText : dependsKey ++ _ = text at begins
  obtain @⟨_, _, _, _, alsoBlank, isName, _⟩ := begins
  obtain ⟨_, sameRest⟩ := Text.append_mark_inj (quote_notMem_blanks areBlank)
    (quote_notMem_blanks alsoBlank) (List.append_cancel_left isText)
  exact String.toList_inj.mp (Text.append_mark_inj noColon isName.1 sameRest).1.symm

theorem mem_findDependencies {fuel : Nat} {text rest after : List Char}
    {dependency : String × String} (orderly : Orderly text) (enough : text.length ≤ fuel)
    (within : rest <:+ text) (begins : Begins rest dependency after) :
    dependency ∈ findDependencies fuel text := by
  induction fuel generalizing text with
  | zero =>
      have nothing : rest.length ≤ 0 := within.length_le.trans enough
      exact absurd begins.length_lt (by omega)
  | succ fuel ih =>
      cases text with
      | nil => exact absurd begins.length_lt (by simp [List.suffix_nil.mp within])
      | cons c tail =>
          have fits : tail.length ≤ fuel := Nat.le_of_succ_le_succ enough
          rw [findDependencies]
          split
          case h_1 first last read =>
            have isFirst := readDependency?_eq_some_iff.mp read
            obtain ⟨name, hash, _, isOrderly, noQuote, noKey⟩ :=
              orderly _ List.suffix_rfl isFirst.starts
            obtain ⟨rfl, rfl⟩ := isFirst.unique isOrderly
            by_cases same : rest = c :: tail
            · subst same
              exact (begins.unique isFirst).1 ▸ List.mem_cons_self
            · have later := isFirst.later noQuote noKey begins.starts within same
              have shorter := isFirst.length_lt
              exact List.mem_cons_of_mem _ (ih (orderly.of_suffix isFirst.suffix) (by omega) later)
          case h_2 unread =>
            rcases List.suffix_cons_iff.mp within with rfl | within
            · exact absurd (readDependency?_eq_some_iff.mpr begins) (by simp [unread])
            · exact ih (orderly.of_suffix (List.suffix_cons c tail)) fits within

/-- The header names the dependency, so that its hash is known. -/
def Pins (source name : String) : Prop := name ∈ (headerDependencies source).map (·.1)

theorem pins_iff {source name : String} : Pins source name ↔
    ∃ hash, (name, hash) ∈ findDependencies
      (['\n'].intercalate (headerComments source.toList)).length
      (['\n'].intercalate (headerComments source.toList)) := by
  rw [Pins, headerDependencies, dependenciesIn, mem_keys_entriesOf]
  simp

theorem headerAccepted_of_pins {source : String} (pins : Pins source "py-genlayer") :
    HeaderAccepted source := by
  obtain ⟨hash, found⟩ := pins_iff.mp pins
  obtain ⟨rest, after, within, begins⟩ := mem_findDependencies_begins found
  obtain @⟨blanks, _, _, _, _, _, _⟩ := begins
  refine headerAccepted_iff.mpr ⟨?_, ?_⟩
  · refine infix_flatten_headerComments (by decide) (.trans ?_ within.isInfix)
    exact ⟨[], ':' :: (blanks ++ '"' :: _), rfl⟩
  · refine infix_flatten_headerComments (by decide) (.trans ?_ within.isInfix)
    exact ⟨dependsKey ++ blanks ++ ['"'], hash.toList ++ '"' :: after, by simp⟩

def EndsInKey (text : List Char) : Prop :=
  ∃ start blanks, text = start ++ dependsKey ++ blanks ++ ['"'] ∧
    ∀ c ∈ blanks, Text.isBlank c = true

instance (text : List Char) : Decidable (EndsInKey text) :=
  decidable_of_iff (∃ rest ∈ text.tails,
      rest = dependsKey ++ (rest.drop dependsKey.length).dropLast ++ ['"'] ∧
        (rest.drop dependsKey.length).dropLast.all Text.isBlank = true) <| by
    constructor
    · rintro ⟨rest, isRest, same, areBlank⟩
      obtain ⟨start, rfl⟩ := (List.mem_tails _ _).mp isRest
      exact ⟨start, _, by simpa using congrArg (start ++ ·) same, List.all_eq_true.mp areBlank⟩
    · rintro ⟨start, blanks, rfl, areBlank⟩
      refine ⟨dependsKey ++ blanks ++ ['"'], by simp, ?_⟩
      simpa using areBlank

/-- A header that can be read in one way only: every key begins a dependency, the runner is named
behind a key and nowhere else, and its name does not come about where lines are put together. -/
structure Tidy (lines : List (List Char)) : Prop where
  orderly : Orderly (['\n'].intercalate lines)
  behindKey : ∀ before rest, ['\n'].intercalate lines = before ++ "py-genlayer:".toList ++ rest →
    EndsInKey before
  unbroken : "py-genlayer:".toList <:+: lines.flatten →
    "py-genlayer:".toList <:+: ['\n'].intercalate lines

instance (lines : List (List Char)) : Decidable (Tidy lines) :=
  decidable_of_iff (Orderly (['\n'].intercalate lines) ∧
      (∀ index < (['\n'].intercalate lines).length + 1,
        "py-genlayer:".toList <+: (['\n'].intercalate lines).drop index →
          EndsInKey ((['\n'].intercalate lines).take index)) ∧
      ("py-genlayer:".toList <:+: lines.flatten →
        "py-genlayer:".toList <:+: ['\n'].intercalate lines)) <| by
    constructor
    · rintro ⟨orderly, behindKey, unbroken⟩
      refine ⟨orderly, fun before rest whole => ?_, unbroken⟩
      have inside : before.length < (['\n'].intercalate lines).length + 1 := by
        rw [whole, List.length_append, List.length_append]
        omega
      have ends := behindKey before.length inside (by simp [whole])
      rwa [whole, List.append_assoc, List.take_left] at ends
    · rintro ⟨orderly, behindKey, unbroken⟩
      refine ⟨orderly, fun index _ ⟨rest, same⟩ => behindKey _ rest ?_, unbroken⟩
      rw [List.append_assoc, same, List.take_append_drop]

theorem pins_of_headerAccepted {source : String} (tidy : Tidy (headerComments source.toList))
    (accepted : HeaderAccepted source) : Pins source "py-genlayer" := by
  obtain ⟨before, more, whole⟩ := tidy.unbroken (headerAccepted_iff.mp accepted).2
  obtain ⟨start, blanks, rfl, areBlank⟩ := tidy.behindKey before more whole.symm
  have within : dependsKey ++ (blanks ++ '"' :: ("py-genlayer".toList ++ ':' :: more)) <:+
      ['\n'].intercalate (headerComments source.toList) := ⟨start, by simp [← whole]⟩
  obtain ⟨name, hash, after, begins, _, _⟩ := tidy.orderly _ within (List.prefix_append _ _)
  have isRunner := begins.name_eq areBlank (by decide)
  exact pins_iff.mpr ⟨hash, mem_findDependencies tidy.orderly le_rfl within (isRunner ▸ begins)⟩

/-- Whoever pins the runner passes the check of the header. In a tidy header whoever passes the check
pins the runner, too. -/
theorem headerAccepted_iff_pins (source : String) :
    (Pins source "py-genlayer" → HeaderAccepted source) ∧
      (Tidy (headerComments source.toList) →
        (HeaderAccepted source ↔ Pins source "py-genlayer")) :=
  ⟨headerAccepted_of_pins, fun tidy => ⟨pins_of_headerAccepted tidy, headerAccepted_of_pins⟩⟩

def seqHeader : String :=
  "# \x7b\n#   \"Seq\": [\n#     \x7b \"Depends\": \"py-lib-genlayer-std:a1\" \x7d,\n" ++
    "#     \x7b \"Depends\": \"py-genlayer:b2\" \x7d\n#   ]\n# \x7d\n"

theorem headerAccepted_iff_pins_seqHeader : Tidy (headerComments seqHeader.toList) ∧
    HeaderAccepted seqHeader ∧ Pins seqHeader "py-genlayer" := by
  have tidy : Tidy (headerComments seqHeader.toList) := by decide +kernel
  have accepted : HeaderAccepted seqHeader := by
    rw [headerAccepted_iff]
    decide +kernel
  exact ⟨tidy, accepted, ((headerAccepted_iff_pins seqHeader).2 tidy).mp accepted⟩

theorem not_pins_blank_before_colon :
    HeaderAccepted "# \x7b \"Depends\" : \"py-genlayer:abc\" \x7d\n" ∧
      ¬Pins "# \x7b \"Depends\" : \"py-genlayer:abc\" \x7d\n" "py-genlayer" := by
  rw [headerAccepted_iff, Pins]
  decide +kernel

end ContractLint.Sdk
