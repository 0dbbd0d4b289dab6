import Mathlib.Data.List.Infix
import ContractLint.Text.Ranges
import ContractLint.Text.Search
import ContractLint.Text.Wildcard

/-! Which texts a pattern with one star fits, what is left of a text when a part of it is replaced,
the pieces that a text is split into, and the numbers that can be told from it. -/

namespace ContractLint.Text

/-- The character stands for itself in a pattern. -/
def IsPlain (c : Char) : Prop := c ≠ '*' ∧ c ≠ '?' ∧ c ≠ '['

instance (c : Char) : Decidable (IsPlain c) := inferInstanceAs (Decidable (_ ∧ _))

theorem isPlain_of_all {text : String}
    (all : (text.toList.all fun c => decide (IsPlain c)) = true) : ∀ c ∈ text.toList, IsPlain c :=
  fun c member => of_decide_eq_true (List.all_eq_true.mp all c member)

theorem readPattern_plain {text : List Char} (plain : ∀ c ∈ text, IsPlain c) (fuel : Nat)
    (rest : List Char) : readPattern (text.length + fuel) (text ++ rest) =
      text.map .exactly ++ readPattern fuel rest := by
  induction text with
  | nil => simp
  | cons c text ih =>
      obtain ⟨star, mark, bracket⟩ := plain c List.mem_cons_self
      have more := ih fun other member => plain other (List.mem_cons_of_mem _ member)
      rw [List.length_cons, Nat.add_right_comm, List.cons_append, readPattern]
      · simp [more]
      all_goals simp_all

theorem fits_exactly_iff {text chars : List Char} {pieces : List PatternPiece} :
    fits (text.map .exactly ++ pieces) chars = true ↔
      ∃ rest, chars = text ++ rest ∧ fits pieces rest = true := by
  induction text generalizing chars with
  | nil => simp
  | cons c text ih =>
      cases chars with
      | nil => simp [fits]
      | cons first chars =>
          rw [List.map_cons, List.cons_append, fits]
          · simp only [PatternPiece.accepts, Bool.and_eq_true, decide_eq_true_eq, ih,
              List.cons_append, List.cons.injEq]
            constructor
            · rintro ⟨rfl, rest, rfl, fit⟩
              exact ⟨rest, ⟨rfl, rfl⟩, fit⟩
            · rintro ⟨rest, ⟨rfl, rfl⟩, fit⟩
              exact ⟨rfl, rest, rfl, fit⟩
          · simp

theorem fits_anyText_iff {chars : List Char} {pieces : List PatternPiece} :
    fits (.anyText :: pieces) chars = true ↔
      ∃ skipped rest, chars = skipped ++ rest ∧ fits pieces rest = true := by
  induction chars with
  | nil =>
      rw [fits]
      constructor
      · intro fit
        exact ⟨[], [], rfl, fit⟩
      · rintro ⟨skipped, rest, parts, fit⟩
        obtain ⟨rfl, rfl⟩ := List.append_eq_nil_iff.mp parts.symm
        exact fit
  | cons c chars ih =>
      rw [fits, Bool.or_eq_true, ih]
      constructor
      · rintro (fit | ⟨skipped, rest, rfl, fit⟩)
        · exact ⟨[], _, rfl, fit⟩
        · exact ⟨c :: skipped, rest, rfl, fit⟩
      · rintro ⟨skipped, rest, parts, fit⟩
        cases skipped with
        | nil =>
            cases parts
            exact .inl fit
        | cons first skipped =>
            cases parts
            exact .inr ⟨skipped, rest, rfl, fit⟩

theorem matchesPattern_plain_iff {pattern name : String}
    (plain : ∀ c ∈ pattern.toList, IsPlain c) :
    matchesPattern pattern name = true ↔ name = pattern := by
  have pieces : readPattern pattern.length pattern.toList = pattern.toList.map .exactly ++ [] := by
    rw [← String.length_toList]
    simpa [readPattern] using readPattern_plain plain 0 []
  rw [matchesPattern, pieces, fits_exactly_iff]
  constructor
  · rintro ⟨rest, same, fit⟩
    have nothing : rest = [] := by simpa [fits] using fit
    exact String.toList_inj.mp (by simpa [nothing] using same)
  · rintro rfl
    exact ⟨[], by simp, by simp [fits]⟩

theorem matchesPattern_star_iff {start ending name : String}
    (plainStart : ∀ c ∈ start.toList, IsPlain c) (plainEnding : ∀ c ∈ ending.toList, IsPlain c) :
    matchesPattern (start ++ "*" ++ ending) name = true ↔
      ∃ middle, name.toList = start.toList ++ middle ++ ending.toList := by
  have chars : (start ++ "*" ++ ending).toList = start.toList ++ '*' :: ending.toList := by simp
  have tail := readPattern_plain plainEnding 0 []
  have pieces : readPattern (start ++ "*" ++ ending).length (start ++ "*" ++ ending).toList =
      start.toList.map .exactly ++ .anyText :: (ending.toList.map .exactly ++ []) := by
    rw [← String.length_toList, chars, List.length_append, List.length_cons,
      readPattern_plain plainStart, readPattern]
    simpa [readPattern] using tail
  rw [matchesPattern, pieces, fits_exactly_iff]
  simp only [fits_anyText_iff, fits_exactly_iff]
  constructor
  · rintro ⟨_, same, middle, _, rfl, rest, rfl, fit⟩
    have nothing : rest = [] := by simpa [fits] using fit
    exact ⟨middle, by simp [same, nothing]⟩
  · rintro ⟨middle, same⟩
    exact ⟨middle ++ ending.toList, by simp [same], middle, ending.toList, rfl, [], by simp,
      by simp [fits]⟩

theorem matchesPattern_star_ending_iff (ending : String) {name : String}
    (plain : ∀ c ∈ ending.toList, IsPlain c) :
    matchesPattern ("" ++ "*" ++ ending) name = true ↔ endsWith name ending = true := by
  have nothing : ∀ c ∈ "".toList, IsPlain c := nofun
  rw [matchesPattern_star_iff nothing plain, endsWith, List.isSuffixOf_iff_suffix]
  simp [List.IsSuffix, eq_comm]

theorem matchesPattern_any (name : String) : matchesPattern "*" name = true := by
  refine (matchesPattern_star_ending_iff "" nofun).mpr ?_
  simp [endsWith]

theorem replaceFrom_char (mark : Char) (substitute text : List Char) :
    replaceFrom [mark] substitute 0 text =
      text.flatMap fun c => if c = mark then substitute else [c] := by
  induction text with
  | nil => rfl
  | cons c rest ih =>
      by_cases same : c = mark
      · simp [replaceFrom, same, ih]
      · simp [replaceFrom, same, Ne.symm same, ih]

theorem replaceFrom_skip (part substitute skipped rest : List Char) :
    replaceFrom part substitute skipped.length (skipped ++ rest) =
      replaceFrom part substitute 0 rest := by
  induction skipped with
  | nil => rfl
  | cons c skipped ih => simpa [replaceFrom] using ih

theorem replaceFrom_start {part : List Char} (inner : part ≠ []) (substitute rest : List Char) :
    replaceFrom part substitute 0 (part ++ rest) =
      substitute ++ replaceFrom part substitute 0 rest := by
  cases part with
  | nil => exact absurd rfl inner
  | cons c part =>
      have more := replaceFrom_skip (c :: part) substitute part rest
      simp [replaceFrom, more]

theorem replaceFrom_before {part kept rest : List Char} (substitute : List Char)
    (first : ∀ other, other <:+ kept → other ≠ [] → ¬part <+: other ++ rest) :
    replaceFrom part substitute 0 (kept ++ rest) =
      kept ++ replaceFrom part substitute 0 rest := by
  induction kept with
  | nil => rfl
  | cons c kept ih =>
      have absent := first (c :: kept) List.suffix_rfl (by simp)
      have more := ih fun other isEnd => first other (isEnd.trans (List.suffix_cons c kept))
      rw [List.cons_append] at absent ⊢
      have notHere : part.isPrefixOf (c :: (kept ++ rest)) = false :=
        Bool.eq_false_iff.mpr (absent <| List.isPrefixOf_iff_prefix.mp ·)
      simp [replaceFrom, notHere, more]

theorem occursIn_iff {part text : List Char} : occursIn part text = true ↔ part <:+: text := by
  induction text with
  | nil => simp [occursIn]
  | cons c rest ih =>
      rw [occursIn, Bool.or_eq_true, List.isPrefixOf_iff_prefix, ih, List.infix_cons_iff]

theorem infix_of_notMem {part before rest : List Char} {c : Char} (absent : c ∉ part)
    (within : part <:+: before ++ c :: rest) : part <:+: before ∨ part <:+: rest := by
  obtain ⟨left, right, same⟩ := within
  rcases List.append_eq_append_iff.mp same with ⟨more, isBefore, _⟩ | ⟨more, isLeft, isRight⟩
  · exact .inl ⟨left, more, isBefore.symm⟩
  cases more with
  | nil => exact .inl ⟨left, [], by simpa using isLeft⟩
  | cons first more =>
      obtain ⟨rfl, rfl⟩ := List.cons.inj isRight
      rcases List.append_eq_append_iff.mp isLeft with ⟨beyond, _, isPart⟩ | ⟨beyond, _, isMore⟩
      · exact absurd (isPart ▸ by simp) absent
      · cases beyond with
        | nil =>
            rw [List.nil_append] at isMore
            exact absurd (isMore ▸ List.mem_cons_self) absent
        | cons first beyond =>
            obtain ⟨_, rfl⟩ := List.cons.inj isMore
            exact .inr ⟨beyond, right, rfl⟩

theorem append_mark_inj {mark : Char} {first second rest more : List Char} (absent : mark ∉ first)
    (alsoAbsent : mark ∉ second) (same : first ++ mark :: rest = second ++ mark :: more) :
    first = second ∧ rest = more := by
  induction first generalizing second with
  | nil =>
      cases second with
      | nil => simpa using same
      | cons c second =>
          obtain ⟨rfl, _⟩ := List.cons.inj same
          exact absurd List.mem_cons_self alsoAbsent
  | cons c first ih =>
      cases second with
      | nil =>
          obtain ⟨rfl, _⟩ := List.cons.inj same
          exact absurd List.mem_cons_self absent
      | cons other second =>
          obtain ⟨rfl, sameTail⟩ := List.cons.inj same
          obtain ⟨rfl, rfl⟩ := ih (absent <| List.mem_cons_of_mem _ ·)
            (alsoAbsent <| List.mem_cons_of_mem _ ·) sameTail
          exact ⟨rfl, rfl⟩

theorem append_last_mark_inj {mark : Char} {first second last other : String}
    (absent : mark ∉ last.toList) (alsoAbsent : mark ∉ other.toList)
    (same : first ++ String.singleton mark ++ last = second ++ String.singleton mark ++ other) :
    first = second ∧ last = other := by
  have reversed : last.toList.reverse ++ mark :: first.toList.reverse =
      other.toList.reverse ++ mark :: second.toList.reverse := by
    simpa using congrArg (fun text => text.toList.reverse) same
  obtain ⟨sameLast, sameFirst⟩ := append_mark_inj (by simpa using absent) (by simpa using alsoAbsent)
    reversed
  exact ⟨String.toList_inj.mp (List.reverse_injective sameFirst),
    String.toList_inj.mp (List.reverse_injective sameLast)⟩

theorem splitChars_of_absent {mark : Char} {text : List Char} (absent : mark ∉ text) :
    splitAt.splitChars mark text = [text] := by
  induction text with
  | nil => rfl
  | cons c rest ih =>
      simp only [List.mem_cons, not_or] at absent
      simp [splitAt.splitChars, Ne.symm absent.1, ih absent.2]

theorem splitChars_ne_nil (mark : Char) (text : List Char) :
    splitAt.splitChars mark text ≠ [] := by
  cases text with
  | nil => simp [splitAt.splitChars]
  | cons c rest =>
      rw [splitAt.splitChars]
      split
      · simp
      · split <;> simp

theorem splitChars_append {mark : Char} (first second : List Char) :
    splitAt.splitChars mark (first ++ mark :: second) =
      splitAt.splitChars mark first ++ splitAt.splitChars mark second := by
  induction first with
  | nil => simp [splitAt.splitChars]
  | cons c rest ih =>
      by_cases same : c = mark
      · simp [splitAt.splitChars, same, ih]
      · rw [List.cons_append, splitAt.splitChars, splitAt.splitChars, if_neg same, if_neg same, ih]
        cases pieces : splitAt.splitChars mark rest with
        | nil => exact absurd pieces (splitChars_ne_nil mark rest)
        | cons piece more => rfl

theorem splitChars_concat {mark : Char} {ending : List Char} (absent : mark ∉ ending)
    (text : List Char) : ∃ pieces last,
      splitAt.splitChars mark (text ++ ending) = pieces ++ [last ++ ending] ∧ mark ∉ last := by
  induction text with
  | nil => exact ⟨[], [], splitChars_of_absent absent, by simp⟩
  | cons c rest ih =>
      obtain ⟨pieces, last, split, isSingle⟩ := ih
      rw [List.cons_append, splitAt.splitChars, split]
      by_cases same : c = mark
      · exact ⟨[] :: pieces, last, by simp [same], isSingle⟩
      cases pieces with
      | nil => exact ⟨[], c :: last, by simp [same], by simp [Ne.symm same, isSingle]⟩
      | cons piece pieces => exact ⟨(c :: piece) :: pieces, last, by simp [same], isSingle⟩

theorem splitWhere_of_absent {α : Type} {isMark : α → Bool} {text : List α}
    (absent : ∀ x ∈ text, isMark x = false) : splitWhere isMark text = [text] := by
  induction text with
  | nil => rfl
  | cons x text ih =>
      rw [List.forall_mem_cons] at absent
      simp [splitWhere, absent.1, ih absent.2]

theorem splitWhere_append {α : Type} {isMark : α → Bool} {line : List α}
    (absent : ∀ x ∈ line, isMark x = false) {mark : α} (marks : isMark mark = true)
    (rest : List α) : splitWhere isMark (line ++ mark :: rest) = line :: splitWhere isMark rest := by
  induction line with
  | nil => simp [splitWhere, marks]
  | cons x line ih =>
      rw [List.forall_mem_cons] at absent
      simp [splitWhere, absent.1, ih absent.2]

theorem not_isMark_of_mem_splitWhere {α : Type} {isMark : α → Bool} {text piece : List α}
    (isPiece : piece ∈ splitWhere isMark text) : ∀ x ∈ piece, isMark x = false := by
  induction text generalizing piece with
  | nil => simp_all [splitWhere]
  | cons first rest ih =>
      rw [splitWhere] at isPiece
      split at isPiece
      case isTrue =>
        rcases List.mem_cons.mp isPiece with rfl | isPiece
        · simp
        · exact ih isPiece
      case isFalse unmarked =>
        rw [Bool.not_eq_true] at unmarked
        split at isPiece
        case h_1 => simp_all
        case h_2 next pieces pieced =>
          rw [pieced] at ih
          rcases List.mem_cons.mp isPiece with rfl | isPiece
          · exact List.forall_mem_cons.mpr ⟨unmarked, ih List.mem_cons_self⟩
          · exact ih (List.mem_cons_of_mem _ isPiece)

theorem splitAt_joinWith {pieces : List String} (inner : pieces ≠ [])
    (absent : ∀ piece ∈ pieces, '/' ∉ piece.toList) : splitAt (joinWith "/" pieces) '/' = pieces := by
  rw [splitAt, joinWith, String.toList_intercalate]
  change (splitAt.splitChars '/' (['/'].intercalate _)).map _ = _
  induction pieces with
  | nil => exact absurd rfl inner
  | cons piece rest ih =>
      have single := splitChars_of_absent (absent piece List.mem_cons_self)
      cases rest with
      | nil => simp [single]
      | cons next rest =>
          have more := ih (by simp) fun other member => absent other (List.mem_cons_of_mem _ member)
          rw [List.map_cons] at more ⊢
          rw [List.map_cons, List.intercalate_cons_cons, List.append_assoc, List.singleton_append,
            splitChars_append, single, List.map_append, more]
          simp

theorem withoutEnding_append (text ending : String) :
    withoutEnding (text ++ ending) ending = text := by
  have ends : endsWith (text ++ ending) ending = true := by
    simp [endsWith]
  rw [withoutEnding, if_pos ends, firstChars, String.length_append,
    Nat.add_sub_cancel_right]
  simp [← String.length_toList]

theorem mark_notMem_toDigits {mark : Char} (notDigit : mark.isDigit = false) (number : Nat) :
    mark ∉ Nat.toDigits 10 number := by
  intro member
  rw [Nat.isDigit_of_mem_toDigits (by decide) (by decide) member] at notDigit
  cases notDigit

theorem toDigits_injective {first second : Nat}
    (same : Nat.toDigits 10 first = Nat.toDigits 10 second) : first = second := by
  rw [← Nat.ofDigitChars_ten_toDigits (n := first), same, Nat.ofDigitChars_ten_toDigits]

end ContractLint.Text
