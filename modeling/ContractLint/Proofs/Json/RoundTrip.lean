import Mathlib.Data.List.TakeWhile
import ContractLint.Json.Printer
import ContractLint.Json.Reader

/-! Reading gives back what was written, whatever stands between the parts of a value as long as it
is blank. Left out are numbers with a fraction and objects that have a name twice. -/

namespace ContractLint.Json

/-- Values that their text determines: without fractions, each object with different names. -/
inductive Value.Exact : Value → Prop
  | null : Exact .null
  | bool (value : Bool) : Exact (.bool value)
  | int (value : Int) : Exact (.int value)
  | string (value : String) : Exact (.string value)
  | array {items : List Value} (each : ∀ item ∈ items, item.Exact) : Exact (.array items)
  | object {fields : Fields} (different : (fields.map (·.1)).Nodup)
      (each : ∀ field ∈ fields, field.2.Exact) : Exact (.object fields)

/-- Values that ask for no more than the limits allow. -/
inductive Value.Within : Limits → Value → Prop
  | null {limits : Limits} : Within limits .null
  | bool {limits : Limits} (value : Bool) : Within limits (.bool value)
  | int {limits : Limits} {value : Int}
      (short : ∀ limit ∈ limits.digits, (Nat.toDigits 10 value.natAbs).length ≤ limit) :
      Within limits (.int value)
  | float {limits : Limits} (value : Float) : Within limits (.float value)
  | string {limits : Limits} (value : String) : Within limits (.string value)
  | array {limits inner : Limits} {items : List Value} (deeper : limits.inner? = some inner)
      (each : ∀ item ∈ items, item.Within inner) : Within limits (.array items)
  | object {limits inner : Limits} {fields : Fields} (deeper : limits.inner? = some inner)
      (each : ∀ field ∈ fields, field.2.Within inner) : Within limits (.object fields)

theorem Value.Exact.within_unlimited {value : Value} (exact : value.Exact) : value.Within {} := by
  induction exact with
  | null => exact .null
  | bool value => exact .bool value
  | int value => exact .int (by simp)
  | string value => exact .string value
  | array _ ih => exact .array rfl ih
  | object _ _ ih => exact .object rfl ih

structure Style.Regular (style : Style) : Prop where
  gap : ∀ depth, (style.gap depth).all isSpace = true
  comma : ∃ spaces, style.comma = ',' :: spaces ∧ spaces.all isSpace = true
  colon : ∃ spaces, style.colon = ':' :: spaces ∧ spaces.all isSpace = true

theorem Style.spaced_regular : Style.spaced.Regular :=
  ⟨fun _ => rfl, ⟨[' '], rfl, rfl⟩, ⟨[' '], rfl, rfl⟩⟩

theorem skipSpaces_append {spaces : List Char} (blank : spaces.all isSpace = true)
    (rest : List Char) : skipSpaces (spaces ++ rest) = skipSpaces rest :=
  List.dropWhile_append_of_pos (List.all_eq_true.mp blank)

theorem skipSpaces_cons {c : Char} (inked : isSpace c = false) (rest : List Char) :
    skipSpaces (c :: rest) = c :: rest := by
  rw [skipSpaces, List.dropWhile_cons_of_neg (by simp [inked])]

/-! Strings. -/

theorem hexDigit?_hexDigit {value : Nat} (small : value < 16) :
    Text.hexDigit? (hexDigit value) = some value := by
  have all : ∀ value < 16, Text.hexDigit? (hexDigit value) = some value := by decide
  exact all value small

theorem readUnit_unitEscape {unit : Nat} (small : unit < 65536) (rest : List Char) :
    readUnit ((unitEscape unit).drop 2 ++ rest) = some (unit, rest) := by
  have first := hexDigit?_hexDigit (Nat.mod_lt (unit / 4096) (by decide : 0 < 16))
  have second := hexDigit?_hexDigit (Nat.mod_lt (unit / 256) (by decide : 0 < 16))
  have third := hexDigit?_hexDigit (Nat.mod_lt (unit / 16) (by decide : 0 < 16))
  have fourth := hexDigit?_hexDigit (Nat.mod_lt unit (by decide : 0 < 16))
  simp only [unitEscape, List.drop_succ_cons, List.drop_zero, List.cons_append, List.nil_append,
    readUnit, first, second, third, fourth, Option.bind_eq_bind, Option.bind_some, Option.pure_def,
    Option.some.injEq, Prod.mk.injEq, and_true]
  omega

theorem not_surrogate (c : Char) : (isHighUnit c.toNat || isLowUnit c.toNat) = false := by
  have valid : c.toNat < 0xD800 ∨ 0xDFFF < c.toNat ∧ c.toNat < 0x110000 := c.valid
  simp only [isHighUnit, isLowUnit, Bool.or_eq_false_iff, Bool.and_eq_false_iff,
    decide_eq_false_iff_not, Nat.not_le, Nat.not_lt]
  omega

theorem readUnits_single {c : Char} (small : c.toNat < 0x10000) (rest : List Char) :
    readUnits ((unitEscape c.toNat).drop 2 ++ rest) = some (c, rest) := by
  have single := not_surrogate c
  have notHigh := (Bool.or_eq_false_iff.mp single).1
  have same : charOfUnit c.toNat = c := by
    rw [charOfUnit, single, if_neg Bool.false_ne_true, Char.ofNat_toNat]
  simp only [readUnits, readUnit_unitEscape small, Option.bind_eq_bind, Option.bind_some, notHigh,
    Bool.false_eq_true, if_false, same, Option.pure_def]

theorem readUnits_pair {high low : Nat} (isHigh : isHighUnit high = true)
    (isLow : isLowUnit low = true) (rest : List Char) :
    readUnits ((unitEscape high).drop 2 ++ (unitEscape low ++ rest)) =
      some (Char.ofNat (0x10000 + (high - 0xD800) * 1024 + (low - 0xDC00)), rest) := by
  have highSmall : high < 65536 := by
    simp only [isHighUnit, Bool.and_eq_true, decide_eq_true_eq] at isHigh
    omega
  have lowSmall : low < 65536 := by
    simp only [isLowUnit, Bool.and_eq_true, decide_eq_true_eq] at isLow
    omega
  have second : unitEscape low ++ rest = '\\' :: 'u' :: ((unitEscape low).drop 2 ++ rest) := rfl
  simp only [readUnits, readUnit_unitEscape highSmall, Option.bind_eq_bind, Option.bind_some, isHigh,
    if_true, second, readUnit_unitEscape lowSmall, isLow, Option.pure_def]

theorem readStringFrom_escape {start done : List Char} {fuel : Nat} {mark c : Char}
    (isUnit : mark ≠ 'u') (escape : simpleEscape? mark = some c) (rest : List Char) :
    readStringFrom start (fuel + 1) done ('\\' :: mark :: rest) =
      readStringFrom start fuel (c :: done) rest := by
  rw [readStringFrom]
  · rw [escape]
  · exact isUnit

theorem readStringFrom_units {start done text rest : List Char} {fuel : Nat} {c : Char}
    (units : readUnits text = some (c, rest)) :
    readStringFrom start (fuel + 1) done ('\\' :: 'u' :: text) =
      readStringFrom start fuel (c :: done) rest := by
  simp only [readStringFrom, units]

theorem readStringFrom_plain {start done : List Char} {fuel : Nat} {c : Char} (quote : c ≠ '"')
    (slash : c ≠ '\\') (printed : 32 ≤ c.toNat) (rest : List Char) :
    readStringFrom start (fuel + 1) done (c :: rest) =
      readStringFrom start fuel (c :: done) rest := by
  rw [readStringFrom]
  · rw [if_neg (Nat.not_lt.mpr printed)]
  all_goals simp [quote, slash]

inductive Writes (c : Char) : List Char → Prop
  | escape {mark : Char} (isUnit : mark ≠ 'u') (escaped : simpleEscape? mark = some c) :
      Writes c ['\\', mark]
  | plain (quote : c ≠ '"') (slash : c ≠ '\\') (printed : 32 ≤ c.toNat) : Writes c [c]
  | single (small : c.toNat < 0x10000) : Writes c (unitEscape c.toNat)
  | pair (large : ¬c.toNat < 0x10000) :
      Writes c (unitEscape (0xD800 + (c.toNat - 0x10000) / 1024) ++
        unitEscape (0xDC00 + (c.toNat - 0x10000) % 1024))

theorem writes_ite {condition : Prop} [Decidable condition] {c : Char} {first second : List Char}
    (isFirst : condition → Writes c first) (isSecond : ¬condition → Writes c second) :
    Writes c (if condition then first else second) := by
  split
  · exact isFirst ‹_›
  · exact isSecond ‹_›

theorem charText_writes (c : Char) : Writes c (charText c) := by
  rw [charText]
  refine writes_ite (fun quote => .escape (by decide) (by rw [quote]; rfl)) fun quote => ?_
  refine writes_ite (fun slash => .escape (by decide) (by rw [slash]; rfl)) fun slash => ?_
  refine writes_ite (fun newline => .escape (by decide) (newline ▸ rfl)) fun _ => ?_
  refine writes_ite (fun carriage => .escape (by decide) (carriage ▸ rfl)) fun _ => ?_
  refine writes_ite (fun tab => .escape (by decide) (tab ▸ rfl)) fun _ => ?_
  refine writes_ite (fun back => .escape (by decide) (back ▸ rfl)) fun _ => ?_
  refine writes_ite (fun feed => .escape (by decide) (feed ▸ rfl)) fun _ => ?_
  refine writes_ite (fun printed => .plain quote slash ?_) fun _ => writes_ite .single .pair
  simp only [Bool.and_eq_true, decide_eq_true_eq] at printed
  exact printed.1

theorem readStringFrom_charText (start done : List Char) (fuel : Nat) (c : Char)
    (rest : List Char) : readStringFrom start (fuel + 1) done (charText c ++ rest) =
      readStringFrom start fuel (c :: done) rest := by
  have written := charText_writes c
  generalize charText c = text at written ⊢
  cases written with
  | escape isUnit escaped => exact readStringFrom_escape isUnit escaped rest
  | plain quote slash printed => exact readStringFrom_plain quote slash printed rest
  | single small => exact readStringFrom_units (readUnits_single small rest)
  | pair large =>
      have valid : c.toNat < 0xD800 ∨ 0xDFFF < c.toNat ∧ c.toNat < 0x110000 := c.valid
      have isHigh : isHighUnit (0xD800 + (c.toNat - 0x10000) / 1024) = true := by
        simp only [isHighUnit, Bool.and_eq_true, decide_eq_true_eq]
        omega
      have isLow : isLowUnit (0xDC00 + (c.toNat - 0x10000) % 1024) = true := by
        simp only [isLowUnit, Bool.and_eq_true, decide_eq_true_eq]
        omega
      have code : 0x10000 + (0xD800 + (c.toNat - 0x10000) / 1024 - 0xD800) * 1024 +
          (0xDC00 + (c.toNat - 0x10000) % 1024 - 0xDC00) = c.toNat := by omega
      have units := readUnits_pair isHigh isLow rest
      rw [code, Char.ofNat_toNat] at units
      rw [List.append_assoc]
      exact readStringFrom_units units

theorem readStringFrom_chars (start done : List Char) (fuel : Nat) (text rest : List Char)
    (enough : text.length < fuel) :
    readStringFrom start fuel done (text.flatMap charText ++ '"' :: rest) =
      .ok (String.ofList (done.reverse ++ text), rest) := by
  induction text generalizing done fuel with
  | nil =>
      obtain ⟨fuel, rfl⟩ := Nat.exists_eq_succ_of_ne_zero (Nat.ne_of_gt enough)
      simp [readStringFrom]
  | cons c text ih =>
      obtain ⟨fuel, rfl⟩ := Nat.exists_eq_succ_of_ne_zero (Nat.ne_of_gt (Nat.zero_lt_of_lt enough))
      rw [List.flatMap_cons, List.append_assoc, readStringFrom_charText,
        ih _ _ (by simpa using enough)]
      simp

theorem charText_length_pos (c : Char) : 0 < (charText c).length := by
  have written := charText_writes c
  generalize charText c = text at written ⊢
  cases written <;> simp [unitEscape]

theorem length_stringText (text : String) : text.length + 2 ≤ (stringText text).length := by
  have each : text.toList.length ≤ (text.toList.flatMap charText).length := by
    induction text.toList with
    | nil => simp
    | cons c rest ih =>
        have := charText_length_pos c
        simp only [List.flatMap_cons, List.length_append, List.length_cons]
        omega
  simp only [stringText, List.length_cons, List.length_append, List.length_nil]
  rw [String.length_toList] at each
  omega

theorem readString_stringText {text : String} {fuel : Nat} (enough : text.length < fuel)
    (rest : List Char) :
    readString fuel ((stringText text).tail ++ rest) = .ok (text, rest) := by
  have read := readStringFrom_chars ((stringText text).tail ++ rest) [] fuel text.toList rest
    (by rwa [String.length_toList])
  simpa [readString, stringText] using read

/-! Numbers. -/

def Follows (rest : List Char) : Prop :=
  ∀ c, rest.head? = some c → c.isDigit = false ∧ c ≠ '.' ∧ c ≠ 'e' ∧ c ≠ 'E'

theorem natOfDigits_toDigits (value : Nat) : natOfDigits (Nat.toDigits 10 value) = value := by
  have read := Nat.ofDigitChars_ten_toDigits (n := value)
  rw [Nat.ofDigitChars_eq_foldl] at read
  simpa only [natOfDigits, Nat.mul_comm] using read

theorem toDigits_isDigit (value : Nat) : ∀ c ∈ Nat.toDigits 10 value, c.isDigit = true :=
  fun _ => Nat.isDigit_of_mem_toDigits (by decide) (by decide)

theorem head?_toDigits_append (value : Nat) (rest : List Char) :
    (Nat.toDigits 10 value ++ rest).head? = (Nat.toDigits 10 value).head? := by
  rw [List.head?_append, Option.or_of_isSome (by simp [Nat.toDigits_ne_nil])]

theorem toDigits_head {value : Nat} (positive : 0 < value) :
    (Nat.toDigits 10 value).head? ≠ some '0' := by
  induction value using Nat.strongRecOn with
  | _ value ih =>
      by_cases single : value < 10
      · rw [Nat.toDigits_of_lt_base single]
        have all : ∀ value < 10, 0 < value → [Nat.digitChar value].head? ≠ some '0' := by decide
        exact all value single positive
      · rw [Nat.toDigits_of_base_le (by decide) (Nat.le_of_not_lt single), head?_toDigits_append]
        exact ih _ (by omega) (by omega)

theorem readFraction_of_follows {rest : List Char} (follows : Follows rest) :
    readFraction rest = ([], rest) := by
  cases rest with
  | nil => rfl
  | cons c more =>
      have point := (follows c rfl).2.1
      rw [readFraction]
      simp [point]

theorem readExponent_of_follows {rest : List Char} (follows : Follows rest) :
    readExponent rest = (none, rest) := by
  cases rest with
  | nil => rfl
  | cons c more =>
      obtain ⟨_, _, lower, upper⟩ := follows c rfl
      simp [readExponent, lower, upper]

theorem takeWhile_isDigit {digits rest : List Char} (all : ∀ c ∈ digits, c.isDigit = true)
    (follows : Follows rest) : (digits ++ rest).takeWhile Char.isDigit = digits := by
  have nothing : rest.takeWhile Char.isDigit = [] := by
    cases rest with
    | nil => rfl
    | cons c more => rw [List.takeWhile_cons_of_neg (by simp [(follows c rfl).1])]
  rw [List.takeWhile_append_of_pos all, nothing, List.append_nil]

theorem wholeDigits_toDigits (value : Nat) {rest : List Char} (follows : Follows rest) :
    wholeDigits (Nat.toDigits 10 value ++ rest) = Nat.toDigits 10 value := by
  rcases Nat.eq_zero_or_pos value with rfl | positive
  · rfl
  · rw [wholeDigits, takeWhile_isDigit (toDigits_isDigit value) follows]
    rintro more starts
    refine toDigits_head positive ?_
    rw [← head?_toDigits_append, starts, List.head?_cons]

theorem readNumber_toDigits (isNegative : Bool) (value : Nat) {rest : List Char}
    (follows : Follows rest) : readNumber isNegative (Nat.toDigits 10 value ++ rest) =
      some (.int (if isNegative then -Int.ofNat value else Int.ofNat value), rest) := by
  have inner : (Nat.toDigits 10 value).isEmpty = false := by simp [Nat.toDigits_ne_nil]
  simp only [readNumber, wholeDigits_toDigits value follows, inner, Bool.false_eq_true, if_false,
    List.drop_left, readFraction_of_follows follows, readExponent_of_follows follows,
    List.append_nil, natOfDigits_toDigits, List.isEmpty_nil, Option.isNone_none, Bool.and_self,
    if_true]

/-! Values. -/

def Starts (c : Char) : Prop := isSpace c = false ∧ c ≠ ']' ∧ c ≠ '\ufeff'

instance (c : Char) : Decidable (Starts c) := inferInstanceAs (Decidable (_ ∧ _))

theorem intText_head (value : Int) :
    ∃ c more, intText value = c :: more ∧ (c.isDigit = true ∨ c = '-') := by
  cases value with
  | ofNat value =>
      obtain ⟨c, more, written⟩ := List.exists_cons_of_ne_nil
        (Nat.toDigits_ne_nil (b := 10) (n := value))
      exact ⟨c, more, written, .inl (toDigits_isDigit value c (by simp [written]))⟩
  | negSucc value => exact ⟨'-', _, rfl, .inr rfl⟩

theorem ne_of_digit_or_sign {c : Char} (head : c.isDigit = true ∨ c = '-') (other : Char)
    (apart : other.isDigit = false ∧ other ≠ '-') : c ≠ other := by
  rintro rfl
  rcases head with isDigit | rfl
  · rw [isDigit] at apart
    cases apart.1
  · exact apart.2 rfl

theorem intText_starts (value : Int) : ∃ c more, intText value = c :: more ∧ Starts c := by
  obtain ⟨c, more, text, head⟩ := intText_head value
  have different := ne_of_digit_or_sign head
  refine ⟨c, more, text, ?_, different ']' (by decide), different '\ufeff' (by decide)⟩
  simp [isSpace, different ' ', different '\t', different '\n', different '\r']

theorem Value.Exact.starts {value : Value} (exact : value.Exact) (style : Style) (depth : Nat) :
    ∃ c more, value.chars style depth = c :: more ∧ Starts c := by
  cases exact with
  | null => exact ⟨'n', _, rfl, by decide⟩
  | bool value => cases value <;> exact ⟨_, _, rfl, by decide⟩
  | int value =>
      rw [Value.chars]
      exact intText_starts value
  | string value => exact ⟨'"', _, rfl, by decide⟩
  | @array items each =>
      cases items with
      | nil => exact ⟨'[', _, rfl, by decide⟩
      | cons item items => exact ⟨'[', _, rfl, by decide⟩
  | @object fields different each =>
      cases fields with
      | nil => exact ⟨'\x7b', _, rfl, by decide⟩
      | cons field fields => exact ⟨'\x7b', _, rfl, by decide⟩

theorem readWord_of_isDigit {c : Char} (digit : c.isDigit = true) (more : List Char) :
    readWord (c :: more) = none := by
  have different (letter : Char) (isLetter : letter.isDigit = false) : letter ≠ c := by
    rintro rfl
    rw [digit] at isLetter
    cases isLetter
  simp [readWord, wordValues, different 'n', different 't', different 'f', different 'N',
    different 'I', different '-']

theorem readWord_of_negative {c : Char} (digit : c.isDigit = true) (more : List Char) :
    readWord ('-' :: c :: more) = none := by
  have different : 'I' ≠ c := by
    rintro rfl
    cases digit
  simp [readWord, wordValues, different]

theorem Limits.take_int {limits : Limits} {value : Int} (within : (Value.int value).Within limits)
    (text rest : List Char) : limits.take text (.int value, rest) = .ok (.int value, rest) := by
  cases within with
  | int short =>
      cases bound : limits.digits with
      | none => simp only [take, bound]
      | some limit =>
          have fits := short limit bound
          simp only [take, bound, if_neg (Nat.not_lt.mpr fits)]

theorem readScalar_intText {limits : Limits} {value : Int}
    (within : (Value.int value).Within limits) {rest : List Char} (follows : Follows rest) :
    readScalar limits (intText value ++ rest) = .ok (.int value, rest) := by
  have taken (text : List Char) := Limits.take_int within text rest
  cases value with
  | ofNat value =>
      have number := readNumber_toDigits false value follows
      obtain ⟨c, more, written⟩ := List.exists_cons_of_ne_nil
        (Nat.toDigits_ne_nil (b := 10) (n := value))
      have digit := toDigits_isDigit value c (by simp [written])
      have signed : readSigned (c :: (more ++ rest)) = readNumber false (c :: (more ++ rest)) := by
        rw [readSigned]
        rintro _ same
        cases same
        cases digit
      rw [written, List.cons_append] at number
      simp only [intText, written, List.cons_append, readScalar, readWord_of_isDigit digit,
        Option.none_or, signed, number, Bool.false_eq_true, if_false, taken]
  | negSucc value =>
      have number := readNumber_toDigits true (value + 1) follows
      obtain ⟨c, more, written⟩ := List.exists_cons_of_ne_nil
        (Nat.toDigits_ne_nil (b := 10) (n := value + 1))
      have digit := toDigits_isDigit (value + 1) c (by simp [written])
      rw [written, List.cons_append] at number
      simp only [intText, written, List.cons_append, readScalar, readWord_of_negative digit,
        Option.none_or, readSigned, number, if_true]
      exact taken _

theorem readScalar_word {limits : Limits} (word : List Char) {value : Value} {rest : List Char}
    (read : readWord (word ++ rest) = some (value, rest))
    (taken : limits.take (word ++ rest) (value, rest) = .ok (value, rest)) :
    readScalar limits (word ++ rest) = .ok (value, rest) := by
  rw [readScalar, read, Option.some_or]
  exact taken

def ReadsBack (limits : Limits) (style : Style) (value : Value) : Prop :=
  ∀ depth fuel rest, (value.chars style depth).length ≤ fuel → Follows rest →
    readValue limits fuel (value.chars style depth ++ rest) = .ok (value, rest)

theorem follows_cons {c : Char} (apart : c.isDigit = false ∧ c ≠ '.' ∧ c ≠ 'e' ∧ c ≠ 'E')
    (more : List Char) : Follows (c :: more) := by
  rintro other same
  cases same
  exact apart

theorem follows_append {spaces rest : List Char} (blank : spaces.all isSpace = true)
    (follows : Follows rest) : Follows (spaces ++ rest) := by
  cases spaces with
  | nil => exact follows
  | cons c more =>
      simp only [List.all_cons, isSpace, Bool.and_eq_true, Bool.or_eq_true, decide_eq_true_eq] at blank
      rcases blank.1 with ((rfl | rfl) | rfl) | rfl <;> exact follows_cons (by decide) _

section

variable {limits inner : Limits} {style : Style} {depth fuel : Nat} {rest : List Char}

theorem skipSpaces_value {value : Value} (exact : value.Exact) :
    skipSpaces (value.chars style depth ++ rest) = value.chars style depth ++ rest := by
  obtain ⟨c, more, text, starts⟩ := exact.starts style depth
  rw [text, List.cons_append, skipSpaces_cons starts.1]

theorem skipSpaces_closing {closing : Char} (regular : style.Regular)
    (inked : isSpace closing = false) :
    skipSpaces (style.gap depth ++ closing :: rest) = closing :: rest := by
  rw [skipSpaces_append (regular.gap depth), skipSpaces_cons inked]

theorem readItems_chars (regular : style.Regular) (depth above : Nat) (rest : List Char)
    {items : List Value}
    (each : ∀ item ∈ items, item.Exact ∧ ReadsBack limits style item) {item : Value}
    (reads : ReadsBack limits style item) {done : List Value}
    (enough : (item.chars style depth).length + (itemsChars style depth items).length < fuel) :
    readItems limits fuel done (item.chars style depth ++
        (itemsChars style depth items ++ (style.gap above ++ ']' :: rest))) =
      .ok (.array (done.reverse ++ item :: items), rest) := by
  induction items generalizing item done fuel with
  | nil =>
      obtain ⟨fuel, rfl⟩ := Nat.exists_eq_succ_of_ne_zero (Nat.ne_zero_of_lt enough)
      have first := reads depth fuel (style.gap above ++ ']' :: rest) (by omega)
        (follows_append (regular.gap above) (follows_cons (by decide) _))
      simp only [itemsChars, List.nil_append, readItems, first, bind, Except.bind,
        skipSpaces_closing regular (show isSpace ']' = false from rfl)]
      simp [pure, Except.pure]
  | cons next items ih =>
      obtain ⟨fuel, rfl⟩ := Nat.exists_eq_succ_of_ne_zero (Nat.ne_zero_of_lt enough)
      obtain ⟨spaces, comma, blank⟩ := regular.comma
      simp only [itemsChars, comma, List.cons_append, List.length_cons, List.length_append]
        at enough
      obtain ⟨exactNext, readsNext⟩ := each next List.mem_cons_self
      have first := reads depth fuel (',' :: (spaces ++ (style.gap depth ++
        (next.chars style depth ++ (itemsChars style depth items ++
          (style.gap above ++ ']' :: rest)))))) (by omega) (follows_cons (by decide) _)
      have more : readItems limits fuel (item :: done) _ = _ :=
        ih (fun other member => each other (List.mem_cons_of_mem _ member)) readsNext (by omega)
      simp only [itemsChars, comma, List.cons_append, List.append_assoc, readItems, first, bind,
        Except.bind, skipSpaces_cons (show isSpace ',' = false from rfl), skipSpaces_append blank,
        skipSpaces_append (regular.gap depth), skipSpaces_value exactNext, more]
      simp

theorem Fields.set_of_notMem {fields : Fields} {name : String} (absent : name ∉ fields.map (·.1))
    (value : Value) : Fields.set fields name value = fields ++ [(name, value)] := by
  have none : fields.any (·.1 = name) = false := by
    rw [List.any_eq_false]
    rintro field member same
    exact absent (List.mem_map.mpr ⟨field, member, by simpa using same⟩)
  rw [Fields.set, none, if_neg Bool.false_ne_true]

theorem Fields.notMem_of_nodup {done fields : Fields} {name : String} {value : Value}
    (different : ((done ++ (name, value) :: fields).map (·.1)).Nodup) :
    name ∉ done.map (·.1) := by
  rw [List.map_append, List.map_cons, List.nodup_append] at different
  exact fun member => different.2.2 name member name List.mem_cons_self rfl

theorem readFields_step (regular : style.Regular) {name : String} {value : Value}
    (exact : value.Exact) (reads : ReadsBack limits style value) {done : Fields} {rest more : List Char}
    (follows : Follows rest)
    (enough : (stringText name).length + (value.chars style depth).length ≤ fuel) :
    (skipSpaces rest = '\x7d' :: more → readFields limits (fuel + 1) done
        (stringText name ++ (style.colon ++ (value.chars style depth ++ rest))) =
      .ok (.object (Fields.set done name value), more)) ∧
    ∀ next, skipSpaces rest = ',' :: more → skipSpaces more = '"' :: next →
      readFields limits (fuel + 1) done
        (stringText name ++ (style.colon ++ (value.chars style depth ++ rest))) =
      readFields limits fuel (Fields.set done name value) ('"' :: next) := by
  obtain ⟨spaces, colon, blank⟩ := regular.colon
  have long := length_stringText name
  have word : readString fuel ((stringText name).tail ++ (':' :: (spaces ++
      (value.chars style depth ++ rest)))) = .ok (name, ':' :: (spaces ++
      (value.chars style depth ++ rest))) := readString_stringText (by omega) _
  have found := reads depth fuel rest (by omega) follows
  have opening : stringText name = '"' :: (stringText name).tail := rfl
  rw [opening, colon, List.cons_append, List.cons_append, readFields]
  simp only [word, bind, Except.bind, skipSpaces_cons (show isSpace ':' = false from rfl),
    skipSpaces_append blank, skipSpaces_value exact, found]
  constructor
  · intro closing
    rw [closing]
    rfl
  · intro next comma quote
    simp only [comma, quote]

theorem readFields_chars (regular : style.Regular) (depth above : Nat) (rest : List Char)
    {fields : Fields}
    (each : ∀ field ∈ fields, field.2.Exact ∧ ReadsBack limits style field.2) {name : String}
    {value : Value} (exact : value.Exact) (reads : ReadsBack limits style value) {done : Fields}
    (different : ((done ++ (name, value) :: fields).map (·.1)).Nodup)
    (enough : (stringText name).length + (value.chars style depth).length +
      (fieldsChars style depth fields).length < fuel) :
    readFields limits fuel done (stringText name ++ (style.colon ++ (value.chars style depth ++
        (fieldsChars style depth fields ++ (style.gap above ++ '\x7d' :: rest))))) =
      .ok (.object (done ++ (name, value) :: fields), rest) := by
  induction fields generalizing name value done fuel with
  | nil =>
      obtain ⟨fuel, rfl⟩ := Nat.exists_eq_succ_of_ne_zero (Nat.ne_zero_of_lt enough)
      have set := Fields.set_of_notMem (Fields.notMem_of_nodup different) value
      rw [fieldsChars, List.nil_append, ← set]
      refine (readFields_step regular exact reads ?_ (by omega)).1 ?_
      · exact follows_append (regular.gap above) (follows_cons (by decide) _)
      · exact skipSpaces_closing regular rfl
  | cons field fields ih =>
      obtain ⟨fuel, rfl⟩ := Nat.exists_eq_succ_of_ne_zero (Nat.ne_zero_of_lt enough)
      have set := Fields.set_of_notMem (Fields.notMem_of_nodup different) value
      obtain ⟨spaces, comma, blank⟩ := regular.comma
      obtain ⟨exactNext, readsNext⟩ := each field List.mem_cons_self
      simp only [fieldsChars, comma, List.cons_append, List.length_cons, List.length_append]
        at enough
      have more : readFields limits fuel (done ++ [(name, value)]) _ = _ :=
        ih (fun other member => each other (List.mem_cons_of_mem _ member)) exactNext readsNext
          (by simpa using different) (by omega)
      have skipped (text : List Char) : skipSpaces (spaces ++ (style.gap depth ++
          (stringText field.1 ++ text))) = '"' :: ((stringText field.1).tail ++ text) := by
        rw [skipSpaces_append blank, skipSpaces_append (regular.gap depth)]
        exact skipSpaces_cons rfl _
      have step (text : List Char) : readFields limits (fuel + 1) done (stringText name ++ (style.colon ++
          (value.chars style depth ++ ',' :: (spaces ++ (style.gap depth ++
            (stringText field.1 ++ text)))))) =
          readFields limits fuel (Fields.set done name value) (stringText field.1 ++ text) :=
        (readFields_step regular exact reads (follows_cons (by decide) _) (by omega)).2 _
          (skipSpaces_cons rfl _) (skipped text)
      simp only [fieldsChars, comma, List.cons_append, List.append_assoc]
      rw [step, set]
      exact more.trans (by simp)

theorem readValue_scalar {c : Char} (quote : c ≠ '"') (bracket : c ≠ '[') (brace : c ≠ '\x7b')
    (more : List Char) :
    readValue limits (fuel + 1) (c :: more) = readScalar limits (c :: more) := by
  rw [readValue]
  all_goals simp [quote, bracket, brace]

theorem readValue_items (deeper : limits.inner? = some inner) {text more : List Char} {c : Char}
    (skipped : skipSpaces text = c :: more) (isItem : c ≠ ']') :
    readValue limits (fuel + 1) ('[' :: text) = readItems inner fuel [] (c :: more) := by
  simp only [readValue, deeper, skipped]
  split
  · simp_all
  · rfl

theorem readValue_fields (deeper : limits.inner? = some inner) {text more : List Char}
    (skipped : skipSpaces text = '"' :: more) :
    readValue limits (fuel + 1) ('\x7b' :: text) = readFields inner fuel [] ('"' :: more) := by
  simp only [readValue, deeper, skipped]
  rfl

theorem readsBack_of_scalar {value : Value} {c : Char} {more : List Char}
    (text : ∀ depth, value.chars style depth = c :: more) (quote : c ≠ '"') (bracket : c ≠ '[')
    (brace : c ≠ '\x7b')
    (scalar : ∀ rest, Follows rest → readScalar limits (c :: more ++ rest) = .ok (value, rest)) :
    ReadsBack limits style value := by
  intro depth fuel rest enough follows
  rw [text] at enough ⊢
  obtain ⟨fuel, rfl⟩ := Nat.exists_eq_succ_of_ne_zero (Nat.ne_zero_of_lt enough)
  exact (readValue_scalar quote bracket brace _).trans (scalar rest follows)

theorem readsBack_array (regular : style.Regular) (deeper : limits.inner? = some inner)
    {items : List Value} (each : ∀ item ∈ items, item.Exact ∧ ReadsBack inner style item) :
    ReadsBack limits style (.array items) := by
  intro depth fuel rest enough _
  cases items with
  | nil =>
      obtain ⟨fuel, rfl⟩ := Nat.exists_eq_succ_of_ne_zero (Nat.ne_zero_of_lt enough)
      simp only [Value.chars, List.cons_append, List.nil_append, readValue, deeper]
      rfl
  | cons item items =>
      obtain ⟨⟨exact, reads⟩, others⟩ := List.forall_mem_cons.mp each
      obtain ⟨c, more, text, starts⟩ := exact.starts style (depth + 1)
      simp only [Value.chars, List.length_cons, List.length_append, List.length_nil] at enough
      obtain ⟨fuel, rfl⟩ := Nat.exists_eq_succ_of_ne_zero (Nat.ne_zero_of_lt enough)
      have read : readItems inner fuel [] _ = _ := readItems_chars regular (depth + 1) depth rest
        others reads (by omega)
      simp only [Value.chars, List.cons_append, List.append_assoc, List.nil_append]
      rw [readValue_items deeper _ starts.2.1]
      · rw [← List.cons_append, ← text, read]
        rfl
      · rw [skipSpaces_append (regular.gap _), text, List.cons_append, skipSpaces_cons starts.1]

theorem readsBack_object (regular : style.Regular) {fields : Fields}
    (deeper : limits.inner? = some inner) (different : (fields.map (·.1)).Nodup)
    (each : ∀ field ∈ fields, field.2.Exact ∧ ReadsBack inner style field.2) :
    ReadsBack limits style (.object fields) := by
  intro depth fuel rest enough _
  cases fields with
  | nil =>
      obtain ⟨fuel, rfl⟩ := Nat.exists_eq_succ_of_ne_zero (Nat.ne_zero_of_lt enough)
      simp only [Value.chars, List.cons_append, List.nil_append, readValue, deeper]
      rfl
  | cons field fields =>
      obtain ⟨⟨exact, reads⟩, others⟩ := List.forall_mem_cons.mp each
      simp only [Value.chars, List.length_cons, List.length_append, List.length_nil] at enough
      obtain ⟨fuel, rfl⟩ := Nat.exists_eq_succ_of_ne_zero (Nat.ne_zero_of_lt enough)
      have read : readFields inner fuel [] _ = _ := readFields_chars regular (depth + 1) depth rest
        others exact reads different (by omega)
      simp only [Value.chars, List.cons_append, List.append_assoc, List.nil_append]
      rw [readValue_fields deeper]
      · exact read
      · rw [skipSpaces_append (regular.gap _)]
        exact skipSpaces_cons rfl _

theorem Value.Exact.readsBack (regular : style.Regular) {value : Value} (exact : value.Exact)
    (within : value.Within limits) : ReadsBack limits style value := by
  induction exact generalizing limits with
  | null =>
      exact readsBack_of_scalar (fun _ => rfl) (by decide) (by decide) (by decide)
        fun rest _ => readScalar_word "null".toList rfl rfl
  | bool value =>
      cases value with
      | false =>
          exact readsBack_of_scalar (fun _ => rfl) (by decide) (by decide) (by decide)
            fun rest _ => readScalar_word "false".toList rfl rfl
      | true =>
          exact readsBack_of_scalar (fun _ => rfl) (by decide) (by decide) (by decide)
            fun rest _ => readScalar_word "true".toList rfl rfl
  | int value =>
      obtain ⟨c, more, text, head⟩ := intText_head value
      have different := ne_of_digit_or_sign head
      have written : ∀ depth, (Value.int value).chars style depth = c :: more := fun _ => by
        rw [Value.chars, text]
      refine readsBack_of_scalar written (different _ (by decide)) (different _ (by decide))
        (different _ (by decide)) fun rest follows => ?_
      rw [← text, readScalar_intText within follows]
  | string value =>
      intro depth fuel rest enough _
      have long := length_stringText value
      rw [Value.chars] at enough ⊢
      obtain ⟨fuel, rfl⟩ := Nat.exists_eq_succ_of_ne_zero (show fuel ≠ 0 by omega)
      have opening : stringText value = '"' :: (stringText value).tail := rfl
      rw [opening, List.cons_append, readValue, readString_stringText (by omega)]
      rfl
  | array each ih =>
      cases within with
      | array deeper inside =>
          exact readsBack_array regular deeper fun item member =>
            ⟨each item member, ih item member (inside item member)⟩
  | object different each ih =>
      cases within with
      | object deeper inside =>
          exact readsBack_object regular deeper different fun field member =>
            ⟨each field member, ih field member (inside field member)⟩

end

theorem readWithin_render {limits : Limits} {style : Style} (regular : style.Regular)
    {value : Value} (exact : value.Exact) (within : value.Within limits) :
    readWithin limits (value.render style) = .ok value := by
  obtain ⟨c, more, text, blank, _, mark⟩ := exact.starts style 0
  have reads := exact.readsBack regular within 0 (2 * (value.chars style 0).length + 2) []
    (by omega) (by simp [Follows])
  rw [List.append_nil] at reads
  have skipped : skipSpaces (value.chars style 0) = value.chars style 0 := by
    rw [text, skipSpaces_cons blank]
  simp only [readWithin, Value.render, String.toList_ofList]
  split
  case h_1 marked =>
    rw [text] at marked
    exact absurd (List.cons.inj marked).1 mark
  case h_2 =>
    rw [skipped, reads]
    rfl

theorem read_render {style : Style} (regular : style.Regular) {value : Value}
    (exact : value.Exact) : read (value.render style) = .ok value :=
  readWithin_render regular exact exact.within_unlimited

/-! Limits only refuse: what is read within them is read without them as well. -/

theorem Limits.take_unlimited (text : List Char) (outcome : Value × List Char) :
    ({} : Limits).take text outcome = .ok outcome := by
  rcases outcome with ⟨value, rest⟩
  cases value <;> rfl

theorem Limits.eq_of_take {limits : Limits} {text : List Char} {outcome result : Value × List Char}
    (taken : limits.take text outcome = .ok result) : outcome = result := by
  rw [take] at taken
  split at taken
  · dsimp only at taken
    split at taken
    · cases taken
    · exact Except.ok.inj taken
  · exact Except.ok.inj taken

theorem readScalar_unlimited {limits : Limits} {text : List Char} {outcome : Value × List Char}
    (isRead : readScalar limits text = .ok outcome) : readScalar {} text = .ok outcome := by
  rw [readScalar] at isRead ⊢
  cases found : (readWord text).or (readSigned text) with
  | none =>
      rw [found] at isRead
      cases isRead
  | some result =>
      rw [found] at isRead
      rw [← Limits.eq_of_take isRead]
      exact Limits.take_unlimited text result

structure Unlimited (fuel : Nat) : Prop where
  value : ∀ {limits text outcome}, readValue limits fuel text = .ok outcome →
    readValue {} fuel text = .ok outcome
  items : ∀ {limits done text outcome}, readItems limits fuel done text = .ok outcome →
    readItems {} fuel done text = .ok outcome
  fields : ∀ {limits done text outcome}, readFields limits fuel done text = .ok outcome →
    readFields {} fuel done text = .ok outcome

section

variable {limits : Limits} {fuel : Nat} {text : List Char} {outcome : Value × List Char}

theorem Unlimited.readValue (unlimited : Unlimited fuel)
    (isRead : readValue limits (fuel + 1) text = .ok outcome) :
    Json.readValue {} (fuel + 1) text = .ok outcome := by
  have deepest : ({} : Limits).inner? = some {} := rfl
  unfold Json.readValue at isRead ⊢
  split at isRead
  · exact isRead
  · rw [deepest]
    cases deeper : limits.inner? with
    | none =>
        rw [deeper] at isRead
        cases isRead
    | some inner =>
        rw [deeper] at isRead
        dsimp only at isRead ⊢
        split at isRead
        · exact isRead
        · exact unlimited.items isRead
  · rw [deepest]
    cases deeper : limits.inner? with
    | none =>
        rw [deeper] at isRead
        cases isRead
    | some inner =>
        rw [deeper] at isRead
        dsimp only at isRead ⊢
        split at isRead
        · exact isRead
        · exact unlimited.fields isRead
  · exact readScalar_unlimited isRead

theorem Unlimited.readItems (unlimited : Unlimited fuel) {done : List Value}
    (isRead : readItems limits (fuel + 1) done text = .ok outcome) :
    Json.readItems {} (fuel + 1) done text = .ok outcome := by
  rw [Json.readItems] at isRead ⊢
  cases first : Json.readValue limits fuel text with
  | error failure =>
      rw [first] at isRead
      cases isRead
  | ok found =>
      rw [first] at isRead
      rw [unlimited.value first]
      dsimp only [bind, Except.bind] at isRead ⊢
      split at isRead
      · exact unlimited.items isRead
      · exact isRead
      · cases isRead

theorem Unlimited.readFields (unlimited : Unlimited fuel) {done : Fields}
    (isRead : readFields limits (fuel + 1) done text = .ok outcome) :
    Json.readFields {} (fuel + 1) done text = .ok outcome := by
  unfold Json.readFields at isRead ⊢
  split at isRead
  · cases named : readString fuel _ with
    | error failure =>
        rw [named] at isRead
        cases isRead
    | ok name =>
        rw [named] at isRead
        dsimp only [bind, Except.bind] at isRead ⊢
        split at isRead
        · cases first : Json.readValue limits fuel _ with
          | error failure =>
              rw [first] at isRead
              cases isRead
          | ok found =>
              rw [first] at isRead
              rw [unlimited.value first]
              dsimp only at isRead ⊢
              split at isRead
              · split at isRead
                · exact unlimited.fields isRead
                · cases isRead
              · exact isRead
              · cases isRead
        · cases isRead
  · cases isRead

end

theorem Unlimited.all (fuel : Nat) : Unlimited fuel := by
  induction fuel with
  | zero =>
      refine ⟨fun isRead => ?_, fun isRead => ?_, fun isRead => ?_⟩
      · rw [Json.readValue] at isRead
        cases isRead
      · rw [Json.readItems] at isRead
        cases isRead
      · rw [Json.readFields] at isRead
        cases isRead
  | succ fuel unlimited => exact ⟨unlimited.readValue, unlimited.readItems, unlimited.readFields⟩

theorem read_of_readWithin {limits : Limits} {text : String} {value : Value}
    (isRead : readWithin limits text = .ok value) : read text = .ok value := by
  rw [read]
  unfold readWithin at isRead ⊢
  dsimp only at isRead ⊢
  split at isRead
  · cases isRead
  · cases first : readValue limits _ _ with
    | error failure =>
        rw [first] at isRead
        cases isRead
    | ok found =>
        rw [first] at isRead
        rw [(Unlimited.all _).value first]
        exact isRead

/-! Characters. -/

def IsPrinted (c : Char) : Prop := 32 ≤ c.toNat ∧ c.toNat < 127

instance (c : Char) : Decidable (IsPrinted c) := inferInstanceAs (Decidable (_ ∧ _))

theorem isPrinted_of_all {text : List Char}
    (all : (text.all fun c => decide (IsPrinted c)) = true) : ∀ c ∈ text, IsPrinted c :=
  fun c member => of_decide_eq_true (List.all_eq_true.mp all c member)

theorem hexDigit_isPrinted {value : Nat} (small : value < 16) : IsPrinted (hexDigit value) := by
  have all : ∀ value < 16, IsPrinted (hexDigit value) := by decide
  exact all value small

theorem unitEscape_isPrinted (unit : Nat) : ∀ c ∈ unitEscape unit, IsPrinted c := by
  have digit (value : Nat) : IsPrinted (hexDigit (value % 16)) :=
    hexDigit_isPrinted (Nat.mod_lt _ (by decide))
  simp only [unitEscape, List.forall_mem_cons, List.not_mem_nil, false_imp_iff, implies_true,
    and_true]
  exact ⟨by decide, by decide, digit _, digit _, digit _, digit _⟩

theorem charText_isPrinted (c : Char) : ∀ d ∈ charText c, IsPrinted d := by
  have simple (mark : Char) (isPrinted : IsPrinted mark) : ∀ d ∈ ['\\', mark], IsPrinted d := by
    simp only [List.forall_mem_cons, List.not_mem_nil, false_imp_iff, implies_true, and_true]
    exact ⟨by decide, isPrinted⟩
  rw [charText]
  split_ifs with quote slash newline carriage tab back feed printed small
  · exact simple _ (by decide)
  · exact simple _ (by decide)
  · exact simple _ (by decide)
  · exact simple _ (by decide)
  · exact simple _ (by decide)
  · exact simple _ (by decide)
  · exact simple _ (by decide)
  · simpa [IsPrinted] using printed
  · exact unitEscape_isPrinted _
  · rw [List.forall_mem_append]
    exact ⟨unitEscape_isPrinted _, unitEscape_isPrinted _⟩

theorem stringText_isPrinted (text : String) : ∀ c ∈ stringText text, IsPrinted c := by
  intro c member
  simp only [stringText, List.cons_append, List.mem_cons, List.mem_append, List.mem_flatMap,
    List.not_mem_nil, or_false] at member
  rcases member with rfl | ⟨d, _, isPart⟩ | rfl
  · decide
  · exact charText_isPrinted d c isPart
  · decide

theorem intText_isPrinted (value : Int) : ∀ c ∈ intText value, IsPrinted c := by
  have digit (value : Nat) : ∀ c ∈ Nat.toDigits 10 value, IsPrinted c := by
    intro c member
    have isDigit := toDigits_isDigit value c member
    simp only [Char.isDigit, ge_iff_le, Bool.and_eq_true, decide_eq_true_eq] at isDigit
    have low : 48 ≤ c.toNat := isDigit.1
    have high : c.toNat ≤ 57 := isDigit.2
    exact ⟨by omega, by omega⟩
  cases value with
  | ofNat value => exact digit value
  | negSucc value =>
      rw [intText, List.forall_mem_cons]
      exact ⟨by decide, digit _⟩

section

variable {allowed : Char → Prop} {style : Style} (printed : ∀ c, IsPrinted c → allowed c)
  (gap : ∀ depth, ∀ c ∈ style.gap depth, allowed c) (comma : ∀ c ∈ style.comma, allowed c)
  (colon : ∀ c ∈ style.colon, allowed c)

include gap comma in
theorem itemsChars_allowed {items : List Value} {depth : Nat}
    (each : ∀ item ∈ items, ∀ c ∈ item.chars style depth, allowed c) :
    ∀ c ∈ itemsChars style depth items, allowed c := by
  induction items with
  | nil => simp [itemsChars]
  | cons item items ih =>
      simp only [itemsChars, List.forall_mem_append]
      rw [List.forall_mem_cons] at each
      exact ⟨⟨⟨comma, gap depth⟩, each.1⟩, ih each.2⟩

include printed gap comma colon in
theorem fieldsChars_allowed {fields : Fields} {depth : Nat}
    (each : ∀ field ∈ fields, ∀ c ∈ field.2.chars style depth, allowed c) :
    ∀ c ∈ fieldsChars style depth fields, allowed c := by
  induction fields with
  | nil => simp [fieldsChars]
  | cons field fields ih =>
      simp only [fieldsChars, List.forall_mem_append]
      rw [List.forall_mem_cons] at each
      exact ⟨⟨⟨⟨⟨comma, gap depth⟩, fun c member => printed c (stringText_isPrinted _ c member)⟩,
        colon⟩, each.1⟩, ih each.2⟩

include printed gap comma colon in
theorem Value.Exact.chars_allowed {value : Value} (exact : value.Exact) (depth : Nat) :
    ∀ c ∈ value.chars style depth, allowed c := by
  have closed (text : List Char) (all : (text.all fun c => decide (IsPrinted c)) = true) :
      ∀ c ∈ text, allowed c := fun c member => printed c (isPrinted_of_all all c member)
  induction exact generalizing depth with
  | null => exact closed "null".toList rfl
  | bool value =>
      cases value with
      | false => exact closed "false".toList rfl
      | true => exact closed "true".toList rfl
  | int value =>
      rw [Value.chars]
      exact fun c member => printed c (intText_isPrinted value c member)
  | string value =>
      rw [Value.chars]
      exact fun c member => printed c (stringText_isPrinted value c member)
  | @array items each ih =>
      cases items with
      | nil => exact closed ['[', ']'] rfl
      | cons item items =>
          rw [List.forall_mem_cons] at ih
          simp only [Value.chars, List.forall_mem_append, List.forall_mem_cons, List.not_mem_nil,
            false_imp_iff, implies_true, and_true]
          exact ⟨⟨⟨⟨⟨printed _ (by decide), gap _⟩, ih.1 _⟩,
            itemsChars_allowed gap comma fun other member => ih.2 other member _⟩, gap _⟩,
            printed _ (by decide)⟩
  | @object fields different each ih =>
      cases fields with
      | nil => exact closed ['\x7b', '\x7d'] rfl
      | cons field fields =>
          rw [List.forall_mem_cons] at ih
          simp only [Value.chars, List.forall_mem_append, List.forall_mem_cons, List.not_mem_nil,
            false_imp_iff, implies_true, and_true]
          exact ⟨⟨⟨⟨⟨⟨⟨printed _ (by decide), gap _⟩,
            fun c member => printed c (stringText_isPrinted _ c member)⟩, colon⟩, ih.1 _⟩,
            fieldsChars_allowed printed gap comma colon fun other member => ih.2 other member _⟩,
            gap _⟩, printed _ (by decide)⟩

end

theorem Value.Exact.spaced_isPrinted {value : Value} (exact : value.Exact) :
    ∀ c ∈ value.spaced.toList, IsPrinted c := by
  rw [Value.spaced, Value.render, String.toList_ofList]
  exact exact.chars_allowed (fun _ => id) (by simp [Style.spaced]) (isPrinted_of_all rfl)
    (isPrinted_of_all rfl) 0

end ContractLint.Json
