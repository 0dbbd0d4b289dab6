import ContractLint.Proofs.Json.RoundTrip

/-! Texts of one value in different layouts. They differ in blanks outside the strings, and the
compact one has none there. -/

namespace ContractLint.Json

theorem Style.compact_regular : Style.compact.Regular :=
  ⟨fun _ => rfl, ⟨[], rfl, rfl⟩, ⟨[], rfl, rfl⟩⟩

theorem Style.indented_regular : Style.indented.Regular where
  gap depth := by simp [Style.indented, isSpace]
  comma := ⟨[], rfl, rfl⟩
  colon := ⟨[' '], rfl, rfl⟩

inductive Zone
  | outside
  | inside
  | escaped
deriving DecidableEq

def Zone.after : Zone → Char → Zone
  | .outside, c => if c = '"' then .inside else .outside
  | .inside, c => if c = '"' then .outside else if c = '\\' then .escaped else .inside
  | .escaped, _ => .inside

def outsideStrings : Zone → List Char → List Char
  | _, [] => []
  | zone, c :: rest =>
    if zone = .outside then c :: outsideStrings (zone.after c) rest
    else outsideStrings (zone.after c) rest

def squeezed : Zone → List Char → List Char
  | _, [] => []
  | zone, c :: rest =>
    if zone = .outside ∧ isSpace c then squeezed (zone.after c) rest
    else c :: squeezed (zone.after c) rest

theorem length_squeezed_le (zone : Zone) (text : List Char) :
    (squeezed zone text).length ≤ text.length := by
  induction text generalizing zone with
  | nil => exact Nat.le_refl _
  | cons c rest ih =>
      have shorter := ih (zone.after c)
      rw [squeezed]
      split
      · exact Nat.le_succ_of_le shorter
      · exact Nat.succ_le_succ shorter

theorem not_isSpace_of_squeezed {zone : Zone} {text : List Char}
    (same : squeezed zone text = text) : ∀ c ∈ outsideStrings zone text, isSpace c = false := by
  induction text generalizing zone with
  | nil => simp [outsideStrings]
  | cons c rest ih =>
      rw [squeezed] at same
      split at same
      case isTrue =>
        have shorter := length_squeezed_le (zone.after c) rest
        rw [same, List.length_cons] at shorter
        omega
      case isFalse kept =>
        have others := ih (List.cons.inj same).2
        rw [outsideStrings]
        split
        case isTrue isOutside =>
          rw [List.forall_mem_cons]
          exact ⟨Bool.eq_false_iff.mpr fun blank => kept ⟨isOutside, blank⟩, others⟩
        case isFalse => exact others

def isInk (c : Char) : Bool := !isSpace c && c ≠ '"'

def Squeezes (zone : Zone) (piece kept : List Char) (next : Zone) : Prop :=
  ∀ rest, squeezed zone (piece ++ rest) = kept ++ squeezed next rest

namespace Squeezes

variable {zone middle next : Zone} {piece kept other alsoKept : List Char}

theorem nil (zone : Zone) : Squeezes zone [] [] zone := fun _ => rfl

theorem append (first : Squeezes zone piece kept middle)
    (second : Squeezes middle other alsoKept next) :
    Squeezes zone (piece ++ other) (kept ++ alsoKept) next := by
  intro rest
  rw [List.append_assoc, first, second, List.append_assoc]

theorem char {c : Char} (isKept : ¬(zone = .outside ∧ isSpace c)) :
    Squeezes zone [c] [c] (zone.after c) := fun _ => if_neg isKept

theorem cons {c : Char} (isKept : ¬(zone = .outside ∧ isSpace c))
    (others : Squeezes (zone.after c) piece kept next) :
    Squeezes zone (c :: piece) (c :: kept) next := (char isKept).append others

theorem blank (spaces : piece.all isSpace = true) : Squeezes .outside piece [] .outside := by
  intro rest
  induction piece with
  | nil => rfl
  | cons c piece ih =>
      rw [List.all_cons, Bool.and_eq_true] at spaces
      have notQuote : c ≠ '"' := by
        rintro rfl
        cases spaces.1
      rw [List.cons_append, squeezed, if_pos ⟨rfl, spaces.1⟩, Zone.after, if_neg notQuote]
      exact ih spaces.2

theorem inked (ink : piece.all isInk = true) : Squeezes .outside piece piece .outside := by
  induction piece with
  | nil => exact nil _
  | cons c piece ih =>
      rw [List.all_cons, Bool.and_eq_true, isInk, Bool.and_eq_true, Bool.not_eq_true'] at ink
      obtain ⟨⟨notSpace, notQuote⟩, others⟩ := ink
      refine cons (by simp [notSpace]) ?_
      rw [Zone.after, if_neg (of_decide_eq_true notQuote)]
      exact ih others

end Squeezes

/-! Strings stay as they are. -/

theorem squeezes_inside {text : List Char} (plain : ∀ c ∈ text, c ≠ '"' ∧ c ≠ '\\') :
    Squeezes .inside text text .inside := by
  induction text with
  | nil => exact .nil _
  | cons c text ih =>
      rw [List.forall_mem_cons] at plain
      refine .cons (by simp) ?_
      rw [Zone.after, if_neg plain.1.1, if_neg plain.1.2]
      exact ih plain.2

theorem squeezes_escape (mark : Char) : Squeezes .inside ['\\', mark] ['\\', mark] .inside :=
  .cons (by simp) (.cons (fun apart => nomatch apart.1) (.nil _))

theorem hexDigit_plain (value : Nat) :
    hexDigit (value % 16) ≠ '"' ∧ hexDigit (value % 16) ≠ '\\' := by
  have all : ∀ value < 16, hexDigit value ≠ '"' ∧ hexDigit value ≠ '\\' := by decide
  exact all _ (Nat.mod_lt _ (by decide))

theorem squeezes_unitEscape (unit : Nat) :
    Squeezes .inside (unitEscape unit) (unitEscape unit) .inside := by
  refine (squeezes_escape 'u').append (squeezes_inside ?_)
  simp only [List.forall_mem_cons, List.not_mem_nil, false_imp_iff, implies_true, and_true]
  exact ⟨hexDigit_plain _, hexDigit_plain _, hexDigit_plain _, hexDigit_plain _⟩

theorem squeezes_charText (c : Char) : Squeezes .inside (charText c) (charText c) .inside := by
  have written := charText_writes c
  generalize charText c = text at written ⊢
  cases written with
  | escape _ _ => exact squeezes_escape _
  | plain quote slash _ => exact squeezes_inside (by simp [quote, slash])
  | single _ => exact squeezes_unitEscape _
  | pair _ => exact (squeezes_unitEscape _).append (squeezes_unitEscape _)

theorem squeezes_stringText (text : String) :
    Squeezes .outside (stringText text) (stringText text) .outside := by
  have chars : Squeezes .inside (text.toList.flatMap charText) (text.toList.flatMap charText)
      .inside := by
    induction text.toList with
    | nil => exact .nil _
    | cons c rest ih =>
        rw [List.flatMap_cons]
        exact (squeezes_charText c).append ih
  have quote : ¬(Zone.outside = .outside ∧ isSpace '"') := by decide
  exact .append (.cons quote chars) (.char (by simp))

/-! Values. -/

theorem squeezes_intText (value : Int) :
    Squeezes .outside (intText value) (intText value) .outside := by
  have digits (value : Nat) : (Nat.toDigits 10 value).all isInk = true := by
    rw [List.all_eq_true]
    intro c member
    have different := ne_of_digit_or_sign (.inl (toDigits_isDigit value c member))
    simp [isInk, isSpace, different ' ', different '\t', different '\n', different '\r',
      different '"']
  cases value with
  | ofNat value => exact .inked (digits value)
  | negSucc value => exact .inked (digits _)

def Compacts (style : Style) (value : Value) : Prop :=
  ∀ depth other, Squeezes .outside (value.chars style depth) (value.chars .compact other) .outside

section

variable {style : Style}

theorem Style.Regular.squeezes_gap (regular : style.Regular) (depth other : Nat) :
    Squeezes .outside (style.gap depth) (Style.compact.gap other) .outside :=
  .blank (regular.gap depth)

theorem squeezes_mark {mark : Char} {text : List Char} (ink : [mark].all isInk = true)
    (spaced : ∃ spaces, text = mark :: spaces ∧ spaces.all isSpace = true) :
    Squeezes .outside text [mark] .outside := by
  obtain ⟨spaces, rfl, blank⟩ := spaced
  exact Squeezes.append (.inked ink) (.blank blank)

theorem Style.Regular.squeezes_comma (regular : style.Regular) :
    Squeezes .outside style.comma Style.compact.comma .outside :=
  squeezes_mark rfl regular.comma

theorem Style.Regular.squeezes_colon (regular : style.Regular) :
    Squeezes .outside style.colon Style.compact.colon .outside :=
  squeezes_mark rfl regular.colon

theorem squeezes_itemsChars (regular : style.Regular) {items : List Value}
    (each : ∀ item ∈ items, Compacts style item) (depth other : Nat) :
    Squeezes .outside (itemsChars style depth items) (itemsChars .compact other items)
      .outside := by
  induction items with
  | nil => exact .nil _
  | cons item items ih =>
      rw [List.forall_mem_cons] at each
      rw [itemsChars, itemsChars]
      exact ((regular.squeezes_comma.append (regular.squeezes_gap depth other)).append
        (each.1 depth other)).append (ih each.2)

theorem squeezes_fieldsChars (regular : style.Regular) {fields : Fields}
    (each : ∀ field ∈ fields, Compacts style field.2) (depth other : Nat) :
    Squeezes .outside (fieldsChars style depth fields) (fieldsChars .compact other fields)
      .outside := by
  induction fields with
  | nil => exact .nil _
  | cons field fields ih =>
      rw [List.forall_mem_cons] at each
      rw [fieldsChars, fieldsChars]
      exact ((((regular.squeezes_comma.append (regular.squeezes_gap depth other)).append
        (squeezes_stringText field.1)).append regular.squeezes_colon).append
        (each.1 depth other)).append (ih each.2)

theorem Value.Exact.compacts (regular : style.Regular) {value : Value} (exact : value.Exact) :
    Compacts style value := by
  induction exact with
  | null => exact fun _ _ => .inked rfl
  | bool value =>
      cases value with
      | false => exact fun _ _ => .inked rfl
      | true => exact fun _ _ => .inked rfl
  | int value =>
      intro depth other
      rw [Value.chars, Value.chars]
      exact squeezes_intText value
  | string value =>
      intro depth other
      rw [Value.chars, Value.chars]
      exact squeezes_stringText value
  | @array items _ ih =>
      intro depth other
      cases items with
      | nil => exact .inked rfl
      | cons item items =>
          rw [List.forall_mem_cons] at ih
          rw [Value.chars, Value.chars]
          have opened := (Squeezes.inked (rfl : ['['].all isInk = true)).append
            (regular.squeezes_gap (depth + 1) (other + 1))
          have filled := (opened.append (ih.1 (depth + 1) (other + 1))).append
            (squeezes_itemsChars regular ih.2 (depth + 1) (other + 1))
          exact (filled.append (regular.squeezes_gap depth other)).append (.inked rfl)
  | @object fields _ _ ih =>
      intro depth other
      cases fields with
      | nil => exact .inked rfl
      | cons field fields =>
          rw [List.forall_mem_cons] at ih
          rw [Value.chars, Value.chars]
          have opened := (Squeezes.inked (rfl : ['\x7b'].all isInk = true)).append
            (regular.squeezes_gap (depth + 1) (other + 1))
          have named := (opened.append (squeezes_stringText field.1)).append
            regular.squeezes_colon
          have filled := (named.append (ih.1 (depth + 1) (other + 1))).append
            (squeezes_fieldsChars regular ih.2 (depth + 1) (other + 1))
          exact (filled.append (regular.squeezes_gap depth other)).append (.inked rfl)

end

theorem Value.Exact.squeezed_render {style : Style} (regular : style.Regular) {value : Value}
    (exact : value.Exact) :
    squeezed .outside (value.render style).toList = value.compact.toList := by
  have whole := exact.compacts regular 0 0 []
  rw [List.append_nil, squeezed, List.append_nil] at whole
  rw [Value.render, Value.compact, Value.render, String.toList_ofList, String.toList_ofList, whole]

theorem Value.Exact.isAscii_pretty {value : Value} (exact : value.Exact) :
    ∀ c ∈ value.pretty.toList, c.toNat < 128 := by
  have newline : ('\n' : Char).toNat < 128 := by decide
  have blank : (' ' : Char).toNat < 128 := by decide
  rw [Value.pretty, Value.render, String.toList_ofList]
  refine exact.chars_allowed (fun c printed => Nat.lt_trans printed.2 (by decide)) ?_ ?_ ?_ 0
  · intro depth c member
    simp only [Style.indented, List.mem_cons, List.mem_replicate] at member
    rcases member with rfl | ⟨_, rfl⟩
    · exact newline
    · exact blank
  · simp [Style.indented]
  · simp [Style.indented]

theorem Value.Exact.isAscii_compact {value : Value} (exact : value.Exact) :
    ∀ c ∈ value.compact.toList, c.toNat < 128 := by
  rw [Value.compact, Value.render, String.toList_ofList]
  exact exact.chars_allowed (fun c printed => Nat.lt_trans printed.2 (by decide))
    (by simp [Style.compact]) (by simp [Style.compact]) (by simp [Style.compact]) 0

/-- Both layouts of a value are ASCII and are read as that value, its fields in their order. The
compact one has no blank outside its strings, and without its blanks there the indented one is the
same text. -/
theorem layouts_read_back {value : Value} (exact : value.Exact) :
    (∀ c ∈ value.compact.toList, c.toNat < 128) ∧ (∀ c ∈ value.pretty.toList, c.toNat < 128) ∧
    read value.compact = .ok value ∧ read value.pretty = .ok value ∧
    (∀ c ∈ outsideStrings .outside value.compact.toList, c.isWhitespace = false) ∧
    squeezed .outside value.pretty.toList = value.compact.toList := by
  refine ⟨exact.isAscii_compact, exact.isAscii_pretty, read_render Style.compact_regular exact,
    read_render Style.indented_regular exact, fun c member => ?_,
    exact.squeezed_render Style.indented_regular⟩
  have same := exact.squeezed_render Style.compact_regular
  have inked := not_isSpace_of_squeezed same c member
  simp only [isSpace, Bool.or_eq_false_iff, decide_eq_false_iff_not] at inked
  simp [Char.isWhitespace, inked]

def variedValue : Value :=
  .object [("b \"\\\n", .array [.array [], .object [], .int (-123456789012345678901234567890),
    .string " 😀\x01/\x7f", .null]), ("a", .bool false)]

theorem layouts_read_back_varied : variedValue.Exact ∧
    (∀ c ∈ variedValue.compact.toList, c.toNat < 128) ∧
    (∀ c ∈ variedValue.pretty.toList, c.toNat < 128) ∧
    read variedValue.compact = .ok variedValue ∧ read variedValue.pretty = .ok variedValue ∧
    (∀ c ∈ outsideStrings .outside variedValue.compact.toList, c.isWhitespace = false) ∧
    squeezed .outside variedValue.pretty.toList = variedValue.compact.toList := by
  have exact : variedValue.Exact := by
    refine .object (by decide) ?_
    simp only [List.forall_mem_cons, List.not_mem_nil, false_imp_iff, implies_true, and_true]
    refine ⟨.array ?_, .bool false⟩
    simp only [List.forall_mem_cons, List.not_mem_nil, false_imp_iff, implies_true, and_true]
    exact ⟨.array (by simp), .object List.nodup_nil (by simp), .int _, .string _, .null⟩
  exact ⟨exact, layouts_read_back exact⟩

end ContractLint.Json
