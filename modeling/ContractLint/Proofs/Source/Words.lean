import ContractLint.Source.Lexer

/-! Names are words: neither the composed form of a word nor its way through the lexer puts a
character into a name that could not continue a word. -/

namespace ContractLint.Text

def IsWord (text : List Char) : Prop := ∀ c ∈ text, isWordChar c = true

structure IsIdentifier (text : List Char) : Prop where
  isWord : IsWord text
  inner : text ≠ []

theorem isWordChar_ofNat {code : Nat} (valid : code.isValidChar) (high : 128 ≤ code) :
    isWordChar (Char.ofNat code) = true := by
  have same : (Char.ofNat code).toNat = code := by
    rw [Char.ofNat, dif_pos valid]
    rfl
  simp [isWordChar, same, high]

namespace NormalForm

theorem hangulParts_isWord {code : Nat} (low : 0xAC00 ≤ code) (high : code ≤ 0xD7A3) :
    IsWord ((hangulParts code).map Char.ofNat) := by
  intro c member
  obtain ⟨part, listed, rfl⟩ := List.mem_map.mp member
  have bounds : 0x1100 ≤ part ∧ part ≤ 0x11C2 := by
    simp only [hangulParts] at listed
    split at listed
    all_goals
      simp only [List.mem_cons, List.not_mem_nil, or_false] at listed
      omega
  exact isWordChar_ofNat (Or.inl (by omega)) (by omega)

theorem decompose_isWord {c : Char} (word : isWordChar c = true) : IsWord (decompose c) := by
  have own : IsWord [c] := by
    intro part member
    rw [List.mem_singleton.mp member]
    exact word
  unfold decompose
  split
  · exact own
  · split
    next hangul =>
      simp only [Bool.and_eq_true, decide_eq_true_eq] at hangul
      exact hangulParts_isWord hangul.1 hangul.2
    next =>
      split
      next found _ => exact found.areWord
      next => exact own

theorem mem_insertMark {value : Nat} {c : Char} {done : List (Nat × Char)} {mark : Nat × Char}
    (member : mark ∈ insertMark value c done) : mark = (value, c) ∨ mark ∈ done := by
  induction done with
  | nil => simpa [insertMark] using member
  | cons first rest ih =>
      simp only [insertMark] at member
      split at member
      · rcases List.mem_cons.mp member with same | later
        · exact Or.inr (by simp [same])
        · rcases ih later with new | old
          · exact Or.inl new
          · exact Or.inr (List.mem_cons_of_mem _ old)
      · rcases List.mem_cons.mp member with same | later
        · exact Or.inl same
        · exact Or.inr later

theorem orderMarks_isWord {text : List Char} (word : IsWord text) :
    ∀ mark ∈ orderMarks text, isWordChar mark.2 = true := by
  have keeps : ∀ (text : List Char) (done : List (Nat × Char)), IsWord text →
      (∀ mark ∈ done, isWordChar mark.2 = true) →
      ∀ mark ∈ text.foldl (fun done c => insertMark (combiningClass c) c done) done,
        isWordChar mark.2 = true := by
    intro text
    induction text with
    | nil => intro done _ kept; simpa using kept
    | cons c rest ih =>
        intro done word kept
        apply ih _ (fun d member => word d (List.mem_cons_of_mem _ member))
        intro mark member
        rcases mem_insertMark member with new | old
        · rw [new]
          exact word c (by simp)
        · exact kept mark old
  intro mark member
  exact keeps text [] word (by simp) mark (List.mem_reverse.mp member)

theorem composeHangul?_bounds {first second code : Nat}
    (found : composeHangul? first second = some code) : 0xAC00 ≤ code ∧ code ≤ 0xD7A3 := by
  simp only [composeHangul?, Bool.and_eq_true, decide_eq_true_eq] at found
  split at found
  · simp only [Option.some.injEq] at found
    omega
  · split at found
    · simp only [Option.some.injEq] at found
      omega
    · simp at found

theorem composePair?_isWord {first second composed : Char}
    (found : composePair? first second = some composed) : isWordChar composed = true := by
  unfold composePair? at found
  split at found
  next code hangul =>
    have bounds := composeHangul?_bounds hangul
    rw [← Option.some.inj found]
    exact isWordChar_ofNat (Or.inl (by omega)) (by omega)
  next =>
    obtain ⟨pair, _, rfl⟩ := Option.map_eq_some_iff.mp found
    exact pair.isWord

theorem composeAfter_isWord {marks : List (Nat × Char)} {starter : Char} {kept : List (Nat × Char)}
    (start : isWordChar starter = true) (keptWord : ∀ mark ∈ kept, isWordChar mark.2 = true)
    (word : ∀ mark ∈ marks, isWordChar mark.2 = true) :
    IsWord (composeAfter starter kept marks) := by
  have closed : ∀ (starter : Char) (kept : List (Nat × Char)), isWordChar starter = true →
      (∀ mark ∈ kept, isWordChar mark.2 = true) → IsWord (starter :: kept.reverse.map (·.2)) := by
    intro starter kept start keptWord c member
    rcases List.mem_cons.mp member with same | later
    · rw [same]
      exact start
    · obtain ⟨mark, listed, rfl⟩ := List.mem_map.mp later
      exact keptWord mark (List.mem_reverse.mp listed)
  induction marks generalizing starter kept with
  | nil => exact closed starter kept start keptWord
  | cons mark rest ih =>
      have restWord : ∀ mark ∈ rest, isWordChar mark.2 = true :=
        fun mark member => word mark (List.mem_cons_of_mem _ member)
      have markWord : isWordChar mark.2 = true := word mark (by simp)
      rw [composeAfter.eq_def]
      dsimp only
      split
      -- A mark that composes makes a new starter; one that does not is kept, or starts afresh.
      next composed found =>
        have pair : composePair? starter mark.2 = some composed :=
          (Option.ite_none_right_eq_some.mp found).2
        exact ih (composePair?_isWord pair) keptWord restWord
      next =>
        split
        · intro c member
          rcases List.mem_append.mp member with before | after
          · exact closed starter kept start keptWord c before
          · exact ih markWord (by simp) restWord c after
        · apply ih start _ restWord
          intro other member
          rcases List.mem_cons.mp member with same | later
          · rw [same]
            exact markWord
          · exact keptWord other later

theorem compose_isWord {marks : List (Nat × Char)}
    (word : ∀ mark ∈ marks, isWordChar mark.2 = true) : IsWord (compose marks) := by
  induction marks with
  | nil => intro c member; simp [compose] at member
  | cons mark rest ih =>
      have restWord : ∀ mark ∈ rest, isWordChar mark.2 = true :=
        fun mark member => word mark (List.mem_cons_of_mem _ member)
      rw [compose]
      split
      · exact composeAfter_isWord (word mark (by simp)) (by simp) restWord
      · intro c member
        rcases List.mem_cons.mp member with same | later
        · rw [same]
          exact word mark (by simp)
        · exact ih restWord c later

theorem normalize_isWord {text : List Char} (word : IsWord text) : IsWord (normalize text) := by
  unfold normalize
  split
  · exact word
  · apply compose_isWord
    apply orderMarks_isWord
    intro part member
    obtain ⟨c, listed, decomposed⟩ := List.mem_flatMap.mp member
    exact decompose_isWord (word c listed) part decomposed

theorem decompose_ne_nil (c : Char) : decompose c ≠ [] := by
  unfold decompose
  split
  · simp
  · split
    · unfold hangulParts
      dsimp only
      split <;> simp
    · split
      next found isFound => exact parts_ne_nil (Array.mem_of_find?_eq_some isFound)
      next => simp

theorem length_insertMark (value : Nat) (c : Char) (done : List (Nat × Char)) :
    (insertMark value c done).length = done.length + 1 := by
  induction done with
  | nil => rfl
  | cons mark rest ih =>
      rw [insertMark]
      split
      · simp [ih]
      · rfl

theorem length_orderMarks (text : List Char) : (orderMarks text).length = text.length := by
  have grows : ∀ (text : List Char) (done : List (Nat × Char)),
      (text.foldl (fun done c => insertMark (combiningClass c) c done) done).length =
        done.length + text.length := by
    intro text
    induction text with
    | nil => simp
    | cons c rest ih =>
        intro done
        rw [List.foldl_cons, ih, length_insertMark, List.length_cons]
        omega
  rw [orderMarks, List.length_reverse, grows]
  simp

theorem composeAfter_ne_nil (starter : Char) (kept marks : List (Nat × Char)) :
    composeAfter starter kept marks ≠ [] := by
  induction marks generalizing starter kept with
  | nil => simp [composeAfter]
  | cons mark rest ih =>
      rw [composeAfter.eq_def]
      dsimp only
      split
      · exact ih _ _
      · split
        · simp
        · exact ih _ _

theorem normalize_ne_nil {text : List Char} (inner : text ≠ []) : normalize text ≠ [] := by
  unfold normalize
  split
  · exact inner
  · obtain ⟨c, rest, rfl⟩ := List.exists_cons_of_ne_nil inner
    have parts : 0 < (orderMarks ((c :: rest).flatMap decompose)).length := by
      rw [length_orderMarks, List.flatMap_cons, List.length_append]
      exact Nat.add_pos_left (List.length_pos_iff.mpr (decompose_ne_nil c)) _
    obtain ⟨mark, marks, split⟩ := List.exists_cons_of_length_pos parts
    rw [split, compose]
    split
    · exact composeAfter_ne_nil _ _ _
    · simp

end NormalForm
end ContractLint.Text

namespace ContractLint.Source

open ContractLint.Text

def Token.Formed (token : Token) : Prop :=
  ∀ text, token.kind = .name text → IsIdentifier text.toList

def TokenStream.Formed (stream : TokenStream) : Prop := ∀ token ∈ stream.tokens, token.Formed

def Lexer.Formed (lexer : Lexer) : Prop := ∀ token ∈ lexer.tokens, token.Formed

theorem Lexer.Formed.emit {lexer : Lexer} {token : Token} (lexerFormed : lexer.Formed)
    (tokenFormed : token.Formed) : (lexer.emit token).Formed := by
  intro found member
  rcases List.mem_cons.mp member with same | earlier
  · rw [same]
    exact tokenFormed
  · exact lexerFormed found earlier

theorem Lexer.Formed.stop {lexer : Lexer} (formed : lexer.Formed) (fault : LexicalFault) :
    (lexer.stop fault).Formed := by
  intro token member
  exact formed token (by simpa [Lexer.stop] using member)

theorem layoutToken_formed (kind : TokenKind) (notName : ∀ text, kind ≠ .name text)
    (ending : Ending) (next : Option Glyph) : (layoutToken kind ending next).Formed := by
  intro text isName
  cases next with
  | none => exact absurd isName (notName text)
  | some glyph => exact absurd isName (notName text)

theorem Lexer.Formed.emitLayout {α : Type} {lexer : Lexer} (formed : lexer.Formed)
    (kind : TokenKind) (notName : ∀ text, kind ≠ .name text) (ending : Ending)
    (next : Option Glyph) (levels : List α) :
    (levels.foldl (fun lexer _ => lexer.emit (layoutToken kind ending next)) lexer).Formed := by
  induction levels generalizing lexer with
  | nil => exact formed
  | cons level rest ih => exact ih (formed.emit (layoutToken_formed kind notName ending next))

theorem Lexer.Formed.close {lexer : Lexer} (formed : lexer.Formed) (ending : Ending) :
    (lexer.close ending).Formed := by
  unfold Lexer.close
  split
  · exact formed.stop _
  · have closed := formed.emitLayout .dedent (by simp) ending none lexer.indents
    have finished := closed.emit (layoutToken_formed .finish (by simp) ending none)
    intro token member
    exact finished token (by simpa using member)

theorem Lexer.Formed.indentTo {lexer indented : Lexer} (formed : lexer.Formed) {ending : Ending}
    {width : Width} {text : List Glyph}
    (reached : lexer.indentTo ending width text = .ok indented) : indented.Formed := by
  simp only [Lexer.indentTo] at reached
  split at reached
  · split at reached
    · rw [← Except.ok.inj reached]
      exact formed
    · simp at reached
  · split at reached
    · split at reached
      · simp at reached
      · split at reached
        · simp at reached
        · rw [← Except.ok.inj reached]
          exact Lexer.Formed.emit formed (layoutToken_formed .indent (by simp) ending text.head?)
    · split at reached
      · simp at reached
      · split at reached
        · simp at reached
        · rw [← Except.ok.inj reached]
          apply Lexer.Formed.emitLayout _ .dedent (by simp)
          exact formed

theorem tokenAt_formed {kind : TokenKind} {glyph : Glyph}
    (named : ∀ text, kind = .name text → IsIdentifier text.toList) :
    (tokenAt kind glyph).Formed := named

theorem wordKind_name {text : List Char} {name : String} (identifier : IsIdentifier text)
    (isName : wordKind text = .name name) : IsIdentifier name.toList := by
  simp only [wordKind] at isName
  split at isName
  · simp at isName
  · rw [← TokenKind.name.inj isName, String.toList_ofList]
    exact ⟨NormalForm.normalize_isWord identifier.isWord,
      NormalForm.normalize_ne_nil identifier.inner⟩

theorem scanLiteral_formed {ending : Ending} {start quote : Glyph} {literal : QuotedLiteral}
    {text rest : List Glyph} {token : Token}
    (scanned : scanLiteral ending start literal quote text = .ok (token, rest)) : token.Formed := by
  unfold scanLiteral at scanned
  split at scanned
  · obtain ⟨rfl, _⟩ := Prod.mk.inj (Except.ok.inj scanned)
    exact tokenAt_formed (by simp)
  · simp at scanned

theorem scanName_formed {start : Glyph} {word rest unread : List Glyph} {token : Token}
    (letters : IsIdentifier (glyphText word)) (scanned : scanName start word rest = .ok (token, unread)) :
    token.Formed := by
  unfold scanName at scanned
  split at scanned
  · split at scanned
    · simp at scanned
    · simp at scanned
  · obtain ⟨rfl, _⟩ := Prod.mk.inj (Except.ok.inj scanned)
    exact tokenAt_formed fun name isName => wordKind_name letters isName

theorem scanWord_formed {ending : Ending} {start first : Glyph} {text rest : List Glyph}
    {token : Token} (starts : isWordChar first.char = true)
    (scanned : scanWord ending start (first :: text) = .ok (token, rest)) : token.Formed := by
  have letters : IsIdentifier
      (glyphText ((first :: text).takeWhile fun glyph => isWordChar glyph.char)) := by
    constructor
    · intro c member
      obtain ⟨glyph, taken, rfl⟩ := List.mem_map.mp member
      exact List.all_eq_true.mp List.all_takeWhile glyph taken
    · simp [glyphText, starts]
  simp only [scanWord] at scanned
  split at scanned
  · split at scanned
    · split at scanned
      · exact scanLiteral_formed scanned
      · exact scanName_formed letters scanned
    · exact scanName_formed letters scanned
  · exact scanName_formed letters scanned

theorem scanNumberToken_formed {start : Glyph} {text rest : List Glyph} {token : Token}
    (scanned : scanNumberToken start text = .ok (token, rest)) : token.Formed := by
  simp only [scanNumberToken] at scanned
  split at scanned
  · obtain ⟨rfl, _⟩ := Prod.mk.inj (Except.ok.inj scanned)
    exact tokenAt_formed (by simp)
  · simp at scanned

theorem Lexer.Formed.bracket {lexer bracketed : Lexer} (formed : lexer.Formed) {glyph : Glyph}
    (kept : lexer.bracket glyph = .ok bracketed) : bracketed.Formed := by
  simp only [Lexer.bracket] at kept
  split at kept
  · split at kept
    · simp at kept
    · rw [← Except.ok.inj kept]
      exact formed
  · split at kept
    · split at kept
      · simp at kept
      · split at kept
        · rw [← Except.ok.inj kept]
          exact formed
        · simp at kept
    · rw [← Except.ok.inj kept]
      exact formed

theorem Lexer.Formed.token {lexer read : Lexer} (formed : lexer.Formed) {ending : Ending}
    {glyph : Glyph} {text rest : List Glyph}
    (scanned : lexer.token ending glyph text = .ok (read, rest)) : read.Formed := by
  simp only [Lexer.token, bind, Except.bind, pure, Except.pure] at scanned
  split at scanned
  next starts =>
    rw [Bool.and_eq_true] at starts
    split at scanned
    next => simp at scanned
    next found result =>
      obtain ⟨rfl, _⟩ := Prod.mk.inj (Except.ok.inj scanned)
      exact formed.emit (scanWord_formed starts.1 result)
  · split at scanned
    · split at scanned
      next => simp at scanned
      next found result =>
        obtain ⟨rfl, _⟩ := Prod.mk.inj (Except.ok.inj scanned)
        exact formed.emit (scanNumberToken_formed result)
    · split at scanned
      · split at scanned
        next => simp at scanned
        next found result =>
          obtain ⟨rfl, _⟩ := Prod.mk.inj (Except.ok.inj scanned)
          exact formed.emit (scanLiteral_formed result)
      · have symbol : ∀ grown : Lexer, grown.Formed → ∀ text,
            (grown.emit (tokenAt (.symbol text) glyph)).Formed :=
          fun grown kept text => kept.emit (tokenAt_formed (by simp))
        split at scanned
        · split at scanned
          next => simp at scanned
          next grown kept =>
            split at scanned
            · simp [throw, throwThe, MonadExceptOf.throw] at scanned
            · obtain ⟨rfl, _⟩ := Prod.mk.inj (Except.ok.inj scanned)
              exact symbol grown (formed.bracket kept) _
        · split at scanned
          · simp [throw, throwThe, MonadExceptOf.throw] at scanned
          · obtain ⟨rfl, _⟩ := Prod.mk.inj (Except.ok.inj scanned)
            exact symbol lexer formed _

theorem scanFrom_formed (ending : Ending) (fuel : Nat) (atStart : Bool) (lexer : Lexer)
    (text : List Glyph) (formed : lexer.Formed) :
    (scanFrom ending fuel atStart lexer text).Formed := by
  fun_induction scanFrom ending fuel atStart lexer text with
  | case1 => exact formed.close ending
  | case2 => exact formed.stop _
  | case3 => exact formed.close ending
  | case4 _ _ _ _ _ _ _ _ ih => exact ih formed
  | case5 _ _ _ _ _ _ _ _ _ ih => exact ih formed
  | case6 _ _ _ _ _ _ _ _ _ _ ih => exact ih formed
  | case7 _ _ _ _ _ _ _ _ _ _ _ refused =>
      rw [refused]
      exact formed.stop _
  | case8 _ _ _ _ _ _ _ _ _ _ _ indented ih =>
      rw [indented]
      exact ih (formed.indentTo indented)
  | case9 => exact formed.close ending
  | case10 _ _ _ _ _ _ _ _ ih => exact ih (formed.emit (tokenAt_formed (by simp)))
  | case11 _ _ _ _ _ _ _ _ ih => exact ih formed
  | case12 _ _ _ _ _ _ _ _ ih => exact ih formed
  | case13 => exact formed.stop _
  | case14 _ _ _ _ _ _ _ _ _ _ _ ih => exact ih formed
  | case15 => exact formed.stop _
  | case16 _ _ _ _ _ _ _ _ _ _ _ scanned ih => exact ih (formed.token scanned)

theorem tokensOf_formed (text : List Glyph) : (tokensOf text).Formed := by
  apply scanFrom_formed
  intro token member
  simp at member

end ContractLint.Source
