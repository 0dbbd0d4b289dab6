import ContractLint.Files.Content
import ContractLint.Proofs.Json.RoundTrip

/-! Texts in files: what was written as ASCII is read as it was, and so are values. -/

namespace ContractLint

theorem Text.encodeUtf8_ascii {text : List Char} (ascii : ∀ c ∈ text, c.toNat < 128) :
    encodeUtf8 text = text.map fun c => UInt8.ofNat c.toNat := by
  induction text with
  | nil => rfl
  | cons c rest ih =>
      rw [List.forall_mem_cons] at ascii
      have single : String.utf8EncodeChar c = [UInt8.ofNat c.toNat] := by
        have small : c.val.toNat ≤ 127 := Nat.le_of_lt_succ ascii.1
        simp only [String.utf8EncodeChar, small, if_true]
        rfl
      rw [encodeUtf8, List.flatMap_cons, single, List.map_cons, ← ih ascii.2]
      rfl

theorem Text.decodeFrom_ascii {bytes : List UInt8} (ascii : ∀ byte ∈ bytes, byte < 128)
    (done : List Char) (position : Nat) : decodeFrom done position bytes =
      .ok (done.reverse ++ bytes.map fun byte => Char.ofNat byte.toNat) := by
  induction bytes generalizing done position with
  | nil => simp [decodeFrom]
  | cons byte rest ih =>
      rw [List.forall_mem_cons] at ascii
      have small : byte < 0x80 := ascii.1
      rw [decodeFrom.eq_def]
      simp only [small, if_true]
      rw [ih ascii.2, List.reverse_cons, List.append_assoc, List.singleton_append, List.map_cons]

theorem Source.unifyNewlines_append {text : List Char} (absent : '\r' ∉ text) (rest : List Char) :
    unifyNewlines (text ++ rest) = text ++ unifyNewlines rest := by
  induction text with
  | nil => rfl
  | cons c text ih =>
      simp only [List.mem_cons, not_or] at absent
      rw [List.cons_append, unifyNewlines, ih absent.2, List.cons_append]
      · exact fun _ isReturn _ => absent.1 isReturn.symm
      · exact fun isReturn => absent.1 isReturn.symm

theorem Source.unifyNewlines_of_notMem {text : List Char} (absent : '\r' ∉ text) :
    unifyNewlines text = text := by
  simpa [unifyNewlines] using unifyNewlines_append absent []

theorem Files.Content.decodeUtf8_ofText {text : String} (ascii : ∀ c ∈ text.toList, c.toNat < 128) :
    Text.decodeUtf8 (Content.ofText text).raw = .ok text.toList := by
  have value (c : Char) (member : c ∈ text.toList) : (UInt8.ofNat c.toNat).toNat = c.toNat :=
    UInt8.toNat_ofNat_of_lt' (Nat.lt_trans (ascii c member) (by decide))
  have small : ∀ byte ∈ text.toList.map fun c => UInt8.ofNat c.toNat, byte < 128 := by
    simp only [List.mem_map, forall_exists_index, and_imp, forall_apply_eq_imp_iff₂]
    intro c member
    rw [UInt8.lt_iff_toNat_lt, value c member]
    exact ascii c member
  rw [ofText, raw, Text.encodeUtf8_ascii ascii, Text.decodeUtf8, Text.decodeFrom_ascii small,
    List.reverse_nil, List.nil_append, List.map_map]
  refine congrArg Except.ok ((List.map_congr_left fun c member => ?_).trans (List.map_id _))
  rw [Function.comp_apply, value c member, Char.ofNat_toNat, id]

theorem Files.Content.text_ofText {text : String} (ascii : ∀ c ∈ text.toList, c.toNat < 128)
    (absent : '\r' ∉ text.toList) : (Content.ofText text).text = .ok text := by
  rw [Content.text, decodeUtf8_ofText ascii]
  change Except.ok (String.ofList (Source.unifyNewlines text.toList)) = _
  rw [Source.unifyNewlines_of_notMem absent, String.ofList_toList]

theorem Json.read_spaced {value : Json.Value} (exact : value.Exact) :
    (Files.Content.ofText value.spaced).text = .ok value.spaced ∧
      Json.read value.spaced = .ok value := by
  have printed := exact.spaced_isPrinted
  refine ⟨Files.Content.text_ofText (fun c member => ?_) fun isReturn => ?_,
    Json.read_render Json.Style.spaced_regular exact⟩
  · exact Nat.lt_trans (printed c member).2 (by decide)
  · exact absurd (printed _ isReturn).1 (by decide)

theorem Json.load_spaced {value : Json.Value} (exact : value.Exact) {nesting : Nat}
    (within : value.Within ⟨some digitLimit, some nesting⟩) :
    Json.load nesting value.spaced = .ok value :=
  Json.readWithin_render Json.Style.spaced_regular exact within

end ContractLint
