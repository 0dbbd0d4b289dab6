import Mathlib.Data.List.Forall2
import ContractLint.Json.Access

/-! When parts of a value can be had, and what they are. -/

namespace ContractLint.Json

theorem bind_eq_ok_iff {ε α β : Type} {first : Except ε α} {next : α → Except ε β} {result : β} :
    first >>= next = .ok result ↔ ∃ value, first = .ok value ∧ next value = .ok result := by
  cases first with
  | error problem => simp [bind, Except.bind]
  | ok value => simp [bind, Except.bind]

theorem mapM_eq_ok_iff {ε α β : Type} {read : α → Except ε β} {items : List α} {results : List β} :
    items.mapM read = .ok results ↔
      List.Forall₂ (fun item result => read item = .ok result) items results := by
  induction items generalizing results with
  | nil =>
      rw [List.mapM_nil, List.forall₂_nil_left_iff]
      exact ⟨fun same => (Except.ok.inj same).symm, fun same => congrArg Except.ok same.symm⟩
  | cons item items ih =>
      rw [List.mapM_cons, bind_eq_ok_iff, List.forall₂_cons_left_iff]
      simp only [bind_eq_ok_iff, ih]
      constructor
      · rintro ⟨result, isRead, rest, areRead, same⟩
        exact ⟨result, rest, isRead, areRead, (Except.ok.inj same).symm⟩
      · rintro ⟨result, rest, isRead, areRead, rfl⟩
        exact ⟨result, isRead, rest, areRead, rfl⟩

namespace Value

variable {value found absent : Value} {key : String}

theorem getOr_eq_ok_iff : value.getOr key absent = .ok found ↔
    ∃ fields, value = .object fields ∧ (fields.lookup key).getD absent = found := by
  cases value with
  | object fields =>
      rw [getOr, Value.fields, bind_eq_ok_iff]
      simp [Fields.get?, pure, Except.pure]
  | _ => simp [getOr, Value.fields, bind, Except.bind]

theorem require_eq_ok_iff : value.require key = .ok found ↔ value.field? key = some found := by
  cases value with
  | object fields =>
      rw [require, field?, Fields.get?]
      cases fields.lookup key <;> simp
  | _ => simp [require, field?]

theorem hashable_eq_ok (done : value.hashable = .ok found) : found = value := by
  cases value <;> simp_all [hashable]

end Value

end ContractLint.Json
