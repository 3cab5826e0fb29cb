import ChainShell.Number.Numeral
import Mathlib.Algebra.Group.Nat.Defs

namespace ChainShell.Numeral

/-- What may stand before the digits of a numeral. -/
def signs : List Text :=
  [[], ['+'], ['-']]

theorem exists_sign (text : Text) : ∃ sign ∈ signs, text = sign ++ (splitSign text).2 := by
  rw [splitSign.eq_def]
  split
  · exact ⟨['-'], by simp [signs], rfl⟩
  · exact ⟨['+'], by simp [signs], rfl⟩
  · exact ⟨[], by simp [signs], rfl⟩

theorem splitSign_of_digits {digits : Text} (decimal : digits.all isDigit = true) :
    splitSign digits = (false, digits) := by
  rw [splitSign.eq_def]
  split
  · cases decimal
  · cases decimal
  · rfl

theorem splitSign_append {sign digits : Text} (signed : sign ∈ signs)
    (decimal : digits.all isDigit = true) : splitSign (sign ++ digits) = (sign == ['-'], digits) := by
  rcases List.mem_cons.1 signed with rfl | signed
  · exact splitSign_of_digits decimal
  · rcases List.mem_cons.1 signed with rfl | signed
    · rfl
    · rw [List.mem_singleton.1 signed]
      rfl

/-- Digits that stand for a number, the ones at the end. -/
inductive Decimal : Text → Nat → Prop
  | one {d : Nat} : d < 10 → Decimal [d.digitChar] d
  | cons {d : Nat} {rest : Text} {n : Nat} : d < 10 → Decimal rest n →
      Decimal (d.digitChar :: rest) (d * 10 ^ rest.length + n)

/-- A numeral of an integer: digits, and before them a sign or none. -/
inductive Spells : Text → Int → Prop
  | unsigned {digits : Text} {n : Nat} : Decimal digits n → Spells digits n
  | plus {digits : Text} {n : Nat} : Decimal digits n → Spells ('+' :: digits) n
  | minus {digits : Text} {n : Nat} : Decimal digits n → Spells ('-' :: digits) (-n)

theorem isDigit_digitChar {d : Nat} (small : d < 10) : isDigit d.digitChar = true := by
  rw [isDigit, Nat.toNat_digitChar_of_lt_ten small, Bool.and_eq_true, decide_eq_true_iff, decide_eq_true_iff]
  omega

theorem digitValue_digitChar {d : Nat} (small : d < 10) : digitValue d.digitChar = d :=
  Nat.toNat_digitChar_sub_48_of_lt_ten small

theorem exists_digitChar {c : Char} (digit : isDigit c = true) : ∃ d < 10, c = d.digitChar := by
  rw [isDigit, Bool.and_eq_true, decide_eq_true_iff, decide_eq_true_iff] at digit
  have small : c.toNat - 0x30 < 10 := by omega
  refine ⟨c.toNat - 0x30, small, Char.toNat_inj.1 ?_⟩
  rw [Nat.toNat_digitChar_of_lt_ten small]
  omega

theorem value_eq_ofDigitChars (digits : Text) : value digits = Nat.ofDigitChars 10 digits 0 := rfl

theorem value_cons (c : Char) (rest : Text) :
    value (c :: rest) = digitValue c * 10 ^ rest.length + value rest := by
  rw [value_eq_ofDigitChars, Nat.ofDigitChars_cons, Nat.ofDigitChars_eq_ofDigitChars_zero,
    ← value_eq_ofDigitChars, Nat.mul_zero, Nat.zero_add, Nat.mul_comm]
  rfl

/-- Digits stand for the number that is read from them, and nothing but digits does. -/
theorem decimal_iff {digits : Text} {n : Nat} :
    Decimal digits n ↔ digits ≠ [] ∧ digits.all isDigit = true ∧ value digits = n := by
  constructor
  · intro decimal
    induction decimal with
    | one small =>
      refine ⟨List.cons_ne_nil _ _, by simp [isDigit_digitChar small], ?_⟩
      rw [value_cons, digitValue_digitChar small]
      simp [value]
    | cons small _ ih =>
      obtain ⟨_, decimal, read⟩ := ih
      refine ⟨List.cons_ne_nil _ _, by simp [isDigit_digitChar small, decimal], ?_⟩
      rw [value_cons, digitValue_digitChar small, read]
  · rintro ⟨nonempty, decimal, rfl⟩
    induction digits with
    | nil => exact absurd rfl nonempty
    | cons c rest ih =>
      rw [List.all_cons, Bool.and_eq_true] at decimal
      obtain ⟨d, small, rfl⟩ := exists_digitChar decimal.1
      rw [value_cons, digitValue_digitChar small]
      cases rest with
      | nil => simpa [value] using Decimal.one small
      | cons _ _ => exact .cons small (ih (List.cons_ne_nil _ _) decimal.2)

/-- A text spells an integer if digits are left of it without its sign; there is one such integer at most. -/
theorem spells_iff {text : Text} {code : Int} :
    Spells text code ↔ (splitSign text).2 ≠ [] ∧ (splitSign text).2.all isDigit = true ∧
      signed (splitSign text).1 (value (splitSign text).2) = code := by
  constructor
  · intro spells
    cases spells with
    | unsigned decimal =>
      obtain ⟨nonempty, digits, rfl⟩ := decimal_iff.1 decimal
      rw [splitSign_of_digits digits]
      exact ⟨nonempty, digits, rfl⟩
    | plus decimal =>
      obtain ⟨nonempty, digits, rfl⟩ := decimal_iff.1 decimal
      exact ⟨nonempty, digits, rfl⟩
    | minus decimal =>
      obtain ⟨nonempty, digits, rfl⟩ := decimal_iff.1 decimal
      exact ⟨nonempty, digits, rfl⟩
  · rintro ⟨nonempty, digits, rfl⟩
    have decimal := decimal_iff.2 ⟨nonempty, digits, rfl⟩
    rw [splitSign.eq_def] at decimal ⊢
    split at decimal
    · exact .minus decimal
    · exact .plus decimal
    · exact .unsigned decimal

theorem Spells.unique {text : Text} {one other : Int} (spells : Spells text one)
    (spells' : Spells text other) : one = other :=
  (spells_iff.1 spells).2.2.symm.trans (spells_iff.1 spells').2.2

theorem Decimal.zeros {digits : Text} {n : Nat} (decimal : Decimal digits n) (count : Nat) :
    Decimal (List.replicate count '0' ++ digits) n := by
  induction count with
  | zero => exact decimal
  | succ count ih =>
    have longer := Decimal.cons (d := 0) (by decide) ih
    rwa [Nat.zero_mul, Nat.zero_add] at longer

theorem decimal_toDigits (n : Nat) : Decimal (Nat.toDigits 10 n) n := by
  refine decimal_iff.2 ⟨Nat.toDigits_ne_nil, List.all_eq_true.2 fun c inside => ?_, ?_⟩
  · exact Nat.isDigit_of_mem_toDigits (by decide) (by decide) inside
  · rw [value_eq_ofDigitChars, Nat.ofDigitChars_toDigits (by decide) (by decide)]

/-- The usual form of an integer spells it. -/
theorem spells_toString (code : Int) : Spells (toString code).toList code := by
  cases code with
  | ofNat n =>
    have usual : (toString (Int.ofNat n)).toList = Nat.toDigits 10 n := Nat.toList_repr
    rw [usual]
    exact .unsigned (decimal_toDigits n)
  | negSucc n =>
    have usual : (toString (Int.negSucc n)).toList = '-' :: Nat.toDigits 10 (n + 1) := by
      rw [Int.toString_eq_repr, Int.repr, String.toList_append, Nat.toList_repr]
      rfl
    rw [usual]
    exact .minus (decimal_toDigits (n + 1))

/-- A sign, zeros and the digits of a number spell this number, up to the sign. -/
theorem spells_padded {sign : Text} (signed : sign ∈ signs) (zeros n : Nat) :
    Spells (sign ++ (List.replicate zeros '0' ++ Nat.toDigits 10 n))
      (if sign = ['-'] then -(n : Int) else n) := by
  have padded := (decimal_toDigits n).zeros zeros
  rcases List.mem_cons.1 signed with rfl | signed
  · exact .unsigned padded
  · rcases List.mem_cons.1 signed with rfl | signed
    · exact .plus padded
    · rw [List.mem_singleton.1 signed]
      exact .minus padded

example : Spells "-007".toList (-7) :=
  @spells_padded ['-'] (by decide) 2 7

end ChainShell.Numeral
