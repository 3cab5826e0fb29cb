import ChainShell.Proofs.Number.Numeral
import ChainShell.Session
import Mathlib.Algebra.Group.Int.Defs

namespace ChainShell

/-- The integers of 32 bits with their sign. -/
def ExitRequest.InRange (code : Int) : Prop :=
  -(2 ^ 31) ≤ code ∧ code ≤ 2 ^ 31 - 1

theorem Numeral.length_toString_le {code : Int} (range : ExitRequest.InRange code) :
    (toString code).toList.length ≤ 11 := by
  obtain ⟨lower, upper⟩ := range
  have short {n : Nat} (small : n < 10 ^ 10) : (Nat.toDigits 10 n).length ≤ 10 :=
    (Nat.length_toDigits_le_iff (by decide) (by decide)).2 small
  rw [Int.toString_eq_repr, Int.repr_eq_if]
  split
  · rw [Nat.toList_repr]
    exact Nat.le_trans (short (by omega)) (by decide)
  · rw [String.toList_append, List.length_append, Nat.toList_repr]
    exact Nat.add_le_add (Nat.le_refl 1) (short (by omega))

namespace ExitRequest

/-- The one thing that `exit` does not survive is a numeral with too many digits, leading zeros
included. -/
theorem ofArgs_eq_fault_iff {args : List Text} {fault : Fault} :
    ofArgs args = .fault fault ↔ ∃ sign ∈ Numeral.signs, ∃ digits rest,
      args = (sign ++ digits) :: rest ∧ digits.all Numeral.isDigit = true ∧
        numeralLimit < digits.length ∧ fault = .numeralTooLong digits.length := by
  constructor
  · intro faulty
    cases args with
    | nil => cases faulty
    | cons argument rest =>
      obtain ⟨sign, signed, cut⟩ := Numeral.exists_sign argument
      rcases parts : Numeral.splitSign argument with ⟨negative, digits⟩
      rw [ofArgs, parts] at faulty
      rw [parts] at cut
      dsimp only at faulty
      split at faulty
      · cases faulty
      · rename_i numeral
        rw [Bool.not_eq_true, Bool.or_eq_false_iff] at numeral
        have decimal : digits.all Numeral.isDigit = true := by simpa using numeral.2
        split at faulty
        · rename_i long
          cases faulty
          exact ⟨sign, signed, digits, rest, by rw [cut], decimal, long, rfl⟩
        · split at faulty <;> cases faulty
  · rintro ⟨sign, signed, digits, rest, rfl, decimal, long, rfl⟩
    have nonempty : digits.isEmpty = false := by
      cases digits with
      | nil => exact absurd long (by decide)
      | cons _ _ => rfl
    rw [ofArgs, Numeral.splitSign_append signed decimal]
    simp only [nonempty, decimal, Bool.not_true, Bool.or_false, Bool.false_eq_true, if_false, if_pos long]

theorem range_of_code {args : List Text} {code : Int} (granted : ofArgs args = .code code) :
    -0x80000000 ≤ code ∧ code ≤ 0x7FFFFFFF := by
  cases args with
  | nil =>
    cases granted
    decide
  | cons argument rest =>
    rw [ofArgs] at granted
    dsimp only at granted
    split at granted
    · cases granted
    · split at granted
      · cases granted
      · split at granted
        · rename_i range
          cases granted
          exact range
        · cases granted

variable {argument : Text} {code : Int}

/-- What `exit` makes of a numeral that is not too long. -/
theorem ofArgs_of_spells (spells : Numeral.Spells argument code)
    (short : argument.countP Numeral.isDigit ≤ numeralLimit) (rest : List Text) :
    ofArgs (argument :: rest) =
      if exitCodeMin ≤ code ∧ code ≤ exitCodeMax then .code code else .error (.outOfRange argument) := by
  obtain ⟨nonempty, decimal, rfl⟩ := Numeral.spells_iff.1 spells
  obtain ⟨sign, -, cut⟩ := Numeral.exists_sign argument
  have within : (Numeral.splitSign argument).2.length ≤ numeralLimit := by
    have all := List.countP_eq_length.2 (List.all_eq_true.1 decimal)
    rw [cut, List.countP_append, all] at short
    exact Nat.le_trans (Nat.le_add_left _ _) short
  rw [ofArgs]
  simp only [List.isEmpty_eq_false_iff.2 nonempty, decimal, Bool.not_true, Bool.or_false,
    Bool.false_eq_true, if_false, if_neg (Nat.not_lt.2 within)]

theorem ofArgs_of_not_spells (unspelled : ∀ code, ¬ Numeral.Spells argument code) (rest : List Text) :
    ofArgs (argument :: rest) = .error (.notNumeral argument) := by
  rw [ofArgs]
  dsimp only
  split
  · rfl
  · rename_i numeral
    rw [Bool.not_eq_true, Bool.or_eq_false_iff, List.isEmpty_eq_false_iff, Bool.not_eq_false'] at numeral
    exact absurd (Numeral.spells_iff.2 ⟨numeral.1, numeral.2, rfl⟩) (unspelled _)

theorem ofArgs_eq_code_iff (short : argument.countP Numeral.isDigit ≤ numeralLimit) (rest : List Text) :
    ofArgs (argument :: rest) = .code code ↔ Numeral.Spells argument code ∧ InRange code := by
  by_cases spelled : ∃ other, Numeral.Spells argument other
  · obtain ⟨other, spells⟩ := spelled
    rw [ofArgs_of_spells spells short]
    constructor
    · intro granted
      split at granted
      · rename_i range
        cases granted
        exact ⟨spells, range⟩
      · cases granted
    · rintro ⟨spells', range⟩
      rw [spells.unique spells']
      exact if_pos range
  · have unspelled : ∀ other, ¬ Numeral.Spells argument other := not_exists.1 spelled
    rw [ofArgs_of_not_spells unspelled]
    constructor
    · intro granted
      cases granted
    · exact fun granted => absurd granted.1 (unspelled code)

/-- Without a code there is an error, which tells a number out of range from what is no number. -/
theorem exists_error (short : argument.countP Numeral.isDigit ≤ numeralLimit)
    (out : ∀ code, Numeral.Spells argument code → ¬ InRange code) : ∃ error : ArgumentError,
      (error = .notNumeral argument ↔ ∀ code, ¬ Numeral.Spells argument code) ∧
      (error = .outOfRange argument ↔ ∃ code, Numeral.Spells argument code) ∧
      ∀ rest, ofArgs (argument :: rest) = .error error := by
  by_cases spelled : ∃ code, Numeral.Spells argument code
  · refine ⟨.outOfRange argument, ?_, iff_of_true rfl spelled, fun rest => ?_⟩
    · exact iff_of_false (fun same => nomatch same) (fun unspelled => spelled.elim unspelled)
    · obtain ⟨code, spells⟩ := spelled
      exact (ofArgs_of_spells spells short rest).trans (if_neg (out code spells))
  · refine ⟨.notNumeral argument, iff_of_true rfl (not_exists.1 spelled), ?_, ?_⟩
    · exact iff_of_false (fun same => nomatch same) spelled
    · exact ofArgs_of_not_spells (not_exists.1 spelled)

end ExitRequest

end ChainShell
