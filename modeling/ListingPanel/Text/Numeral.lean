/-!
Unsigned numerals of 64 bits: an optional plus sign and one or more ASCII digits.
-/
namespace ListingPanel.Text

/-- The greatest number of 64 bits. -/
def maxWord : Nat := 18446744073709551615

inductive NumeralError where
  | empty
  | invalidDigit
  | tooLarge
  deriving DecidableEq, Repr

def NumeralError.message : NumeralError → String
  | .empty => "cannot parse integer from empty string"
  | .invalidDigit => "invalid digit found in string"
  | .tooLarge => "number too large to fit in target type"

/-- Continues a numeral whose digits so far make `n`. The first fault from the left is reported. -/
def digitsFrom (n : Nat) : List Char → Except NumeralError Nat
  | [] => .ok n
  | c :: r =>
    if !c.isDigit then .error .invalidDigit
    else
      let m := 10 * n + (c.toNat - '0'.toNat)
      if maxWord < m then .error .tooLarge else digitsFrom m r

def readNumeral : List Char → Except NumeralError Nat
  | [] => .error .empty
  | ['+'] => .error .invalidDigit
  | '+' :: r => digitsFrom 0 r
  | r => digitsFrom 0 r

theorem le_ofDigitChars (ds : List Char) (n : Nat) : n ≤ Nat.ofDigitChars 10 ds n := by
  induction ds generalizing n with
  | nil => simp
  | cons d ds ih =>
    rw [Nat.ofDigitChars_cons]
    have := ih (10 * n + (d.toNat - '0'.toNat))
    omega

/-- Digits read as their value, if it fits, and nothing else is read. -/
theorem digitsFrom_eq_ok_iff {ds : List Char} {n m : Nat} (hn : n ≤ maxWord) :
    digitsFrom n ds = .ok m ↔
      (∀ c ∈ ds, c.isDigit = true) ∧ Nat.ofDigitChars 10 ds n = m ∧ m ≤ maxWord := by
  induction ds generalizing n with
  | nil =>
    simp only [digitsFrom, Except.ok.injEq, Nat.ofDigitChars_nil]
    constructor
    · rintro rfl
      exact ⟨fun c hc => absurd hc List.not_mem_nil, rfl, hn⟩
    · exact fun h => h.2.1
  | cons d ds ih =>
    have hle := le_ofDigitChars ds (10 * n + (d.toNat - '0'.toNat))
    unfold digitsFrom
    rw [Nat.ofDigitChars_cons, List.forall_mem_cons]
    cases hd : d.isDigit with
    | false => simp
    | true =>
      simp only [Bool.not_true, Bool.false_eq_true, if_false, true_and]
      by_cases hfit : maxWord < 10 * n + (d.toNat - '0'.toNat)
      · rw [if_pos hfit]
        refine iff_of_false (by simp) ?_
        rintro ⟨-, rfl, hm⟩
        omega
      · rw [if_neg hfit, ih (by omega)]

theorem readNumeral_of_ne {c : Char} {ds : List Char} (hc : c ≠ '+') :
    readNumeral (c :: ds) = digitsFrom 0 (c :: ds) := by
  unfold readNumeral
  split <;> simp_all

/-- A numeral that starts with a digit has no sign. -/
theorem readNumeral_of_isDigit {c : Char} {ds : List Char} (hc : c.isDigit = true) :
    readNumeral (c :: ds) = digitsFrom 0 (c :: ds) := by
  refine readNumeral_of_ne ?_
  rintro rfl
  exact absurd hc (by decide)

theorem isDigit_of_mem_toDigits {n : Nat} {c : Char} (h : c ∈ Nat.toDigits 10 n) :
    c.isDigit = true :=
  Nat.isDigit_of_mem_toDigits (by decide) (by decide) h

theorem toDigits_eq_cons (n : Nat) :
    ∃ c ds, Nat.toDigits 10 n = c :: ds ∧ c.isDigit = true := by
  cases hs : Nat.toDigits 10 n with
  | nil => exact absurd hs Nat.toDigits_ne_nil
  | cons c ds => exact ⟨c, ds, rfl, isDigit_of_mem_toDigits (n := n) (by simp [hs])⟩

/-- Only zero is written with a leading zero. -/
theorem toDigits_eq_cons_of_pos {n : Nat} (h : 0 < n) :
    ∃ c ds, Nat.toDigits 10 n = c :: ds ∧ c ≠ '0' := by
  induction n using Nat.strongRecOn with
  | ind n ih =>
    by_cases hn : n < 10
    · refine ⟨n.digitChar, [], Nat.toDigits_of_lt_base hn, ?_⟩
      have hall : ∀ m < 10, 0 < m → m.digitChar ≠ '0' := by decide
      exact hall n hn h
    · obtain ⟨c, ds, hs, hc⟩ := ih (n / 10) (by omega) (by omega)
      refine ⟨c, ds ++ [(n % 10).digitChar], ?_, hc⟩
      rw [Nat.toDigits_of_base_le (by decide) (by omega), hs, List.cons_append]

theorem readNumeral_toDigits {n : Nat} (h : n ≤ maxWord) :
    readNumeral (Nat.toDigits 10 n) = .ok n := by
  have hv : Nat.ofDigitChars 10 (Nat.toDigits 10 n) 0 = n := Nat.ofDigitChars_ten_toDigits
  obtain ⟨c, ds, hs, hc⟩ := toDigits_eq_cons n
  have hr : readNumeral (Nat.toDigits 10 n) = digitsFrom 0 (Nat.toDigits 10 n) := by
    rw [hs, readNumeral_of_isDigit hc]
  rw [hr, digitsFrom_eq_ok_iff (Nat.zero_le _)]
  exact ⟨fun c hc => isDigit_of_mem_toDigits hc, hv, h⟩

end ListingPanel.Text
