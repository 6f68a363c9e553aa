import P4dra.Library.Hex

/-
  Decimal text of a fixed width.

  `padded` writes the digits of a number after as many zeros
  as the width asks for, as `printf("%0*d")` does. The text of
  a number that fits has exactly the width, and no two numbers
  have one text.

  Main declarations:
    * `Decimal.padded`
    * `Decimal.length_padded`
    * `Decimal.padded_injective`
    * `Decimal.isDigit_hex`
-/

------------------------------------------------------------
-- Numbers
------------------------------------------------------------

namespace Decimal

/- The digits of a number behind zeros. -/
def padded (width n : Nat) : List Char :=
  List.replicate (width - (Nat.toDigits 10 n).length) '0' ++
    Nat.toDigits 10 n

theorem length_padded
    {width n : Nat}
    (hWidth : 0 < width)
    (hRoom : n < 10 ^ width) :
    (padded width n).length = width := by
  have hDigits : (Nat.toDigits 10 n).length ≤ width :=
    (Nat.length_toDigits_le_iff (by omega) hWidth).mpr hRoom
  rw [padded, List.length_append, List.length_replicate]
  omega

/- What the digits say is the number, whatever the width. -/
theorem ofDigitChars_padded
    (width n : Nat) :
    Nat.ofDigitChars 10 (padded width n) 0 = n := by
  rw [padded, Nat.ofDigitChars_append,
    Nat.ofDigitChars_replicate_zero, Nat.mul_zero,
    Nat.ofDigitChars_toDigits (by omega) (by omega)]

theorem padded_injective
    (width : Nat) :
    Function.Injective (padded width) := by
  intro n m hSame
  have hValue :=
    congrArg (fun text => Nat.ofDigitChars 10 text 0) hSame
  simpa only [ofDigitChars_padded] using hValue

theorem isDigit_of_mem_padded
    {width n : Nat}
    {c : Char}
    (hMem : c ∈ padded width n) :
    c.isDigit := by
  rcases List.mem_append.mp hMem with hZero | hDigit
  · rw [List.eq_of_mem_replicate hZero]
    rfl
  · exact Nat.isDigit_of_mem_toDigits (by omega) (by omega)
      hDigit

------------------------------------------------------------
-- Characters
------------------------------------------------------------

theorem toNat_of_isDigit
    {c : Char}
    (hDigit : c.isDigit) :
    '0'.toNat ≤ c.toNat ∧ c.toNat ≤ '9'.toNat := by
  rw [Char.isDigit, Bool.and_eq_true, decide_eq_true_iff,
    decide_eq_true_iff] at hDigit
  exact hDigit

/- A decimal digit is a hexadecimal digit. -/
theorem isDigit_hex
    {c : Char}
    (hDigit : c.isDigit) :
    Hex.IsDigit c := by
  unfold Hex.IsDigit Hex.digitValue?
  rw [if_pos (toNat_of_isDigit hDigit)]
  rfl

/- A decimal digit has no case. -/
theorem toLower_of_isDigit
    {c : Char}
    (hDigit : c.isDigit) :
    c.toLower = c := by
  have hRange := (toNat_of_isDigit hDigit).2
  have hUpper : ¬ 'A'.toNat ≤ c.toNat := by
    intro hLetter
    have hGap : '9'.toNat < 'A'.toNat := by decide
    omega
  have hNot : ¬ (c.val ≥ 'A'.val ∧ c.val ≤ 'Z'.val) := by
    rintro ⟨hLetter, _⟩
    exact hUpper hLetter
  exact dif_neg hNot

end Decimal
