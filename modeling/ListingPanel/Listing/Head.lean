import ListingPanel.Text.Blank
import ListingPanel.Text.DecimalDigit
import ListingPanel.Text.Numeral

/-!
Heads: the display lines that open a block. A head is blanks, a source line number, a blank, and
anything.
-/
namespace ListingPanel.Listing

open Text

/-- The longest run of decimal digits after the leading blanks. -/
def headDigits (line : List Char) : List Char :=
  (line.dropWhile isBlank).takeWhile isDecimalDigit

/-- The source line that a head names. The number must be written in ASCII digits and fit in 64
bits, and a blank must follow it. -/
def headNumber? (line : List Char) : Option Nat :=
  let body := line.dropWhile isBlank
  match body.dropWhile isDecimalDigit with
  | c :: _ =>
    if isBlank c then
      match headDigits line with
      | [] => none
      | ds => (readNumeral ds).toOption
    else none
  | [] => none

/-- No numeral is empty, so the run of digits need not be looked at before it is read. -/
theorem headNumber?_eq (line : List Char) :
    headNumber? line =
      if ((line.dropWhile isBlank).dropWhile isDecimalDigit).head?.any isBlank then
        (readNumeral (headDigits line)).toOption
      else none := by
  unfold headNumber?
  dsimp only
  cases (line.dropWhile isBlank).dropWhile isDecimalDigit with
  | nil => rfl
  | cons c r =>
    rw [List.head?_cons, Option.any_some]
    cases headDigits line <;> rfl

end ListingPanel.Listing
