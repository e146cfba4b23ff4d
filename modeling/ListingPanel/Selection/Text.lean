import ListingPanel.Selection
import ListingPanel.Text.Blank
import ListingPanel.Text.Numeral

/-!
Selections in writing: a line, or two lines with a colon between them. Lines count from 1.
-/
namespace ListingPanel

inductive LineFault where
  | zero
  | noNumeral (text : List Char) (e : Text.NumeralError)
  deriving DecidableEq, Repr

def LineFault.message : LineFault → String
  | .zero => "line numbers start at 1"
  | .noNumeral text e => "invalid line number '" ++ String.ofList text ++ "': " ++ e.message

namespace Selection

/-- Reads one line number; blanks around it do not count. -/
def readLine (cs : List Char) : Except LineFault Nat :=
  match Text.readNumeral (Text.trim cs) with
  | .ok 0 => .error .zero
  | .ok n => .ok n
  | .error e => .error (.noNumeral cs e)

/-- What stands before the first colon and after it. -/
def splitAtColon (cs : List Char) : List Char × Option (List Char) :=
  match cs.dropWhile (· ≠ ':') with
  | _ :: r => (cs.takeWhile (· ≠ ':'), some r)
  | [] => (cs, none)

def ofText (cs : List Char) : Except LineFault Selection := do
  match splitAtColon cs with
  | (a, some b) =>
    let a ← readLine a
    let b ← readLine b
    return { caret := b, ends := some (a, b) }
  | (a, none) => return { caret := ← readLine a }

end Selection

end ListingPanel
