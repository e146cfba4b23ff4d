import ListingPanel.Path
import ListingPanel.Screen

/-!
The configuration of a panel.
-/
namespace ListingPanel

structure PythonConfig where
  /-- An interpreter, or the root of an installation. If there is none, one is looked for. -/
  interpreter : Option Path := none
  timeoutMs : Nat := 5000
  /-- A script that makes listings in place of the bundled one. -/
  helperScript : Option Path := none
  sourceExtensions : List String := ["py", "pyw"]
  deriving DecidableEq

structure PanelConfig where
  scrollToHighlight : Bool := true
  highlightColor : Color := ⟨38, 79, 120⟩
  deriving DecidableEq

structure Config where
  python : PythonConfig := {}
  panel : PanelConfig := {}
  deriving DecidableEq

/-- The letters A to Z in lower case; other characters stay. -/
def asciiLower (c : Char) : Char :=
  if 'A' ≤ c ∧ c ≤ 'Z' then Char.ofNat (c.toNat + 32) else c

def equalIgnoringCase (a b : String) : Bool := a.toList.map asciiLower = b.toList.map asciiLower

/-- Whether the path ends in one of the source extensions, in letters of either case. -/
def PythonConfig.isSourceFile (c : PythonConfig) (p : Path) : Bool :=
  p.extension?.any fun e => c.sourceExtensions.any (equalIgnoringCase · e)

/-- A listing needs some time. -/
def Config.isValid (c : Config) : Bool := c.python.timeoutMs ≠ 0

end ListingPanel
