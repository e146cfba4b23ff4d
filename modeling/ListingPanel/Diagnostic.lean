import ListingPanel.Text.Blank

/-!
Texts that a panel shows in place of a listing.
-/
namespace ListingPanel

inductive Diagnostic where
  | noToolchain
  | noFile
  | notSourceFile
  | noDocument
  | compilationError
  deriving DecidableEq, Repr

namespace Diagnostic

def text : Diagnostic → String
  | noToolchain => "No Python SDK"
  | noFile => "No file"
  | notSourceFile => "No Python file"
  | noDocument => "Cannot get document"
  | compilationError => "Compilation error"

def all : List Diagnostic := [noToolchain, noFile, notSourceFile, noDocument, compilationError]

/-- The first diagnostic that the text starts with. -/
def detect? (cs : List Char) : Option Diagnostic :=
  all.find? fun d => d.text.toList.isPrefixOf cs

end Diagnostic

/-- What every remark on a missing toolchain starts with. -/
def noPython : String := "No Python"

/-- A text that maps no source line: blank, or a diagnostic. -/
def isUnmapped (cs : List Char) : Bool :=
  (Text.trim cs).isEmpty || noPython.toList.isPrefixOf cs || (Diagnostic.detect? cs).isSome

/-- Diagnostics start with one of two letters. -/
theorem isUnmapped_cons_eq_false {c : Char} {cs : List Char} (hc : c ≠ 'C') (hn : c ≠ 'N')
    {b : Char} (hm : b ∈ c :: cs) (hb : Text.isBlank b = false) :
    isUnmapped (c :: cs) = false := by
  have ht : (Text.trim (c :: cs)).isEmpty = false := by
    simpa using Text.trim_ne_nil hm hb
  have hp : ∀ ds : List Char, ds.head? = some 'C' ∨ ds.head? = some 'N' →
      ds.isPrefixOf (c :: cs) = false := fun ds h => by
    cases ds with
    | nil => simp at h
    | cons d ds =>
      have hd : d ≠ c := by
        rintro rfl
        simp only [List.head?_cons, Option.some.injEq] at h
        exact h.elim hc hn
      rw [List.isPrefixOf_cons_cons, beq_false_of_ne hd, Bool.false_and]
  have hd : (Diagnostic.detect? (c :: cs)).isSome = false := by
    have hall : ∀ d : Diagnostic, d.text.toList.isPrefixOf (c :: cs) = false := fun d =>
      hp _ (by cases d <;> decide)
    simp [Diagnostic.detect?, hall]
  simp [isUnmapped, ht, hd, hp noPython.toList (by decide)]

end ListingPanel
