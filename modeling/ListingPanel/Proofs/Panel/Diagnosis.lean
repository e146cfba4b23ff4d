import ListingPanel.Proofs.Panel.Documents
import Mathlib.Data.List.TakeWhile

/-! Why there is no listing for what a host has selected, and which texts say so. -/
namespace ListingPanel

/-- What a helper puts out for a source text, if it can be run and the run goes well. -/
def Disassembler.output? (launch : Launcher) (d : Disassembler) (m : Machine) (source : String)
    (toolchain : Path) : Option String :=
  match d.prepare source m with
  | .error .. => none
  | .ok (_, helper, snapshot) m => (d.execute launch m toolchain helper snapshot).1

theorem Disassembler.produce_eq (launch : Launcher) (d : Disassembler) (m : Machine)
    (source : String) (toolchain : Path) :
    (d.produce launch m source (some toolchain)).1 =
      (d.output? launch m source toolchain).getD Diagnostic.compilationError.text := by
  unfold produce output?
  cases d.prepare source m <;> rfl

namespace ListingSource
variable (launch : Launcher) (s : ListingSource) (h : Host)

/-- The listing itself, if there is one. -/
def output? : Option String := do
  let toolchain ← h.toolchain
  let file ← h.file
  let source ← h.document? file
  s.disassembler.output? launch h.machine source toolchain

/-- Whether a diagnostic applies, taken by itself: whatever else is missing does not count. -/
def applies : Diagnostic → Bool
  | .noToolchain => h.toolchain.isNone
  | .noFile => h.file.isNone
  | .notSourceFile => !h.file.any s.python.isSourceFile
  | .noDocument => (h.file.bind h.document?).isNone
  | .compilationError => (s.output? launch h).isNone

/-- The first diagnostic that applies, if any does. -/
def diagnosis? : Option Diagnostic :=
  [.noToolchain, .noFile, .notSourceFile, .noDocument, .compilationError].find? (s.applies launch h)

/-- The text is that of the first diagnostic that applies, or none does and it is the listing. -/
theorem listing_text :
    (∀ d, s.diagnosis? launch h = some d → (s.listing launch h).1.1 = d.text) ∧
    (s.diagnosis? launch h = none → s.output? launch h = some (s.listing launch h).1.1) := by
  rw [listing_eq]
  unfold diagnosis?
  cases ht : h.toolchain with
  | none => simp [applies, ht]
  | some t =>
    cases hf : h.file with
    | none => simp [applies, ht, hf]
    | some f =>
      cases hs : s.python.isSourceFile f with
      | false => simp [applies, ht, hf, hs]
      | true =>
        cases hd : h.document? f with
        | none => simp [applies, ht, hf, hs, hd]
        | some source =>
          have ho : s.output? launch h = s.disassembler.output? launch h.machine source t := by
            simp [output?, ht, hf, hd]
          cases hr : s.disassembler.output? launch h.machine source t with
          | none => simp [applies, ht, hf, hs, hd, ho, hr, Disassembler.produce_eq]
          | some text => simp [applies, ht, hf, hs, hd, ho, hr, Disassembler.produce_eq]

end ListingSource

/-- Blank texts map no source line, nor do texts that begin like a diagnostic. -/
theorem isUnmapped_iff {cs : List Char} :
    isUnmapped cs = true ↔ (∀ c ∈ cs, Text.isBlank c = true) ∨ noPython.toList <+: cs ∨
      ∃ d : Diagnostic, d.text.toList <+: cs := by
  have hblank : (Text.trim cs).isEmpty = true ↔ ∀ c ∈ cs, Text.isBlank c = true := by
    rw [List.isEmpty_iff, Text.trim_eq_nil_iff]
  have hdetect : (Diagnostic.detect? cs).isSome = true ↔
      ∃ d : Diagnostic, d.text.toList <+: cs := by
    have hall : ∀ d : Diagnostic, d ∈ Diagnostic.all := fun d => by cases d <;> decide
    unfold Diagnostic.detect?
    simp only [List.find?_isSome, List.isPrefixOf_iff_prefix, hall, true_and]
  unfold isUnmapped
  rw [Bool.or_eq_true, Bool.or_eq_true, hblank, hdetect, List.isPrefixOf_iff_prefix, or_assoc]

theorem isUnmapped_text (d : Diagnostic) : isUnmapped d.text.toList = true :=
  isUnmapped_iff.mpr (Or.inr (Or.inr ⟨d, List.prefix_rfl⟩))

end ListingPanel
