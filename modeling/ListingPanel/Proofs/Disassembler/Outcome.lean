import ListingPanel.Proofs.Disassembler

/-!
What comes of an attempt at a listing, whatever the helper does and whatever goes wrong: what a run
delivers, or else always the same diagnostic. The directory made for it is gone afterwards.
-/
namespace ListingPanel

namespace Disassembler

open Machine (Leaves)

variable {launch : Launcher} {d : Disassembler} {m m₁ : Machine} {source : String} {dir t : Path}

/-- The interpreter of the toolchain runs the helper on a snapshot of the source text: how the run
goes, and the machine as it leaves it. -/
def Runs (launch : Launcher) (d : Disassembler) (m : Machine) (source : String) (t : Path)
    (run : Run) (left : Machine) : Prop :=
  ∃ dir helper snapshot m' i, d.prepare source m = .ok (dir, helper, snapshot) m' ∧
    Toolchain.executable? m'.files m'.directory t = some i ∧
    (launch m' i [helper, snapshot]).1 = run ∧
    { m' with files := (launch m' i [helper, snapshot]).2 (run.doneAt d.limit) } = left

theorem Runs.unique {run run' : Run} {left left' : Machine} (h : Runs launch d m source t run left)
    (h' : Runs launch d m source t run' left') : run = run' ∧ left = left' := by
  obtain ⟨dir, helper, snapshot, n, i, hp, hi, rfl, rfl⟩ := h
  obtain ⟨dir', helper', snapshot', n', i', hp', hi', rfl, rfl⟩ := h'
  cases hp.symm.trans hp'
  cases hi.symm.trans hi'
  exact ⟨rfl, rfl⟩

/-- The output of a run counts if it has one, and the directory is removed from what the run
leaves. -/
theorem Runs.produce_eq {run : Run} {left : Machine} (h : Runs launch d m source t run left) :
    ∃ dir m₁, m.makeScratch = .ok (dir, m₁) ∧ left.directory = m.directory ∧
      d.produce launch m source (some t) =
        (match run.outcome d.limit with
          | .error _ => Diagnostic.compilationError.text
          | .ok (_, o) => Text.Utf8.decodeLossy o,
        left.removeScratch dir) := by
  obtain ⟨dir, helper, snapshot, m', i, hp, hi, rfl, rfl⟩ := h
  obtain ⟨m₁, hm, hfill⟩ := fill_of_prepare hp
  refine ⟨dir, m₁, hm, (find?_of_leaves_fill hm (.inl ⟨_, hfill⟩)).1, ?_⟩
  unfold produce execute Run.doneAt
  rw [hp]
  dsimp only
  rw [hi]
  dsimp only
  cases (launch m' i [helper, snapshot]).1.outcome d.limit <;> rfl

end Disassembler

end ListingPanel
