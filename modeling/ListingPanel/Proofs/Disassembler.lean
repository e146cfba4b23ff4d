import ListingPanel.Proofs.Disassembler.Scratch
import ListingPanel.Proofs.Run

/-! Running the helper, where nothing is in its way. -/
namespace ListingPanel

namespace Disassembler

open FileTree (steps PlainName follow_eq_walk walk_directory walk_none walk_file)

variable {launch : Launcher} {d : Disassembler} {m m' : Machine}

/-- Where the helper is run from, if nothing is there yet. -/
def scratch : Location := ["tmp", "bytesight-000000"]

theorem makeScratch_of_free (hm : m.temporaryDirectory = ⟨"/tmp"⟩)
    (htmp : m.files.get? ["tmp"] = some .directory) (hfree : m.files.get? scratch = none) :
    m.files.follow m.directory ⟨"/tmp/bytesight-000000"⟩ true =
        .ok (.vacant ["tmp"] "bytesight-000000") ∧
      ∃ m₁, m.makeScratch = .ok (⟨"/tmp/bytesight-000000"⟩, m₁) := by
  have hdir : m.temporaryDirectory.join (Machine.scratchName 0) = ⟨"/tmp/bytesight-000000"⟩ := by
    rw [hm]
    decide +kernel
  have hvacant : ∀ keepLast, m.files.follow m.directory ⟨"/tmp/bytesight-000000"⟩ keepLast =
      .ok (.vacant ["tmp"] "bytesight-000000") := fun keepLast =>
    (follow_eq_walk (by decide +kernel) (by decide)).trans
      ((walk_directory (by decide) htmp _).trans (walk_none (by decide) hfree []))
  have hscratch := Machine.makeScratch_of_vacant fun keepLast => hdir.symm ▸ hvacant keepLast
  rw [hdir] at hscratch
  exact ⟨hvacant true, _, hscratch⟩

/-- The directory for a run can be made below `/tmp` and filled, and the interpreter is a file right
below the root. -/
structure Unhindered (m : Machine) (t : Path) (interpreter : String) : Prop where
  temporary : m.temporaryDirectory = ⟨"/tmp"⟩
  tmp : m.files.get? ["tmp"] = some .directory
  free : ∀ r, m.files.get? (scratch ++ r) = none
  sound : m.flaws = []
  steps : steps t = (true, [interpreter], false)
  text : ¬ t.text.isEmpty = true ∧ ¬ t.text.toList.contains (Char.ofNat 0) = true
  name : PlainName interpreter
  file : ∃ b x, m.files.get? [interpreter] = some (.file b x)

/-- Then the helper is started, and nothing has changed but the directory for the run. -/
theorem Unhindered.prepare_eq {t : Path} {interpreter : String} (h : Unhindered m t interpreter)
    (d : Disassembler) (source : String) :
    ∃ helper snapshot m',
      d.prepare source m = .ok (⟨"/tmp/bytesight-000000"⟩, helper, snapshot) m' ∧
      Machine.Grows scratch m m' ∧
      Toolchain.executable? m'.files m'.directory t = some t := by
  have hscratch : scratch ++ [] = scratch := List.append_nil _
  obtain ⟨hvacant, m₁, hmade⟩ := makeScratch_of_free h.temporary h.tmp (hscratch ▸ h.free [])
  obtain ⟨helper, m', hp, hg⟩ := prepare_of_makeScratch hvacant h.free d source
    (fun r => by rw [h.sound]; rfl) hmade
  refine ⟨helper, _, m', hp, hg, ?_⟩
  obtain ⟨b, x, hfile⟩ := h.file
  have hget : m'.files.get? [interpreter] = some (.file b x) := hg.keeps _ _ hfile
  unfold Toolchain.executable? FileTree.isFile FileTree.find?
  rw [follow_eq_walk h.steps h.text, walk_file h.name hget]
  rfl

end Disassembler

/-! ### Launchers -/

/-- Every program runs this way, and leaves the files as they are. -/
def running (run : Run) : Launcher := fun m _ _ => (run, fun _ => m.files)

/-- No program can be started. -/
def refusing : Launcher := running .refused

/-- A run that puts out bytes and is over at once. -/
def Run.brief (bytes : List UInt8) : Run :=
  .started {} (some (0, 0)) { bytes, closed := some 0 } { closed := some 0 }

theorem Run.delivers_brief (limit : Time) (bytes : List UInt8) :
    (brief bytes).Delivers limit bytes :=
  delivers_of_le ⟨rfl, fun _ => rfl⟩ (Nat.zero_le _) rfl (Nat.zero_le _) rfl (Nat.zero_le _)

/-- Every program prints the text. -/
def printing (text : String) : Launcher := running (.brief (Text.Utf8.encode text))

/-- Where nothing is in the way, the text is the listing, and afterwards all is as it was. -/
theorem Disassembler.Unhindered.produce_printing {m : Machine} {t : Path} {interpreter : String}
    (h : Unhindered m t interpreter) (d : Disassembler) (text source : String) :
    d.produce (printing text) m source (some t) = (text, m) := by
  obtain ⟨helper, snapshot, m', hp, -, hi⟩ := h.prepare_eq d source
  obtain ⟨m₁, hm, hfill⟩ := fill_of_prepare hp
  have hscratch : scratch ++ [] = scratch := List.append_nil _
  obtain ⟨hvacant, -⟩ := makeScratch_of_free h.temporary h.tmp (hscratch ▸ h.free [])
  have hgone := removeScratch_of_leaves_fill hvacant h.free hm (.inl ⟨_, hfill⟩)
  obtain ⟨time, hout⟩ := (Run.delivers_brief d.limit (Text.Utf8.encode text)).outcome_eq
  unfold produce execute printing running
  rw [hp]
  dsimp only
  rw [hi]
  dsimp only
  rw [hout]
  exact Prod.ext (Text.Utf8.decodeLossy_encode text) hgone

/-- A machine with nothing but an interpreter and a directory for short-lived ones. -/
def Machine.bare : Machine := { files := ⟨[(["py"], .file [] true), (["tmp"], .directory)]⟩ }

theorem unhindered_bare : Disassembler.Unhindered .bare ⟨"/py"⟩ "py" where
  temporary := by decide
  tmp := rfl
  free r := by simp [Machine.bare, Disassembler.scratch, FileTree.get?]
  sound := rfl
  steps := by decide +kernel
  text := by decide
  name := by decide
  file := ⟨_, _, rfl⟩

end ListingPanel
