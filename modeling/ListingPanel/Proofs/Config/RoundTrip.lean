import ListingPanel.CommandLine
import ListingPanel.Proofs.Config.Meaning

/-!
A configuration is read back from its text.
-/
namespace ListingPanel

open Json

namespace Config

variable {c : Config}

theorem ofText_text_append (hpos : 1 ≤ c.python.timeoutMs)
    (hword : c.python.timeoutMs ≤ Text.maxWord) {sp : List Char} (hs : Blank sp) :
    ofText (c.text ++ String.ofList sp) = .ok c := by
  have hv : c.isValid = true := by
    simp [isValid]
    omega
  exact ofText_eq_ok_iff.mpr ⟨hv, _, c.toValue.laid_text hs, means_toValue hword⟩

/-- A configuration is read from its text; it is loaded from a file that it has been saved to,
where something else than a file may keep nothing; and it is read from what is printed of it. -/
theorem load_save (hpos : 1 ≤ c.python.timeoutMs) (hword : c.python.timeoutMs ≤ Text.maxWord) :
    ofText c.text = .ok c ∧
    (∀ {t t' : FileTree} {here l : Location} {p : Path} {b : List UInt8} {x : Bool},
      c.save t here p = .ok t' → t'.find? here p = some (l, .file b x) →
        load t' here p = .ok c) ∧
    ∀ (launch : Launcher) (home : Path) {m m' : Machine} (file : Path) {o : CommandLine.Options},
      CommandLine.openLog m o = .ok m' → CommandLine.loadConfig home m' o = .ok c →
        o.dumpConfig = true →
          (CommandLine.showListing launch home m file o).output = c.text ++ "\n" ∧
            ofText (CommandLine.showListing launch home m file o).output = .ok c := by
  have htext : ofText c.text = .ok c := by
    simpa using ofText_text_append hpos hword blank_nil
  refine ⟨htext, ?_, ?_⟩
  · intro t t' here l p b x hsave hfile
    have hwrite : t.write here p (Text.Utf8.encode c.text) = .ok t' := by
      unfold save at hsave
      cases hw : t.write here p (Text.Utf8.encode c.text) with
      | error f => rw [hw] at hsave; cases hsave
      | ok t₁ => rw [hw] at hsave; cases hsave; rfl
    exact (load_of_read (FileTree.read_write hwrite hfile)).trans htext
  · intro launch home m m' file o hlog hconfig hdump
    have hout : (CommandLine.showListing launch home m file o).output = c.text ++ "\n" := by
      unfold CommandLine.showListing
      rw [hlog]
      dsimp only
      rw [hconfig]
      dsimp only
      rw [if_pos hdump]
    refine ⟨hout, ?_⟩
    rw [hout]
    exact ofText_text_append hpos hword (blank_singleton rfl)

/-- Quotes, backslashes, control characters, an empty text and the greatest limit are kept: in a
file, and in what is printed of the configuration of that file. -/
theorem load_save_unusual :
    let c : Config := {
      python := {
        interpreter := some ⟨"\"\\\n\x01𝒳"⟩, timeoutMs := 18446744073709551615
        sourceExtensions := ["", "p\ty"] }
      panel := { scrollToHighlight := false, highlightColor := ⟨0, 255, 7⟩ } }
    let o : CommandLine.Options :=
      { config := some ⟨"/c"⟩, logFile := some ⟨"/log"⟩, dumpConfig := true }
    ofText c.text = .ok c ∧
    ∃ t, c.save {} [] ⟨"/c"⟩ = .ok t ∧ load t [] ⟨"/c"⟩ = .ok c ∧
      ∀ launch home file, ofText
        (CommandLine.showListing launch home { files := t } file o).output = .ok c := by
  intro c o
  obtain ⟨htext, hfile, hdump⟩ := load_save (c := c) (by decide) (by decide)
  have hc : FileTree.steps ⟨"/c"⟩ = (true, ["c"], false) := by decide +kernel
  have hl : FileTree.steps ⟨"/log"⟩ = (true, ["log"], false) := by decide +kernel
  have atC : ∀ t : FileTree, t.follow [] ⟨"/c"⟩ = t.walk false FileTree.maxLinks [] false ["c"] :=
    fun t => FileTree.follow_eq_walk hc (by decide)
  have atLog : ∀ t : FileTree,
      t.follow [] ⟨"/log"⟩ = t.walk false FileTree.maxLinks [] false ["log"] :=
    fun t => FileTree.follow_eq_walk hl (by decide)
  let bs := Text.Utf8.encode c.text
  obtain ⟨x, hwrite⟩ := FileTree.write_of_follow (by rw [hc])
    ((atC {}).trans (FileTree.walk_none (by decide) rfl [])) rfl bs
  let t : FileTree := FileTree.put {} ["c"] (.file bs x)
  have hsave : c.save {} [] ⟨"/c"⟩ = .ok t := by
    rw [save, hwrite]
    rfl
  have hget : t.get? ["c"] = some (.file bs x) := rfl
  have hfind : t.find? [] ⟨"/c"⟩ = some (["c"], .file bs x) := by
    unfold FileTree.find?
    rw [atC, FileTree.walk_file (by decide) hget]
    rfl
  refine ⟨htext, t, hsave, hfile hsave hfind, fun launch home file => ?_⟩
  obtain ⟨y, hopen⟩ := FileTree.openToWrite_of_follow (by rw [hl])
    ((atLog t).trans (FileTree.walk_none (by decide) rfl [])) rfl
  have hlog : CommandLine.openLog { files := t } o =
      .ok { files := t.put ["log"] (.file [] y) } := by
    unfold CommandLine.openLog CommandLine.logFile
    dsimp only [o, Option.getD_some]
    rw [hopen]
    rfl
  have hload : load (t.put ["log"] (.file [] y)) [] ⟨"/c"⟩ = .ok c := by
    have hkept : (t.put ["log"] (.file [] y)).get? ["c"] = some (.file bs x) := by
      rw [FileTree.get?_put (by decide), if_neg (by decide), hget]
    have hread : (t.put ["log"] (.file [] y)).read [] ⟨"/c"⟩ = .ok bs := by
      unfold FileTree.read
      rw [atC, FileTree.walk_file (by decide) hkept]
      rfl
    exact (load_of_read hread).trans htext
  have hconfig : CommandLine.loadConfig home { files := t.put ["log"] (.file [] y) } o =
      .ok c := by
    unfold CommandLine.loadConfig
    dsimp only [o]
    rw [hload]
    rfl
  exact (hdump launch home file hlog hconfig rfl).2

end Config

end ListingPanel
