import ListingPanel.CommandLine
import ListingPanel.Proofs.Disassembler
import ListingPanel.Proofs.Panel.Documents
import ListingPanel.Proofs.View.Window
import ListingPanel.Proofs.Workspace.Synchronization

/-! What the program prints of a listing. -/
namespace ListingPanel.CommandLine

open FileTree (follow_eq_walk openToWrite_of_follow readText_of_read walk_file walk_none)

variable (launch : Launcher) (m : Machine) (c : Config) (file : Path) (o : Options)

/-- What is selected: the caret is on line 1 unless the options say otherwise. -/
def selected : Selection := o.lines.getD { caret := 1 }

/-- The text for the file: its listing, or a diagnostic. -/
def listingText : String := ((ListingSource.ofConfig c).listing launch (host m c file o)).1.1

theorem selection?_host :
    (host m c file o).selection? Host.singleEditor = some (selected o) := by
  unfold host selected
  cases o.lines with
  | none => rfl
  | some s =>
    dsimp only
    rw [Host.selection?_setSelection, if_pos rfl]
    rfl

theorem host_parts : (host m c file o).activeEditor = some Host.singleEditor ∧
    (host m c file o).file = some file ∧ (host m c file o).machine = m ∧
    (host m c file o).documents = .onDisk := by
  unfold host
  cases o.lines <;> exact ⟨rfl, rfl, rfl, rfl⟩

theorem listingText_eq {t : Path} {source : String}
    (ht : (host m c file o).toolchain = some t) (hs : c.python.isSourceFile file = true)
    (hread : m.readText file = .ok source) : listingText launch m c file o =
      ((Disassembler.ofConfig c.python).produce launch m source (some t)).1 := by
  obtain ⟨-, hfile, hmachine, hdocuments⟩ := host_parts m c file o
  have hdoc : (host m c file o).document? file = some source := by
    unfold Host.document?
    rw [hdocuments, hmachine]
    dsimp only
    rw [hread]
    rfl
  have hsource : (ListingSource.ofConfig c).python.isSourceFile file = true := hs
  have hlisting := (ListingSource.ofConfig c).listing_eq launch (host m c file o)
  rw [ht, hfile] at hlisting
  dsimp only at hlisting
  rw [if_pos hsource, hdoc, hmachine] at hlisting
  exact congrArg Prod.fst hlisting

/-- The view right after the refresh, as high as `n` rows. -/
def refreshed (n : Nat) : ListingView :=
  (ListingView.blank n c.panel.highlightColor c.panel.scrollToHighlight).run
    [.clear, .setText (listingText launch m c file o), .follow (selected o).lines]

theorem view_panel :
    (panel launch m c file o).1.view = match o.height with
      | some n => (refreshed launch m c file o n).settle
      | none => ((refreshed launch m c file o 1).resize
          (max 1 (Text.lines (listingText launch m c file o).toList).length)).settle := by
  have hv : ∀ n, ((SyncedPanel.ofConfig c n).refresh launch 0 (host m c file o)).1.view =
      refreshed launch m c file o n := fun n =>
    SyncedPanel.view_refresh launch 0 (.ofConfig c n) (host m c file o) rfl
      (host_parts m c file o).1 (selection?_host m c file o)
  have hsize : (refreshed launch m c file o 1).surface.lines.size =
      (Text.lines (listingText launch m c file o).toList).length := by
    unfold refreshed
    simp [ListingView.run, ListingView.act, ListingView.setText, Surface.setText]
  unfold panel
  dsimp only
  cases o.height with
  | some n =>
    dsimp only [SyncedPanel.settle, Option.getD_some]
    rw [hv]
  | none =>
    dsimp only [SyncedPanel.settle, SyncedPanel.resize, Option.getD_none]
    rw [hv, hsize]

/-- A view of a text in `n` rows, with the blocks highlighted. -/
structure Displays (v : ListingView) (text : String) (bs : List Block) (color : Color) (n : Nat) :
    Prop where
  coherent : v.Coherent
  marks : v.Marks bs
  limited : v.surface.viewport.Limited
  text : v.surface.text = text
  color : v.surface.highlightColor = color
  height : v.surface.viewport.height = n

namespace Displays

variable {v : ListingView} {text : String} {bs : List Block} {color : Color} {n : Nat}

theorem resize (h : Displays v text bs color n) (k : Nat) :
    Displays (v.resize k) text bs color k :=
  ⟨h.coherent.act (.resize k), h.marks.act (.resize k), Viewport.limited_resize _ k, h.text,
    h.color, rfl⟩

/-- Whatever has been asked for, settling shows no less of the text. -/
theorem settle (h : Displays v text bs color n) : Displays v.settle text bs color n := by
  refine ⟨h.coherent.settle, h.marks.act .settle, ListingView.limited_settle h.limited, ?_, ?_, ?_⟩
  · rw [ListingView.settle_text, h.text]
  · rw [ListingView.settle_eq]
    exact h.color
  · rw [ListingView.height_settle, h.height]

end Displays

theorem displays_follow {v : ListingView} (hv : v.Reachable) (hm : v.Marks [])
    (hl : v.surface.viewport.Limited) (r : LineRange) :
    Displays (v.follow r) v.surface.text (v.index.blocksFor r) v.surface.highlightColor
      v.surface.viewport.height := by
  refine ⟨(hv.act (.follow r)).coherent, hm.act (.follow r), ?_, ListingView.follow_text v r, ?_,
    ?_⟩
  · rw [ListingView.follow_viewport]
    exact hl
  · rw [ListingView.follow_eq, ListingView.highlight_eq]
  · rw [ListingView.follow_viewport]

theorem displays_refreshed (n : Nat) :
    Displays (refreshed launch m c file o n) (listingText launch m c file o)
      ((Index.ofText (listingText launch m c file o).toList).blocksFor (selected o).lines)
      c.panel.highlightColor n :=
  displays_follow (((ListingView.Reachable.blank ..).act .clear).act (.setText _))
    ⟨rfl, .inl rfl⟩ (Viewport.limited_reset _ _) (selected o).lines

theorem displays_panel :
    Displays (panel launch m c file o).1.view (listingText launch m c file o)
      ((Index.ofText (listingText launch m c file o).toList).blocksFor (selected o).lines)
      c.panel.highlightColor
      (o.height.getD (max 1 (Text.lines (listingText launch m c file o).toList).length)) := by
  rw [view_panel]
  cases o.height with
  | some n => exact (displays_refreshed launch m c file o n).settle
  | none => exact ((displays_refreshed launch m c file o 1).resize _).settle

/-! ### Printing -/

/-- A line of a listing as it is printed: after a marker or a gutter, or colored in its place. -/
def rowText (colored : Bool) (color : Color) : Bool × String → String
  | (marked, line) =>
    if o.plain then (if marked then "> " else "  ") ++ line
    else if marked then (background colored color).1 ++ line ++ (background colored color).2
    else line

theorem printLine_eq (colored : Bool) (color : Color) (marked : Bool) (line : String) :
    printLine o colored color marked
        ((if marked then Surface.marker else Surface.gutter) ++ line) =
      rowText o colored color (marked, line) := by
  have hcut : ∀ lead : String, lead.toList.length = Surface.marker.length →
      String.ofList ((lead ++ line).toList.drop Surface.marker.length) = line := fun lead hl => by
    rw [String.toList_append, List.drop_left' hl, String.ofList_toList]
  unfold printLine rowText
  cases o.plain with
  | true => rfl
  | false =>
    cases marked with
    | true =>
      simp only [Bool.false_eq_true, if_false, if_true]
      rw [hcut Surface.marker (by decide)]
    | false =>
      simp only [Bool.false_eq_true, if_false]
      rw [hcut Surface.gutter (by decide)]

theorem Displays.printed {v : ListingView} {text : String} {bs : List Block} {color : Color}
    {n : Nat} (h : Displays v text bs color n) (colored : Bool) :
    CommandLine.printed o colored v.surface =
      (((ListingView.rows text bs).map (rowText o colored color)).drop v.surface.viewport.top).take
        n := by
  unfold CommandLine.printed
  rw [ListingView.plainLines_eq h.coherent h.marks, List.map_map, h.text, h.color, h.height,
    ← List.map_drop, ← List.map_take]
  exact List.map_congr_left fun r _ => printLine_eq o colored color r.1 r.2

/-- As many lines are printed as there are rows for, and all of them if there are enough. -/
theorem Displays.window {v : ListingView} {text : String} {bs : List Block} {color : Color}
    {n : Nat} (h : Displays v text bs color n) (colored : Bool) {lines : List String}
    (hl : lines = (ListingView.rows text bs).map (rowText o colored color)) :
    (∃ k, ((lines.drop k).take n).length = min n lines.length ∧
      CommandLine.printed o colored v.surface = (lines.drop k).take n) ∧
    (lines.length ≤ n → CommandLine.printed o colored v.surface = lines) := by
  have hp := h.printed o colored
  have hcount : v.surface.viewport.lineCount = lines.length := by
    rw [h.coherent.lineCount, h.coherent.lines, h.text, hl, List.length_map,
      ListingView.length_rows, List.size_toArray, List.length_map]
  have hlimited : v.surface.viewport.top ≤ lines.length - n := by
    rw [← hcount, ← h.height]
    exact h.limited
  rw [← hl] at hp
  constructor
  · refine ⟨v.surface.viewport.top, ?_, hp⟩
    rw [List.length_take, List.length_drop]
    omega
  · intro hn
    have htop : v.surface.viewport.top = 0 := by omega
    rw [hp, htop, List.drop_zero, List.take_of_length_le hn]

theorem showListing_eq {home : Path} {m' : Machine} (hlog : openLog m o = .ok m')
    (hconfig : loadConfig home m' o = .ok c) (hdump : o.dumpConfig = false) :
    showListing launch home m file o =
      { output := String.join ((printed o (isColored m')
          (panel launch m' c file o).1.view.surface).map (· ++ "\n"))
        machine := (panel launch m' c file o).2.machine } := by
  unfold showListing
  rw [hlog]
  dsimp only
  rw [hconfig]
  dsimp only
  rw [if_neg (by simp [hdump])]

/-- The program prints the lines of the text for the file, each once and in order, marked where they
are in a block for the selected lines; and if rows are given for them, as many lines in a row as
there are rows. -/
theorem output_listing {launch : Launcher} {home : Path} {m m' : Machine} {args : List String}
    {file : Path} {o : Options} {c : Config}
    (hargs : Request.ofArguments args = .ok (.listing file o)) (hlog : openLog m o = .ok m')
    (hconfig : loadConfig home m' o = .ok c) (hdump : o.dumpConfig = false) :
    let h := host m' c file o
    let text := ((ListingSource.ofConfig c).listing launch h).1.1
    let bs := (Index.ofText text.toList).blocksFor (o.lines.getD { caret := 1 }).lines
    let colors := background (isColored m') c.panel.highlightColor
    let lines := (ListingView.rows text bs).map fun (marked, line) =>
      if o.plain then (if marked then "> " else "  ") ++ line
      else if marked then colors.1 ++ line ++ colors.2
      else line
    let r := execute launch home m args
    r.code = 0 ∧ r.errors = "" ∧
    (o.height = none → r.output = String.join (lines.map (· ++ "\n"))) ∧
    (∀ n, o.height = some n → ∃ k, ((lines.drop k).take n).length = min n lines.length ∧
      r.output = String.join (((lines.drop k).take n).map (· ++ "\n"))) ∧
    ∀ t source, h.toolchain = some t → c.python.isSourceFile file = true →
      m'.readText file = .ok source →
        text = ((Disassembler.ofConfig c.python).produce launch m' source (some t)).1 := by
  intro h text bs colors lines r
  have hr : r = showListing launch home m file o := by
    change execute launch home m args = _
    rw [execute, hargs]
  obtain ⟨hwindow, hall⟩ :=
    (displays_panel launch m' c file o).window o (isColored m') (rfl : lines = _)
  have hcount : lines.length = (Text.lines text.toList).length := by
    rw [List.length_map, ListingView.length_rows]
  rw [hr, showListing_eq launch m c file o hlog hconfig hdump]
  refine ⟨rfl, rfl, fun hh => ?_, fun n hh => ?_, fun t source ht hs hread => ?_⟩
  · have hroom : lines.length ≤
        o.height.getD (max 1 (Text.lines (listingText launch m' c file o).toList).length) := by
      rw [hh, Option.getD_none, hcount]
      exact Nat.le_max_right _ _
    dsimp only
    rw [hall hroom]
  · rw [hh, Option.getD_some] at hwindow
    obtain ⟨k, hk, hprinted⟩ := hwindow
    dsimp only
    exact ⟨k, hk, by rw [hprinted]⟩
  · exact listingText_eq launch m' c file o ht hs hread

/-- A helper prints three lines, the last two of them for the selected one. -/
theorem output_listing_second_line :
    let listing := "  1 A\n  2 B\n    C\n"
    let launch := printing listing
    let m : Machine := { files := ⟨[
      (["py"], .file [] true), (["tmp"], .directory),
      (["x.py"], .file (Text.Utf8.encode "a = 1\nb = 2\n") false)]⟩ }
    let r := execute launch ⟨"/home"⟩ m
      ["--plain", "--python", "/py", "--log-file=/log", "--lines", "2", "/x.py"]
    r.code = 0 ∧ r.output = "    1 A\n>   2 B\n>     C\n" := by
  intro listing launch m r
  let o : Options := {
    lines := some { caret := 2 }, python := some ⟨"/py"⟩, logFile := some ⟨"/log"⟩, plain := true }
  let c : Config := { python.interpreter := some ⟨"/py"⟩ }
  have hargs : Request.ofArguments
      ["--plain", "--python", "/py", "--log-file=/log", "--lines", "2", "/x.py"] =
        .ok (.listing ⟨"/x.py"⟩ o) := by
    decide +kernel
  -- the log is opened, and there is no configuration
  have hvacant : m.files.follow [] ⟨"/log"⟩ = .ok (.vacant [] "log") :=
    (follow_eq_walk (by decide +kernel) (by decide)).trans (walk_none (by decide) rfl [])
  obtain ⟨x, hopen⟩ := openToWrite_of_follow (by decide +kernel) hvacant rfl
  let m₀ : Machine := { m with files := m.files.put ["log"] (.file [] x) }
  have hlog : openLog m o = .ok m₀ := by
    unfold openLog logFile
    dsimp only [o, Option.getD_some]
    rw [hopen]
    rfl
  have hconfig : loadConfig ⟨"/home"⟩ m₀ o = .ok c := by
    have hpath : Environment.configFile [] ⟨"/home"⟩ =
        ⟨"/home/.config/bytesight/config.json"⟩ := by
      decide +kernel
    have hnone : m₀.files.follow [] ⟨"/home/.config/bytesight/config.json"⟩ = .error .notFound :=
      (follow_eq_walk (by decide +kernel) (by decide)).trans
        (walk_none (n := "home") (by decide) rfl [".config", "bytesight", "config.json"])
    have hload : Config.loadOrDefault m₀.files [] (Environment.configFile [] ⟨"/home"⟩) = {} := by
      unfold Config.loadOrDefault Config.load FileTree.readText FileTree.read
      rw [hpath, hnone]
      rfl
    unfold loadConfig
    dsimp only [o]
    rw [hload]
    rfl
  -- the source is read, and the helper runs on it
  have hsource : m₀.readText ⟨"/x.py"⟩ = .ok "a = 1\nb = 2\n" := by
    have hfile : m₀.files.follow [] ⟨"/x.py"⟩ =
        .ok (.entry ["x.py"] (.file (Text.Utf8.encode "a = 1\nb = 2\n") false)) :=
      (follow_eq_walk (by decide +kernel) (by decide)).trans (walk_file (by decide) rfl)
    apply readText_of_read
    unfold FileTree.read
    dsimp only [m₀]
    rw [hfile]
    rfl
  have hready : Disassembler.Unhindered m₀ ⟨"/py"⟩ "py" := {
    temporary := if_pos (by decide : (Path.mk "/tmp").isAbsolute = true)
    tmp := rfl
    free := fun r => by
      rw [FileTree.get?_put (by decide), if_neg (by simp [Disassembler.scratch])]
      simp [m, Disassembler.scratch, FileTree.get?]
    sound := rfl
    steps := by decide +kernel
    text := by decide
    name := by decide
    file := ⟨_, _, rfl⟩ }
  have hproduce : ((Disassembler.ofConfig c.python).produce launch m₀ "a = 1\nb = 2\n"
      (some ⟨"/py"⟩)).1 = listing := by
    dsimp only [launch]
    rw [hready.produce_printing]
  obtain ⟨hcode, -, hall, -, htext⟩ := @output_listing launch _ _ _ _ _ _ _ hargs hlog hconfig rfl
  refine ⟨hcode, (hall rfl).trans ?_⟩
  have hblocks : (Index.ofText listing.toList).blocksFor (.single 2) = [⟨2, 1, 2⟩] := by
    rw [Index.blocksFor_of_ascending (by decide) (by decide)]
    decide
  rw [htext _ _ rfl (by decide +kernel) hsource, hproduce]
  change String.join (((ListingView.rows listing ((Index.ofText listing.toList).blocksFor
    (.single 2))).map _).map _) = _
  have hrows : ListingView.rows listing [⟨2, 1, 2⟩] =
      [(false, "  1 A"), (true, "  2 B"), (true, "    C")] := by
    decide +kernel
  rw [hblocks, hrows]
  rfl

end ListingPanel.CommandLine
