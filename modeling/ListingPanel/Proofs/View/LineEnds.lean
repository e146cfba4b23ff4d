import ListingPanel.Proofs.View.Rendering
import ListingPanel.Proofs.View.Run

/-! Lines may end in a line feed, with a carriage return before it or without. It makes no
difference to the index of a listing or to what is shown of it. -/
namespace ListingPanel

/-! ### Texts -/

inductive LineEnd where
  | lineFeed
  | carriageReturn
  deriving DecidableEq, Repr

namespace LineEnd

def text : LineEnd → List Char
  | lineFeed => ['\n']
  | carriageReturn => ['\r', '\n']

/-- The text of lines, each with its end. -/
def terminate (e : LineEnd) (ls : List (List Char)) : List Char := ls.flatMap (· ++ e.text)

/-- There is no line feed in the line, and no carriage return at its end. -/
def FreeLine (l : List Char) : Prop := '\n' ∉ l ∧ l.getLast? ≠ some '\r'

instance (l : List Char) : Decidable (FreeLine l) := inferInstanceAs (Decidable (_ ∧ _))

variable (e : LineEnd) {ls : List (List Char)}

theorem lines_terminate (hl : ∀ l ∈ ls, FreeLine l) : Text.lines (e.terminate ls) = ls := by
  induction ls with
  | nil => rfl
  | cons l ls ih =>
    obtain ⟨hn, hr⟩ := hl l List.mem_cons_self
    have hls := ih fun k hk => hl k (List.mem_cons_of_mem l hk)
    have ht : e.terminate (l :: ls) = l ++ (e.text ++ e.terminate ls) := List.append_assoc ..
    rw [ht]
    cases e with
    | lineFeed => exact (Text.lines_append_lineFeed hn hr _).trans (congrArg _ hls)
    | carriageReturn => exact (Text.lines_append_carriageReturn hn _).trans (congrArg _ hls)

/-- A beginning without the character `c` ends before it. -/
theorem isPrefixOf_append {p : List Char} {c : Char} (hc : c ∉ p) (l r : List Char) :
    p.isPrefixOf (l ++ c :: r) = p.isPrefixOf l := by
  induction p generalizing l with
  | nil => rfl
  | cons a p ih =>
    obtain ⟨ha, hp⟩ := not_or.mp (mt List.mem_cons.mpr hc)
    cases l with
    | nil =>
      rw [List.nil_append, List.isPrefixOf_cons_cons, beq_false_of_ne (Ne.symm ha)]
      rfl
    | cons b l => rw [List.cons_append, List.isPrefixOf_cons_cons, List.isPrefixOf_cons_cons, ih hp]

/-- What a text starts with, if it is on one line, its first line starts with. -/
theorem isPrefixOf_terminate {p : List Char} (hn : '\n' ∉ p) (hr : '\r' ∉ p)
    (ls : List (List Char)) : p.isPrefixOf (e.terminate ls) = p.isPrefixOf (ls.head?.getD []) := by
  cases ls with
  | nil => rfl
  | cons l ls =>
    have ht : e.terminate (l :: ls) = l ++ (e.text ++ e.terminate ls) := List.append_assoc ..
    rw [ht]
    cases e with
    | lineFeed => exact isPrefixOf_append hn l _
    | carriageReturn => exact isPrefixOf_append hr l _

theorem trim_terminate (ls : List (List Char)) :
    (Text.trim (e.terminate ls)).isEmpty = ls.all fun l => l.all Text.isBlank := by
  have he : ∀ c ∈ e.text, Text.isBlank c = true :=
    List.all_eq_true.mp (by cases e <;> decide)
  rw [Bool.eq_iff_iff, List.isEmpty_iff, Text.trim_eq_nil_iff]
  simp only [List.all_eq_true, terminate, List.mem_flatMap, List.mem_append]
  constructor
  · exact fun h l hl c hc => h c ⟨l, hl, Or.inl hc⟩
  · rintro h c ⟨l, hl, hc | hc⟩
    · exact h l hl c hc
    · exact he c hc

/-- Whether a text maps source lines is told by its lines. -/
theorem isUnmapped_terminate (ls : List (List Char)) :
    isUnmapped (e.terminate ls) =
      ((ls.all fun l => l.all Text.isBlank) || noPython.toList.isPrefixOf (ls.head?.getD []) ||
        (Diagnostic.detect? (ls.head?.getD [])).isSome) := by
  have hd : Diagnostic.detect? (e.terminate ls) = Diagnostic.detect? (ls.head?.getD []) := by
    refine congrArg (List.find? · Diagnostic.all) (funext fun d => ?_)
    exact e.isPrefixOf_terminate (by cases d <;> decide) (by cases d <;> decide) ls
  rw [isUnmapped, e.trim_terminate, e.isPrefixOf_terminate (by decide) (by decide), hd]

/-- Lines have one index, whichever way they end. -/
theorem ofText_terminate (e' : LineEnd) (hl : ∀ l ∈ ls, FreeLine l) :
    Index.ofText (e'.terminate ls) = Index.ofText (e.terminate ls) := by
  unfold Index.ofText
  rw [isUnmapped_terminate, isUnmapped_terminate, lines_terminate e hl, lines_terminate e' hl]

end LineEnd

/-! ### Surfaces -/

namespace Surface

/-- Two surfaces that differ at most in the text that they keep. -/
def SameButText (s s' : Surface) : Prop := ∃ t, s' = { s with text := t }

namespace SameButText
variable {s s' : Surface}

theorem plainLines (h : s.SameButText s') : s'.plainLines = s.plainLines := by
  obtain ⟨t, rfl⟩ := h
  rfl

theorem render (h : s.SameButText s') (y : Typography) (area : Area) (screen : Screen) :
    s'.render y area screen = s.render y area screen := by
  obtain ⟨t, rfl⟩ := h
  rfl

theorem act (h : s.SameButText s') (a : Action) : (s.act a).SameButText (s'.act a) := by
  obtain ⟨t, rfl⟩ := h
  cases a with
  | setText u => exact ⟨u, rfl⟩
  | add _ | clear | scrollTo _ | resize _ | place _ => exact ⟨t, rfl⟩

theorem run (h : s.SameButText s') (as : List Action) : (s.run as).SameButText (s'.run as) := by
  induction as generalizing s s' with
  | nil => exact h
  | cons a as ih => exact ih (h.act a)

theorem setText (h : s.SameButText s') (e e' : LineEnd) {ls : List (List Char)}
    (hl : ∀ l ∈ ls, LineEnd.FreeLine l) :
    (s.setText (String.ofList (e.terminate ls))).SameButText
      (s'.setText (String.ofList (e'.terminate ls))) := by
  obtain ⟨t, rfl⟩ := h
  refine ⟨String.ofList (e'.terminate ls), ?_⟩
  unfold Surface.setText
  rw [String.toList_ofList, String.toList_ofList, LineEnd.lines_terminate e hl,
    LineEnd.lines_terminate e' hl]

end SameButText

end Surface

/-! ### Views -/

namespace ListingView

/-- Two views that differ at most in the text that they keep. -/
def SameButText (v w : ListingView) : Prop := ∃ t, w = { v with surface.text := t }

/-- Two actions that are the same, but for how the lines of a text end. -/
inductive Action.SameButEnds : Action → Action → Prop where
  | refl (a : Action) : SameButEnds a a
  | setText (e e' : LineEnd) {ls : List (List Char)} (hl : ∀ l ∈ ls, LineEnd.FreeLine l) :
    SameButEnds (.setText (String.ofList (e.terminate ls)))
      (.setText (String.ofList (e'.terminate ls)))

namespace SameButText
variable {v w : ListingView}

theorem surface (h : v.SameButText w) : v.surface.SameButText w.surface := by
  obtain ⟨t, rfl⟩ := h
  exact ⟨t, rfl⟩

theorem setText (h : v.SameButText w) (e e' : LineEnd) {ls : List (List Char)}
    (hl : ∀ l ∈ ls, LineEnd.FreeLine l) :
    (v.setText (String.ofList (e.terminate ls))).SameButText
      (w.setText (String.ofList (e'.terminate ls))) := by
  obtain ⟨t, rfl⟩ := h
  have hs : v.clear.surface.SameButText { v.clear.surface with text := t } := ⟨t, rfl⟩
  obtain ⟨u, hu⟩ := hs.setText e e' hl
  refine ⟨u, ?_⟩
  unfold ListingView.setText
  rw [String.toList_ofList, String.toList_ofList, e.ofText_terminate e' hl]
  exact congrArg (fun s => ({ v.clear with surface := s, index := _ } : ListingView)) hu

theorem act (h : v.SameButText w) (a : Action) : (v.act a).SameButText (w.act a) := by
  obtain ⟨t, rfl⟩ := h
  cases a with
  | setText u => exact ⟨u, rfl⟩
  | highlight r =>
    refine ⟨t, ?_⟩
    simp only [ListingView.act, highlight_eq]
    rfl
  | follow r =>
    refine ⟨t, ?_⟩
    simp only [ListingView.act, follow_eq, highlight_eq]
    rfl
  | settle =>
    refine ⟨t, ?_⟩
    unfold ListingView.act ListingView.settle
    cases v.pending with
    | none => rfl
    | some q => dsimp only; split_ifs <;> rfl
  | clear | requestScroll _ | autoScroll _ | resize _ | scrollTo _ | place _ _ => exact ⟨t, rfl⟩

theorem act_ends (h : v.SameButText w) {a b : Action} (hab : a.SameButEnds b) :
    (v.act a).SameButText (w.act b) := by
  cases hab with
  | refl => exact h.act a
  | setText e e' hl => exact h.setText e e' hl

theorem run (h : v.SameButText w) {as bs : List Action}
    (hab : List.Forall₂ Action.SameButEnds as bs) : (v.run as).SameButText (w.run bs) := by
  induction hab generalizing v w with
  | nil => exact h
  | cons ha _ ih => exact ih (h.act_ends ha)

end SameButText

/-- Lines that end in line feeds and the same lines with carriage returns before these have one
index, and are the same lines on a surface. Whatever is done to two surfaces or views of them, they
highlight, print and draw the same, also if further texts differ in this way. -/
theorem run_lineEnds {ls : List (List Char)} (hl : ∀ l ∈ ls, LineEnd.FreeLine l) :
    let a := String.ofList (LineEnd.lineFeed.terminate ls)
    let b := String.ofList (LineEnd.carriageReturn.terminate ls)
    Index.ofText b.toList = Index.ofText a.toList ∧
    (∀ s : Surface, (s.setText a).lines = (ls.map String.ofList).toArray ∧
      (s.setText b).lines = (ls.map String.ofList).toArray ∧
      ∀ as, let x := (s.setText a).run as
        let y := (s.setText b).run as
        y.plainLines = x.plainLines ∧
        ∀ t area screen, y.render t area screen = x.render t area screen) ∧
    ∀ (v : ListingView) (as bs : List Action), List.Forall₂ Action.SameButEnds as bs →
      let x := (v.setText a).run as
      let y := (v.setText b).run bs
      y.index = x.index ∧ y.highlighted = x.highlighted ∧ y.top = x.top ∧ y.moves = x.moves ∧
      y.surface.plainLines = x.surface.plainLines ∧
      ∀ t area screen, y.surface.render t area screen = x.surface.render t area screen := by
  intro a b
  refine ⟨?_, fun s => ⟨?_, ?_, fun as => ?_⟩, fun v as bs hab => ?_⟩
  · rw [String.toList_ofList, String.toList_ofList]
    exact LineEnd.lineFeed.ofText_terminate .carriageReturn hl
  · unfold Surface.setText
    rw [String.toList_ofList, LineEnd.lines_terminate _ hl]
  · unfold Surface.setText
    rw [String.toList_ofList, LineEnd.lines_terminate _ hl]
  · have hs : s.SameButText s := ⟨s.text, rfl⟩
    have hrun := (hs.setText .lineFeed .carriageReturn hl).run as
    exact ⟨hrun.plainLines, hrun.render⟩
  · have hv : v.SameButText v := ⟨v.surface.text, rfl⟩
    have hrun := (hv.setText .lineFeed .carriageReturn hl).run hab
    obtain ⟨t, ht⟩ := id hrun
    dsimp only
    refine ⟨?_, ?_, ?_, ?_, hrun.surface.plainLines, hrun.surface.render⟩ <;> rw [ht] <;> rfl

/-- A number that ends its line opens no block, though a carriage return follows it. -/
theorem run_lineEnds_bare_number :
    let ls := ["  2\tA".toList, "7".toList, [], " No file".toList]
    let v := (blank 2 ⟨0, 0, 255⟩ true).setText
      (String.ofList (LineEnd.carriageReturn.terminate ls))
    (∀ l ∈ ls, LineEnd.FreeLine l) ∧ v.index.blocks = #[⟨2, 0, 3⟩] ∧
      (v.run [.follow (.single 7), .settle]).highlighted = [(0, 3)] ∧
      (v.run [.follow (.single 7), .settle]).surface.plainLines =
        [(true, ">   2\tA"), (true, "> 7")] := by
  intro ls v
  have hl : ∀ l ∈ ls, LineEnd.FreeLine l := by decide
  obtain ⟨-, -, hviews⟩ := run_lineEnds hl
  obtain ⟨-, hh, -, -, hp, -⟩ := hviews (blank 2 ⟨0, 0, 255⟩ true)
    [.follow (.single 7), .settle] _ (.cons (.refl _) (.cons (.refl _) .nil))
  obtain ⟨hi₀, -⟩ := hviews (blank 2 ⟨0, 0, 255⟩ true) [] [] .nil
  refine ⟨hl, (congrArg Index.blocks hi₀).trans ?_, hh.trans ?_, hp.trans ?_⟩
  · decide +kernel
  · decide +kernel
  · decide +kernel

end ListingView

end ListingPanel
