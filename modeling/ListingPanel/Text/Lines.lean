/-!
Lines of a text. A line feed ends a line, together with a carriage return right before it; a last
line without a line feed counts unless it is empty.
-/
namespace ListingPanel.Text

/-- The lines of a text, without their ends. A carriage return elsewhere belongs to its line. -/
def lines : List Char → List (List Char)
  | [] => []
  | '\r' :: '\n' :: r => [] :: lines r
  | '\n' :: r => [] :: lines r
  | c :: r =>
    match lines r with
    | [] => [[c]]
    | l :: ls => (c :: l) :: ls

/-- A character that ends no line belongs to the next line, or to one of its own. -/
private theorem lines_cons {c : Char} {r : List Char} (hc : c ≠ '\n')
    (hr : c = '\r' → r.head? ≠ some '\n') :
    lines (c :: r) = match lines r with
      | [] => [[c]]
      | l :: ls => (c :: l) :: ls := by
  rw [lines.eq_def]
  split
  · contradiction
  · rename_i heq
    obtain ⟨rfl, rfl⟩ := List.cons.inj heq
    exact absurd rfl (hr rfl)
  · rename_i heq
    exact absurd (List.cons.inj heq).1 hc
  · rename_i heq
    obtain ⟨rfl, rfl⟩ := List.cons.inj heq
    rfl

/-- What stands before the first line feed is the first line. -/
theorem lines_append_lineFeed {l : List Char} (hl : '\n' ∉ l) (he : l.getLast? ≠ some '\r')
    (r : List Char) : lines (l ++ '\n' :: r) = l :: lines r := by
  induction l with
  | nil => simp [lines]
  | cons c l ih =>
    obtain ⟨hc, hl⟩ := not_or.mp (mt List.mem_cons.mpr hl)
    have hr : c = '\r' → (l ++ '\n' :: r).head? ≠ some '\n' := by
      rintro rfl
      cases l with
      | nil => exact absurd rfl he
      | cons d l => simpa using fun h : d = '\n' => hl (by simp [h])
    have he' : l.getLast? ≠ some '\r' := by
      cases l with
      | nil => simp
      | cons d l => simpa using he
    rw [List.cons_append, lines_cons (Ne.symm hc) hr, ih hl he']

/-- It is the first line as well if a carriage return stands between it and the line feed. -/
theorem lines_append_carriageReturn {l : List Char} (hl : '\n' ∉ l) (r : List Char) :
    lines (l ++ '\r' :: '\n' :: r) = l :: lines r := by
  induction l with
  | nil => simp [lines]
  | cons c l ih =>
    obtain ⟨hc, hl⟩ := not_or.mp (mt List.mem_cons.mpr hl)
    have hr : c = '\r' → (l ++ '\r' :: '\n' :: r).head? ≠ some '\n' := by
      rintro -
      cases l with
      | nil => simp
      | cons d l => simpa using fun h : d = '\n' => hl (by simp [h])
    rw [List.cons_append, lines_cons (Ne.symm hc) hr, ih hl]

theorem length_lines_le (cs : List Char) : (lines cs).length ≤ cs.length := by
  fun_induction lines cs with
  | case1 => exact Nat.le_refl 0
  | case2 r ih | case3 r ih =>
    simp only [List.length_cons]
    omega
  | case4 c r _ _ h ih | case5 c r _ _ l ls h ih =>
    rw [h] at ih
    simp only [List.length_cons, List.length_nil] at ih ⊢
    omega

end ListingPanel.Text
