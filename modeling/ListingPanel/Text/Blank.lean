/-!
White space: the characters with the Unicode property `White_Space`, and texts without the blanks
at their ends.
-/
namespace ListingPanel.Text

/-- Has the property `White_Space`. -/
def isBlank (c : Char) : Bool :=
  let n := c.toNat
  (0x09 ≤ n && n ≤ 0x0D) || n == 0x20 || n == 0x85 || n == 0xA0 || n == 0x1680 ||
    (0x2000 ≤ n && n ≤ 0x200A) || n == 0x2028 || n == 0x2029 || n == 0x202F || n == 0x205F ||
    n == 0x3000

theorem isBlank_of_isDigit {c : Char} (h : c.isDigit = true) : isBlank c = false := by
  simp only [Char.isDigit, Bool.and_eq_true, decide_eq_true_eq] at h
  have h₁ : 0x30 ≤ c.toNat := h.1
  have h₂ : c.toNat ≤ 0x39 := h.2
  simp only [isBlank, Bool.or_eq_false_iff, Bool.and_eq_false_iff, decide_eq_false_iff_not,
    beq_eq_false_iff_ne]
  omega

/-- The characters without the blanks at both ends. -/
def trim (cs : List Char) : List Char :=
  ((cs.dropWhile isBlank).reverse.dropWhile isBlank).reverse

/-- A character that is no blank stays. -/
theorem trim_ne_nil {cs : List Char} {c : Char} (hc : c ∈ cs) (hb : isBlank c = false) :
    trim cs ≠ [] := by
  have drop : ∀ {ds : List Char}, c ∈ ds → c ∈ ds.dropWhile isBlank := fun {ds} h => by
    rw [← List.takeWhile_append_dropWhile (p := isBlank) (l := ds), List.mem_append] at h
    refine h.resolve_left fun ht => ?_
    have hc := List.all_eq_true.mp List.all_takeWhile c ht
    simp [hb] at hc
  have hm : c ∈ trim cs :=
    List.mem_reverse.mpr (drop (List.mem_reverse.mpr (drop hc)))
  exact List.ne_nil_of_mem hm

theorem trim_eq_nil_iff {cs : List Char} : trim cs = [] ↔ ∀ c ∈ cs, isBlank c = true := by
  constructor
  · intro h c hc
    cases hb : isBlank c with
    | true => rfl
    | false => exact absurd h (trim_ne_nil hc hb)
  · intro h
    have hdrop : cs.dropWhile isBlank = [] := by
      induction cs with
      | nil => rfl
      | cons c cs ih =>
        rw [List.dropWhile_cons_of_pos (h c List.mem_cons_self)]
        exact ih fun d hd => h d (List.mem_cons_of_mem c hd)
    rw [trim, hdrop]
    rfl

end ListingPanel.Text
