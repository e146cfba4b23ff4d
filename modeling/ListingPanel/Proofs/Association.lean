import Mathlib.Data.List.Nodup

/-! Lists of pairs that are searched by their first parts. -/
namespace ListingPanel

variable {α β : Type} [BEq α] [LawfulBEq α] [DecidableEq α]

omit [DecidableEq α] in
theorem lookup_filter (l : List (α × β)) (p : α → Bool) (b : α) :
    (l.filter (p ·.1)).lookup b = if p b then l.lookup b else none := by
  induction l with
  | nil => simp
  | cons x l ih =>
    obtain ⟨c, y⟩ := x
    rw [List.filter_cons, List.lookup_cons]
    cases h : b == c with
    | false => cases p c <;> simp [ih, List.lookup_cons, h]
    | true =>
      rw [beq_iff_eq] at h
      subst h
      cases hb : p b <;> simp [ih, hb]

theorem lookup_filter_ne (l : List (α × β)) (a b : α) :
    (l.filter (·.1 != a)).lookup b = if b = a then none else l.lookup b := by
  rw [lookup_filter l (· != a)]
  by_cases h : b = a <;> simp [h]

/-- A pair put in front takes the place of those it agrees with in its first part. -/
theorem lookup_insert (l : List (α × β)) (a b : α) (v : β) :
    ((a, v) :: l.filter (·.1 != a)).lookup b = if b = a then some v else l.lookup b := by
  rw [List.lookup_cons, lookup_filter_ne]
  by_cases h : b = a
  · simp [h]
  · have hb : (b == a) = false := by simpa using h
    simp [h, hb]

/-- If no two pairs agree in their first parts, each is found by its own. -/
theorem lookup_eq_some_iff_mem {l : List (α × β)} (hl : (l.map (·.1)).Nodup) {a : α} {b : β} :
    l.lookup a = some b ↔ (a, b) ∈ l := by
  induction l with
  | nil => simp
  | cons x l ih =>
    obtain ⟨c, y⟩ := x
    obtain ⟨hc, hl⟩ := List.nodup_cons.mp hl
    rw [List.lookup_cons, List.mem_cons, Prod.mk.injEq]
    by_cases ha : a = c
    · subst ha
      have hn : (a, b) ∉ l := fun hm => hc (List.mem_map.mpr ⟨(a, b), hm, rfl⟩)
      simp [hn, eq_comm]
    · have hb : (a == c) = false := by simpa using ha
      simp [ha, hb, ih hl]

end ListingPanel
