import ListingPanel.Proofs.Json.Strings

/-!
How layouts of documents begin and what they go on with, and what the first characters of a text
tell about what is laid out there.
-/
namespace ListingPanel.Json

variable {p : Part} {d : Document} {ds : List Document} {ms : List (List Char × Document)}
  {sp t cs rest : List Char} {first : Bool}

/-! ### How layouts begin and go on -/

theorem isSpace_of_isDigit {c : Char} (h : c.isDigit = true) : isSpace c = false := by
  by_contra hc
  simp only [isSpace, Bool.or_eq_true, decide_eq_true_eq, Bool.not_eq_false] at hc
  rcases hc with ((rfl | rfl) | rfl) | rfl <;> exact absurd h (by decide)

theorem WholeText.head (h : WholeText t) : ∃ c r, t = c :: r ∧ c.isDigit = true := by
  rcases h with rfl | ⟨⟨hne, hd⟩, -⟩
  · exact ⟨'0', [], rfl, rfl⟩
  · obtain ⟨c, r, rfl⟩ := List.exists_cons_of_ne_nil hne
    exact ⟨c, r, rfl, hd c List.mem_cons_self⟩

/-- A character that a scalar starts with. -/
def StartsScalar (c : Char) : Prop :=
  c.isDigit = true ∨ c = 'n' ∨ c = 't' ∨ c = 'f' ∨ c = '-' ∨ c = '"'

theorem ScalarText.head (h : ScalarText t) : ∃ c r, t = c :: r ∧ StartsScalar c := by
  cases h with
  | null => exact ⟨'n', _, rfl, by simp [StartsScalar]⟩
  | true => exact ⟨'t', _, rfl, by simp [StartsScalar]⟩
  | false => exact ⟨'f', _, rfl, by simp [StartsScalar]⟩
  | string h => exact ⟨'"', _, rfl, by simp [StartsScalar]⟩
  | number h =>
    obtain ⟨sign, w, f, e, hs, hw, -, -, rfl⟩ := h
    rcases hs with rfl | rfl
    · obtain ⟨c, r, rfl, hc⟩ := hw.head
      exact ⟨c, _, rfl, Or.inl hc⟩
    · exact ⟨'-', _, rfl, by simp [StartsScalar]⟩

/-- The characters that the layouts of a document start with. -/
def Document.Starts : Document → Char → Prop
  | .scalar _, c => StartsScalar c
  | .array _, c => c = '['
  | .object _, c => c = '\x7b'

theorem Document.Starts.isSpace {c : Char} (h : d.Starts c) : Json.isSpace c = false := by
  cases d with
  | scalar t =>
    rcases h with h | rfl | rfl | rfl | rfl | rfl
    · exact isSpace_of_isDigit h
    all_goals rfl
  | array ds => cases h; rfl
  | object ms => cases h; rfl

theorem StartsScalar.ne {c : Char} (h : StartsScalar c) : c ≠ ']' ∧ c ≠ '[' ∧ c ≠ '\x7b' := by
  rcases h with h | rfl | rfl | rfl | rfl | rfl
  · refine ⟨?_, ?_, ?_⟩ <;> rintro rfl <;> exact absurd h (by decide)
  all_goals decide

theorem Document.Starts.ne {c : Char} (h : d.Starts c) : c ≠ ']' := by
  cases d with
  | scalar t => exact StartsScalar.ne h |>.1
  | array ds => cases h; decide
  | object ms => cases h; decide

theorem Laid.starts (h : Laid (.value d) cs rest) :
    ∃ sp c r, Blank sp ∧ d.Starts c ∧ cs = sp ++ c :: r := by
  cases h with
  | @scalar sp t _ hs h =>
    obtain ⟨c, r, rfl, hc⟩ := h.head
    exact ⟨sp, c, r ++ rest, hs, hc, rfl⟩
  | array hs h => exact ⟨_, _, _, hs, rfl, rfl⟩
  | object hs h => exact ⟨_, _, _, hs, rfl, rfl⟩

/-- A string is laid out with its closing quote before what is left. -/
theorem Laid.string (hs : Blank sp) (h : StringText t) :
    Laid (.value (.scalar ('"' :: (t ++ ['"'])))) (sp ++ '"' :: (t ++ '"' :: rest)) rest := by
  have hscalar : Laid (.value (.scalar ('"' :: (t ++ ['"'])))) _ rest := .scalar hs (.string h)
  simpa using hscalar

/-- More blanks may stand before a value. -/
theorem Laid.blank (h : Laid (.value d) cs rest) (hs : Blank sp) :
    Laid (.value d) (sp ++ cs) rest := by
  cases h with
  | scalar hs' h => rw [← List.append_assoc]; exact .scalar (blank_append hs hs') h
  | array hs' h => rw [← List.append_assoc]; exact .array (blank_append hs hs') h
  | object hs' h => rw [← List.append_assoc]; exact .object (blank_append hs hs') h

theorem follows_comma (cs : List Char) : Follows (',' :: cs) := follows_cons (by decide) cs

theorem Laid.follows_items (h : Laid (.items false ds) cs rest) : Follows cs := by
  cases h with
  | noItem hs => exact (follows_cons (by decide) rest).blank hs
  | item hs h hr => exact (follows_comma _).blank hs

theorem Laid.follows_members (h : Laid (.members false ms) cs rest) : Follows cs := by
  cases h with
  | noMember hs => exact (follows_cons (by decide) rest).blank hs
  | member hs hs' ht hg h hr => exact (follows_comma _).blank hs

theorem Laid.length_lt (h : Laid p cs rest) : rest.length < cs.length := by
  induction h with
  | @scalar sp t rest hs h =>
    obtain ⟨c, r, rfl, -⟩ := h.head
    simp
    omega
  | array hs h ih => simp; omega
  | object hs h ih => simp; omega
  | noItem hs => simp; omega
  | item hs h hr ih ih' => simp; omega
  | noMember hs => simp; omega
  | member hs hs' ht hg h hr ih ih' => simp; omega

/-! ### What is laid out at the front of a text -/

theorem dropWhile_blank_cons (hs : Blank sp) {c : Char} (hc : isSpace c = false) (r : List Char) :
    (sp ++ c :: r).dropWhile isSpace = c :: r := by
  rw [dropWhile_blank hs, List.dropWhile_cons_of_neg (by simp [hc])]

theorem blank_cons_unique {sp' r r' : List Char} {c c' : Char} (hs : Blank sp)
    (hc : isSpace c = false) (hs' : Blank sp') (hc' : isSpace c' = false)
    (h : sp ++ c :: r = sp' ++ c' :: r') : c = c' ∧ r = r' := by
  have hd := congrArg (List.dropWhile isSpace) h
  rw [dropWhile_blank_cons hs hc, dropWhile_blank_cons hs' hc'] at hd
  exact List.cons.inj hd

theorem StringText.unique {t' r r' : List Char} (h : StringText t) (h' : StringText t')
    (heq : t ++ '"' :: r = t' ++ '"' :: r') : t = t' ∧ r = r' := by
  have hrun := run_skipStringBody h r
  rw [heq, run_skipStringBody h' r'] at hrun
  cases hrun
  exact ⟨List.append_cancel_right heq, rfl⟩

theorem Laid.of_blank {c : Char} {r : List Char} (h : Laid (.value d) (sp ++ c :: r) rest)
    (hs : Blank sp) (hc : isSpace c = false) : Laid (.value d) (c :: r) rest := by
  generalize hcs : sp ++ c :: r = cs at h
  cases h with
  | @scalar sp' t rest hs' h =>
    obtain ⟨c', r', rfl, hc'⟩ := h.head
    have hstart : (Document.scalar (c' :: r')).Starts c' := hc'
    obtain ⟨rfl, rfl⟩ := blank_cons_unique hs hc hs' hstart.isSpace hcs
    exact .scalar blank_nil h
  | array hs' h =>
    obtain ⟨rfl, rfl⟩ := blank_cons_unique hs hc hs' (by decide) hcs
    exact .array blank_nil h
  | object hs' h =>
    obtain ⟨rfl, rfl⟩ := blank_cons_unique hs hc hs' (by decide) hcs
    exact .object blank_nil h

theorem separator_cons_unique {sp₁ sp₂ gap₁ gap₂ r₁ r₂ : List Char} {c₁ c₂ : Char}
    (hs₁ : Blank sp₁) (hg₁ : Blank gap₁) (hc₁ : isSpace c₁ = false) (hs₂ : Blank sp₂)
    (hg₂ : Blank gap₂) (hc₂ : isSpace c₂ = false)
    (h : sp₁ ++ (separator first ++ (gap₁ ++ c₁ :: r₁)) =
      sp₂ ++ (separator first ++ (gap₂ ++ c₂ :: r₂))) : c₁ = c₂ ∧ r₁ = r₂ := by
  cases first with
  | true =>
    rw [separator, if_pos rfl, List.nil_append, List.nil_append, ← List.append_assoc,
      ← List.append_assoc] at h
    exact blank_cons_unique (blank_append hs₁ hg₁) hc₁
      (blank_append hs₂ hg₂) hc₂ h
  | false =>
    obtain ⟨-, h⟩ := blank_cons_unique hs₁ (by decide) hs₂ (by decide) h
    exact blank_cons_unique hg₁ hc₁ hg₂ hc₂ h

/-- What stands between brackets is told by the brackets; what stands after a separator, by it. -/
theorem Laid.of_array (h : Laid (.value (.array ds)) (sp ++ '[' :: cs) rest) (hs : Blank sp) :
    Laid (.items true ds) cs rest := by
  generalize htext : sp ++ '[' :: cs = text at h
  cases h with
  | array hs' h =>
    obtain ⟨-, rfl⟩ := blank_cons_unique hs (by decide) hs' (by decide) htext
    exact h

theorem Laid.of_object (h : Laid (.value (.object ms)) (sp ++ '\x7b' :: cs) rest)
    (hs : Blank sp) : Laid (.members true ms) cs rest := by
  generalize htext : sp ++ '\x7b' :: cs = text at h
  cases h with
  | object hs' h =>
    obtain ⟨-, rfl⟩ := blank_cons_unique hs (by decide) hs' (by decide) htext
    exact h

theorem Laid.of_scalar {c : Char} {r : List Char}
    (h : Laid (.value (.scalar t)) (sp ++ c :: r) rest) (hs : Blank sp)
    (hc : isSpace c = false) : c :: r = t ++ rest := by
  generalize htext : sp ++ c :: r = text at h
  cases h with
  | scalar hs' h =>
    obtain ⟨c', r', rfl, hc'⟩ := h.head
    have hstart : (Document.scalar (c' :: r')).Starts c' := hc'
    obtain ⟨rfl, rfl⟩ := blank_cons_unique hs hc hs' hstart.isSpace htext
    rfl

theorem Laid.of_noItem (h : Laid (.items first []) cs rest) :
    ∃ sp, Blank sp ∧ cs = sp ++ ']' :: rest := by
  cases h with
  | noItem hs => exact ⟨_, hs, rfl⟩

theorem Laid.of_noMember (h : Laid (.members first []) cs rest) :
    ∃ sp, Blank sp ∧ cs = sp ++ '\x7d' :: rest := by
  cases h with
  | noMember hs => exact ⟨_, hs, rfl⟩

theorem Laid.of_item {gap r : List Char} {c : Char}
    (h : Laid (.items first (d :: ds)) (sp ++ (separator first ++ (gap ++ c :: r))) rest)
    (hs : Blank sp) (hg : Blank gap) (hc : isSpace c = false) :
    ∃ cs', Laid (.value d) (gap ++ c :: r) cs' ∧ Laid (.items false ds) cs' rest := by
  generalize htext : sp ++ (separator first ++ (gap ++ c :: r)) = text at h
  cases h with
  | @item sp' cs cs' _ _ _ _ hs' h hds =>
    obtain ⟨gap', c', r', hg', hc', rfl⟩ := h.starts
    obtain ⟨rfl, rfl⟩ := separator_cons_unique hs hg hc hs' hg' hc'.isSpace htext
    exact ⟨cs', (h.of_blank hg' hc).blank hg, hds⟩

theorem Laid.of_member {sp' gap t' : List Char}
    (h : Laid (.members first ((t', d) :: ms))
      (sp ++ (separator first ++ (sp' ++ '"' :: (t ++ '"' :: (gap ++ ':' :: cs))))) rest)
    (hs : Blank sp) (hs' : Blank sp') (ht : StringText t) (hg : Blank gap) :
    t = t' ∧ ∃ cs', Laid (.value d) cs cs' ∧ Laid (.members false ms) cs' rest := by
  generalize htext : sp ++ (separator first ++ (sp' ++ '"' :: (t ++ '"' :: (gap ++ ':' :: cs)))) =
    text at h
  cases h with
  | @member _ _ _ _ _ cs' _ _ _ _ hs₂ hs₂' ht₂ hg₂ h hms =>
    obtain ⟨-, hrest⟩ := separator_cons_unique hs hs' (by decide) hs₂ hs₂' (by decide) htext
    obtain ⟨rfl, hcolon⟩ := ht.unique ht₂ hrest
    obtain ⟨-, rfl⟩ := blank_cons_unique hg (by decide) hg₂ (by decide) hcolon
    exact ⟨rfl, cs', h, hms⟩

theorem Laid.items_ne_end (h : Laid (.items first (d :: ds)) (sp ++ ']' :: cs) rest)
    (hs : Blank sp) : False := by
  generalize htext : sp ++ ']' :: cs = text at h
  cases h with
  | item hs' h hds =>
    obtain ⟨gap, c, r, hg, hc, rfl⟩ := h.starts
    cases first with
    | true =>
      rw [separator, if_pos rfl, List.nil_append, ← List.append_assoc] at htext
      exact hc.ne (blank_cons_unique hs (by decide) (blank_append hs' hg)
        hc.isSpace htext).1.symm
    | false => cases (blank_cons_unique hs (by decide) hs' (by decide) htext).1

theorem Laid.members_ne_end (h : Laid (.members first ((t, d) :: ms)) (sp ++ '\x7d' :: cs) rest)
    (hs : Blank sp) : False := by
  generalize htext : sp ++ '\x7d' :: cs = text at h
  cases h with
  | member hs' hg ht hgap h hms =>
    cases first with
    | true =>
      rw [separator, if_pos rfl, List.nil_append, ← List.append_assoc] at htext
      cases (blank_cons_unique hs (by decide) (blank_append hs' hg)
        (by decide) htext).1
    | false => cases (blank_cons_unique hs (by decide) hs' (by decide) htext).1

theorem Laid.starts_both {d' : Document} {rest' : List Char} (h : Laid (.value d) cs rest)
    (h' : Laid (.value d') cs rest') : ∃ c, d.Starts c ∧ d'.Starts c := by
  obtain ⟨sp, c, r, hs, hc, rfl⟩ := h.starts
  obtain ⟨sp', c', r', hs', hc', heq⟩ := h'.starts
  obtain ⟨rfl, -⟩ := blank_cons_unique hs hc.isSpace hs' hc'.isSpace heq
  exact ⟨c, hc, hc'⟩

end ListingPanel.Json
