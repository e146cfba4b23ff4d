import ListingPanel.Proofs.Json.Document

/-!
A string is read for what it spells, and a string that nobody needs is passed over: both up to the
first quote that no backslash stands before.
-/
namespace ListingPanel.Json

theorem hexDigit?_hexDigit {n : Nat} (h : n < 16) : hexDigit? (hexDigit n) = some n := by
  have hall : ∀ n < 16, hexDigit? (hexDigit n) = some n := by decide
  exact hall n h

theorem hasFourBytes_cons (a b c d : Char) (cs : List Char) :
    hasFourBytes (a :: b :: c :: d :: cs) = true := by
  have ha := a.utf8Size_pos
  have hb := b.utf8Size_pos
  have hc := c.utf8Size_pos
  have hd := d.utf8Size_pos
  simp only [hasFourBytes, List.take_succ_cons, List.take_zero, List.foldl_cons, List.foldl_nil]
  exact decide_eq_true (by omega)

section String

variable {kept : Bool} {c : Char} {cs s t rest : List Char}

/-- What is read with a character before it is read without it. -/
theorem of_prepend {e : Except Fault (List Char × List Char)}
    (h : (do let (s, rest) ← e; return (c :: s, rest)) = .ok (s, rest)) :
    ∃ s', s = c :: s' ∧ e = .ok (s', rest) := by
  cases e with
  | error f => cases h
  | ok p =>
    cases h
    exact ⟨p.1, rfl, rfl⟩

theorem stringFrom_nil (kept : Bool) (spot : Spot) :
    stringFrom kept spot [] = .error .endInString := by
  cases spot <;> rfl

theorem stringFrom_quote (kept : Bool) (rest : List Char) :
    stringFrom kept .text ('"' :: rest) = .ok ([], rest) := rfl

theorem stringFrom_plain (hq : c ≠ '"') (hb : c ≠ '\\') (hc : ¬ c.toNat < 0x20)
    (h : stringFrom kept .text cs = .ok (s, rest)) :
    stringFrom kept .text (c :: cs) = .ok (c :: s, rest) := by
  rw [stringFrom, if_neg hq, if_neg hb, if_neg hc, h]
  rfl

theorem stringFrom_short {e : Char} (he : unescape? e = some c)
    (h : stringFrom kept .text cs = .ok (s, rest)) :
    stringFrom kept .text ('\\' :: e :: cs) = .ok (c :: s, rest) := by
  have hu : e ≠ 'u' := by
    rintro rfl
    cases he
  rw [stringFrom, if_neg (by decide), if_pos rfl, stringFrom, if_neg hu, he]
  dsimp only
  rw [h]
  rfl

/-- Four digits are read for the number that they make. -/
theorem stringFrom_four {x₁ x₂ x₃ x₄ : Char} {n : Nat}
    (hn : hexValue? 0 [x₁, x₂, x₃, x₄] = some n) (high : Option Nat) (cs : List Char) :
    stringFrom kept (.digits high 4 0) (x₁ :: x₂ :: x₃ :: x₄ :: cs) =
      if !kept then stringFrom kept .text cs
      else
        match high with
        | some h =>
          if isTrailing n then do
            let (s, rest) ← stringFrom kept .text cs
            return (Char.ofNat (0x10000 + (h - 0xD800) * 0x400 + (n - 0xDC00)) :: s, rest)
          else throw .loneSurrogate
        | none =>
          if isTrailing n then throw .loneSurrogate
          else if isLeading n then stringFrom kept (.surrogate n) cs
          else do
            let (s, rest) ← stringFrom kept .text cs
            return (Char.ofNat n :: s, rest) := by
  simp only [hexValue?, Option.bind_eq_bind, Option.bind_eq_some_iff] at hn
  obtain ⟨a₁, h₁, a₂, h₂, a₃, h₃, a₄, h₄, hn⟩ := hn
  cases hn
  simp only [stringFrom, h₁, h₂, h₃, h₄]
  rfl

/-- An escape of four digits is read for the number that they make. -/
theorem stringFrom_unicode {x₁ x₂ x₃ x₄ : Char} {n : Nat}
    (hn : hexValue? 0 [x₁, x₂, x₃, x₄] = some n) (cs : List Char) :
    stringFrom kept .text ('\\' :: 'u' :: x₁ :: x₂ :: x₃ :: x₄ :: cs) =
      if !kept then stringFrom kept .text cs
      else if isTrailing n then throw .loneSurrogate
      else if isLeading n then stringFrom kept (.surrogate n) cs
      else do
        let (s, rest) ← stringFrom kept .text cs
        return (Char.ofNat n :: s, rest) := by
  rw [stringFrom, if_neg (by decide), if_pos rfl, stringFrom, if_pos rfl,
    if_pos (hasFourBytes_cons ..), stringFrom_four hn]

theorem stringFrom_pair {y₁ y₂ y₃ y₄ : Char} {m n : Nat}
    (hn : hexValue? 0 [y₁, y₂, y₃, y₄] = some n) (ht : isTrailing n = true)
    (h : stringFrom true .text cs = .ok (s, rest)) :
    stringFrom true (.surrogate m) ('\\' :: 'u' :: y₁ :: y₂ :: y₃ :: y₄ :: cs) =
      .ok (Char.ofNat (0x10000 + (m - 0xD800) * 0x400 + (n - 0xDC00)) :: s, rest) := by
  rw [stringFrom, if_pos rfl, stringFrom, if_pos rfl, if_pos (hasFourBytes_cons ..),
    stringFrom_four hn]
  dsimp only
  rw [if_neg (by decide), if_pos ht, h]
  rfl

/-- A string is read up to its closing quote, for what it spells. -/
theorem stringFrom_spells (h : Spells t s) (rest : List Char) :
    stringFrom true .text (t ++ '"' :: rest) = .ok (s, rest) := by
  induction h with
  | nil => exact stringFrom_quote true rest
  | plain hq hb hc _ ih => exact stringFrom_plain hq hb hc ih
  | short he _ ih => exact stringFrom_short he ih
  | unicode hn hl ht _ ih =>
    rw [List.cons_append, List.cons_append, List.cons_append, List.cons_append, List.cons_append,
      List.cons_append, stringFrom_unicode hn, ht, hl, ih]
    rfl
  | @pair _ _ _ _ _ _ _ _ m _ _ _ hm hl hn ht _ ih =>
    have htm : isTrailing m = false := by
      simp only [isLeading, isTrailing, Bool.and_eq_true, decide_eq_true_eq, Bool.and_eq_false_iff,
        decide_eq_false_iff_not] at hl ⊢
      omega
    simp only [List.cons_append]
    rw [stringFrom_unicode hm, htm, hl]
    exact stringFrom_pair hn ht ih

/-- A string is passed over up to its closing quote. -/
theorem stringFrom_stringText (h : StringText t) (rest : List Char) :
    ∃ s, stringFrom false .text (t ++ '"' :: rest) = .ok (s, rest) := by
  induction h with
  | nil => exact ⟨[], stringFrom_quote false rest⟩
  | plain hq hb hc _ ih =>
    obtain ⟨s, ih⟩ := ih
    exact ⟨_, stringFrom_plain hq hb hc ih⟩
  | short he _ ih =>
    obtain ⟨s, ih⟩ := ih
    exact ⟨_, stringFrom_short he ih⟩
  | unicode hn _ ih =>
    obtain ⟨s, ih⟩ := ih
    refine ⟨s, ?_⟩
    simp only [List.cons_append]
    rw [stringFrom_unicode hn]
    exact ih

theorem of_stringFrom_digit {high : Option Nat} {left value : Nat}
    (h : stringFrom kept (.digits high left value) cs = .ok (s, rest)) :
    ∃ x d r, cs = x :: r ∧ hexDigit? x = some d ∧ (1 < left →
      stringFrom kept (.digits high (left - 1) (16 * value + d)) r = .ok (s, rest)) := by
  cases cs with
  | nil => rw [stringFrom_nil] at h; cases h
  | cons x r =>
    rw [stringFrom] at h
    cases hx : hexDigit? x with
    | none => rw [hx] at h; cases h
    | some d =>
      refine ⟨x, d, r, rfl, hx, fun hl => ?_⟩
      rw [hx] at h
      dsimp only at h
      rwa [if_pos hl] at h

theorem of_stringFrom_four {high : Option Nat}
    (h : stringFrom kept (.digits high 4 0) cs = .ok (s, rest)) :
    ∃ x₁ x₂ x₃ x₄ n r, cs = x₁ :: x₂ :: x₃ :: x₄ :: r ∧
      hexValue? 0 [x₁, x₂, x₃, x₄] = some n := by
  obtain ⟨x₁, d₁, _, rfl, h₁, h⟩ := of_stringFrom_digit h
  obtain ⟨x₂, d₂, _, rfl, h₂, h⟩ := of_stringFrom_digit (h (by decide))
  obtain ⟨x₃, d₃, _, rfl, h₃, h⟩ := of_stringFrom_digit (h (by decide))
  obtain ⟨x₄, d₄, r, rfl, h₄, -⟩ := of_stringFrom_digit (h (by decide))
  refine ⟨x₁, x₂, x₃, x₄, 16 * (16 * (16 * (16 * 0 + d₁) + d₂) + d₃) + d₄, r, rfl, ?_⟩
  simp only [hexValue?, h₁, h₂, h₃, h₄, Option.bind_eq_bind, Option.bind_some]

/-- What a string starts with: its end, a character, a short escape or four digits. -/
theorem of_stringFrom_text (h : stringFrom kept .text cs = .ok (s, rest)) :
    cs = '"' :: rest ∧ s = [] ∨
    (∃ c r s', cs = c :: r ∧ c ≠ '"' ∧ c ≠ '\\' ∧ ¬ c.toNat < 0x20 ∧ s = c :: s' ∧
      stringFrom kept .text r = .ok (s', rest)) ∨
    (∃ e c r s', cs = '\\' :: e :: r ∧ unescape? e = some c ∧ s = c :: s' ∧
      stringFrom kept .text r = .ok (s', rest)) ∨
    ∃ r, cs = '\\' :: 'u' :: r ∧ stringFrom kept (.digits none 4 0) r = .ok (s, rest) := by
  cases cs with
  | nil => rw [stringFrom_nil] at h; cases h
  | cons c r =>
    rw [stringFrom] at h
    split_ifs at h with hq hb hc
    · cases h
      exact Or.inl ⟨by rw [hq], rfl⟩
    · subst hb
      refine Or.inr (Or.inr ?_)
      cases r with
      | nil => rw [stringFrom_nil] at h; cases h
      | cons e r =>
        rw [stringFrom] at h
        split_ifs at h with hu hfour
        · exact Or.inr ⟨r, by rw [hu], h⟩
        · cases he : unescape? e with
          | none => rw [he] at h; cases h
          | some c =>
            rw [he] at h
            obtain ⟨s', rfl, ht⟩ := of_prepend h
            exact Or.inl ⟨e, c, r, s', rfl, he, rfl, ht⟩
    · obtain ⟨s', rfl, ht⟩ := of_prepend h
      exact Or.inr (Or.inl ⟨c, r, s', rfl, hq, hb, hc, rfl, ht⟩)

theorem of_stringFrom_surrogate {m : Nat} (h : stringFrom true (.surrogate m) cs = .ok (s, rest)) :
    ∃ y₁ y₂ y₃ y₄ n r s', cs = '\\' :: 'u' :: y₁ :: y₂ :: y₃ :: y₄ :: r ∧
      hexValue? 0 [y₁, y₂, y₃, y₄] = some n ∧ isTrailing n = true ∧
      s = Char.ofNat (0x10000 + (m - 0xD800) * 0x400 + (n - 0xDC00)) :: s' ∧
      stringFrom true .text r = .ok (s', rest) := by
  cases cs with
  | nil => rw [stringFrom_nil] at h; cases h
  | cons c r =>
    rw [stringFrom] at h
    split_ifs at h with hb
    cases r with
    | nil => rw [stringFrom_nil] at h; cases h
    | cons e r =>
      rw [stringFrom] at h
      split_ifs at h with hu hfour
      obtain ⟨y₁, y₂, y₃, y₄, n, r, rfl, hn⟩ := of_stringFrom_four h
      rw [stringFrom_four hn, if_neg (by decide)] at h
      dsimp only at h
      split_ifs at h with ht
      obtain ⟨s', rfl, hs⟩ := of_prepend h
      exact ⟨y₁, y₂, y₃, y₄, n, r, s', by rw [hb, hu], hn, ht, rfl, hs⟩

/-- What is read of a string that is kept is spelled by the text up to its closing quote. -/
theorem of_stringFrom_true (h : stringFrom true .text cs = .ok (s, rest)) :
    ∃ t, Spells t s ∧ cs = t ++ '"' :: rest := by
  induction hn : cs.length using Nat.strongRecOn generalizing cs s with
  | ind n ih =>
    subst hn
    rcases of_stringFrom_text h with ⟨rfl, rfl⟩ | ⟨c, r, s', rfl, hq, hb, hc, rfl, hr⟩ |
      ⟨e, c, r, s', rfl, he, rfl, hr⟩ | ⟨r, rfl, hr⟩
    · exact ⟨[], .nil, rfl⟩
    · obtain ⟨t, ht, rfl⟩ := ih _ (by simp) hr rfl
      exact ⟨c :: t, .plain hq hb hc ht, rfl⟩
    · obtain ⟨t, ht, rfl⟩ := ih _ (by simp only [List.length_cons]; omega) hr rfl
      exact ⟨'\\' :: e :: t, .short he ht, rfl⟩
    · obtain ⟨x₁, x₂, x₃, x₄, n, r, rfl, hn⟩ := of_stringFrom_four hr
      rw [stringFrom_four hn, if_neg (by decide)] at hr
      dsimp only at hr
      split_ifs at hr with ht hl
      · obtain ⟨y₁, y₂, y₃, y₄, m, r, s', rfl, hm, htm, rfl, hs⟩ := of_stringFrom_surrogate hr
        obtain ⟨t, hp, rfl⟩ := ih _ (by simp only [List.length_cons]; omega) hs rfl
        exact ⟨_, .pair hn hl hm htm hp, rfl⟩
      · obtain ⟨s', rfl, hs⟩ := of_prepend hr
        obtain ⟨t, hp, rfl⟩ := ih _ (by simp only [List.length_cons]; omega) hs rfl
        exact ⟨_, .unicode hn (by simpa using hl) (by simpa using ht) hp, rfl⟩

theorem of_stringFrom_false (h : stringFrom false .text cs = .ok (s, rest)) :
    ∃ t, StringText t ∧ cs = t ++ '"' :: rest := by
  induction hn : cs.length using Nat.strongRecOn generalizing cs s with
  | ind n ih =>
    subst hn
    rcases of_stringFrom_text h with ⟨rfl, rfl⟩ | ⟨c, r, s', rfl, hq, hb, hc, rfl, hr⟩ |
      ⟨e, c, r, s', rfl, he, rfl, hr⟩ | ⟨r, rfl, hr⟩
    · exact ⟨[], .nil, rfl⟩
    · obtain ⟨t, ht, rfl⟩ := ih _ (by simp) hr rfl
      exact ⟨c :: t, .plain hq hb hc ht, rfl⟩
    · obtain ⟨t, ht, rfl⟩ := ih _ (by simp only [List.length_cons]; omega) hr rfl
      exact ⟨'\\' :: e :: t, .short he ht, rfl⟩
    · obtain ⟨x₁, x₂, x₃, x₄, n, r, rfl, hn⟩ := of_stringFrom_four hr
      rw [stringFrom_four hn, if_pos (by decide)] at hr
      obtain ⟨t, ht, rfl⟩ := ih _ (by simp only [List.length_cons]; omega) hr rfl
      exact ⟨_, .unicode hn ht, rfl⟩

/-- A text spells one string. -/
theorem Spells.unique {s' : List Char} (h : Spells t s) (h' : Spells t s') : s = s' := by
  have hs := stringFrom_spells h []
  rw [stringFrom_spells h' []] at hs
  cases hs
  rfl

theorem run_stringBody {s : String} (h : Spells t s.toList) (rest : List Char) :
    stringBody.run (t ++ '"' :: rest) = .ok (s, rest) := by
  rw [stringBody, run_bind (run_get _), stringFrom_spells h]
  change Except.ok (String.ofList s.toList, rest) = _
  rw [String.ofList_toList]

theorem of_run_stringBody {s : String} (h : stringBody.run cs = .ok (s, rest)) :
    ∃ t, Spells t s.toList ∧ cs = t ++ '"' :: rest := by
  rw [stringBody, run_bind (run_get _)] at h
  cases hs : stringFrom true .text cs with
  | error f => rw [hs] at h; cases h
  | ok p =>
    rw [hs] at h
    cases h
    rw [String.toList_ofList]
    exact of_stringFrom_true hs

theorem run_skipStringBody (h : StringText t) (rest : List Char) :
    skipStringBody.run (t ++ '"' :: rest) = .ok ((), rest) := by
  obtain ⟨s, hs⟩ := stringFrom_stringText h rest
  rw [skipStringBody, run_bind (run_get _), hs]
  rfl

theorem of_run_skipStringBody (h : skipStringBody.run cs = .ok ((), rest)) :
    ∃ t, StringText t ∧ cs = t ++ '"' :: rest := by
  rw [skipStringBody, run_bind (run_get _)] at h
  cases hs : stringFrom false .text cs with
  | error f => rw [hs] at h; cases h
  | ok p =>
    rw [hs] at h
    cases h
    exact of_stringFrom_false hs

/-- A character is spelled by what is written for it. -/
theorem spells_escape (c : Char) (h : Spells t s) : Spells (escape c ++ t) (c :: s) := by
  have hof : ∀ n, c.toNat = n → Char.ofNat n = c := by
    rintro n rfl
    exact Char.ofNat_toNat c
  have hshort : ∀ e n, unescape? e = some (Char.ofNat n) → c.toNat = n →
      Spells (['\\', e] ++ t) (c :: s) := fun e n he hn => .short (by rw [he, hof n hn]) h
  unfold escape
  by_cases hq : c = '"'
  · rw [if_pos hq]
    exact hshort '"' 0x22 rfl (by rw [hq]; rfl)
  rw [if_neg hq]
  by_cases hb : c = '\\'
  · rw [if_pos hb]
    exact hshort '\\' 0x5C rfl (by rw [hb]; rfl)
  rw [if_neg hb]
  split
  · next hn => exact hshort 'b' 0x08 rfl hn
  split
  · next hn => exact hshort 't' 0x09 rfl hn
  split
  · next hn => exact hshort 'n' 0x0A rfl hn
  split
  · next hn => exact hshort 'f' 0x0C rfl hn
  split
  · next hn => exact hshort 'r' 0x0D rfl hn
  split
  · next hc =>
    have hv : hexValue? 0 ['0', '0', hexDigit (c.toNat / 16), hexDigit (c.toNat % 16)] =
        some c.toNat := by
      have hz : hexDigit? '0' = some 0 := rfl
      have hhigh := hexDigit?_hexDigit (n := c.toNat / 16) (by omega)
      have hlow := hexDigit?_hexDigit (n := c.toNat % 16) (by omega)
      simp only [hexValue?, hz, hhigh, hlow, Option.bind_eq_bind, Option.bind_some]
      congr 1
      omega
    have hl : isLeading c.toNat = false := by simp [isLeading]; omega
    have ht : isTrailing c.toNat = false := by simp [isTrailing]; omega
    have hs := Spells.unicode hv hl ht h
    rwa [Char.ofNat_toNat] at hs
  · next hc => exact .plain hq hb hc h

theorem spells_flatMap_escape (cs : List Char) : Spells (cs.flatMap escape) cs := by
  induction cs with
  | nil => exact .nil
  | cons c cs ih =>
    rw [List.flatMap_cons]
    exact spells_escape c ih

end String

end ListingPanel.Json
