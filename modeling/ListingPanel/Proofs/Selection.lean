import ListingPanel.Selection.Text
import Mathlib.Data.List.TakeWhile

/-!
Selections in writing: which texts are read as selections, which are refused and why, and that a
selection is read back from its lines in decimal.
-/
namespace ListingPanel

namespace Text

/-! ### Blanks around a text -/

theorem exists_trim (cs : List Char) :
    ∃ before after, cs = before ++ (trim cs ++ after) ∧ (∀ c ∈ before, isBlank c = true) ∧
      ∀ c ∈ after, isBlank c = true := by
  let rest := cs.dropWhile isBlank
  have hrest : rest = trim cs ++ (rest.reverse.takeWhile isBlank).reverse := by
    rw [trim, ← List.reverse_append, List.takeWhile_append_dropWhile, List.reverse_reverse]
  refine ⟨cs.takeWhile isBlank, (rest.reverse.takeWhile isBlank).reverse, ?_,
    List.all_eq_true.mp List.all_takeWhile, fun c hc => ?_⟩
  · rw [← hrest, List.takeWhile_append_dropWhile]
  · exact List.all_eq_true.mp List.all_takeWhile c (List.mem_reverse.mp hc)

theorem trim_append {before core after : List Char} (hb : ∀ c ∈ before, isBlank c = true)
    (hne : core ≠ []) (hc : ∀ c ∈ core, isBlank c = false) (ha : ∀ c ∈ after, isBlank c = true) :
    trim (before ++ (core ++ after)) = core := by
  have hself : ∀ {l r : List Char}, l ≠ [] → (∀ c ∈ l, isBlank c = false) →
      (l ++ r).dropWhile isBlank = l ++ r := by
    intro l r hl hall
    obtain ⟨c, l, rfl⟩ := List.exists_cons_of_ne_nil hl
    rw [List.cons_append, List.dropWhile_cons_of_neg (by simp [hall c List.mem_cons_self])]
  have hrev : core.reverse.dropWhile isBlank = core.reverse := by
    have hcore := hself (r := []) (List.reverse_ne_nil_iff.mpr hne) fun c hm =>
      hc c (List.mem_reverse.mp hm)
    rwa [List.append_nil] at hcore
  rw [trim, List.dropWhile_append_of_pos hb, hself hne hc, List.reverse_append,
    List.dropWhile_append_of_pos fun c hm => ha c (List.mem_reverse.mp hm), hrev,
    List.reverse_reverse]

/-! ### Numerals -/

/-- A text without its plus sign. -/
def unsigned : List Char → List Char
  | '+' :: r => r
  | r => r

theorem readNumeral_eq {cs : List Char} (h : unsigned cs ≠ []) :
    readNumeral cs = digitsFrom 0 (unsigned cs) := by
  unfold readNumeral
  split
  · exact absurd rfl h
  · exact absurd rfl h
  · rfl
  · next hne => rw [unsigned.eq_2 cs hne]

theorem eq_of_unsigned_eq_nil {cs : List Char} (h : unsigned cs = []) : cs = [] ∨ cs = ['+'] := by
  unfold unsigned at h
  split at h
  · exact Or.inr (by rw [h])
  · exact Or.inl h

/-- Digits that make a word with `n` before them are taken. -/
theorem digitsFrom_append {ds : List Char} {n : Nat} (hd : ∀ c ∈ ds, c.isDigit = true)
    (hv : Nat.ofDigitChars 10 ds n ≤ maxWord) (cs : List Char) :
    digitsFrom n (ds ++ cs) = digitsFrom (Nat.ofDigitChars 10 ds n) cs := by
  induction ds generalizing n with
  | nil => rfl
  | cons d ds ih =>
    rw [Nat.ofDigitChars_cons] at hv
    have hfit : ¬ maxWord < 10 * n + (d.toNat - '0'.toNat) :=
      Nat.not_lt.mpr (Nat.le_trans (le_ofDigitChars ds _) hv)
    rw [List.cons_append, digitsFrom, hd d List.mem_cons_self, Nat.ofDigitChars_cons]
    simp only [Bool.not_true, Bool.false_eq_true, if_false]
    rw [if_neg hfit, ih (fun c hc => hd c (List.mem_cons_of_mem d hc)) hv]

/-- Digits that stand after `n` come to a character that is none before they make more than a word,
or make more than a word before. -/
inductive Breaks (n : Nat) : List Char → NumeralError → Prop
  | invalidDigit (ds : List Char) {c : Char} {r : List Char} (digits : ∀ d ∈ ds, d.isDigit = true)
      (fits : Nat.ofDigitChars 10 ds n ≤ maxWord) (other : c.isDigit = false) :
      Breaks n (ds ++ c :: r) .invalidDigit
  | tooLarge (ds : List Char) {r : List Char} (digits : ∀ d ∈ ds, d.isDigit = true)
      (large : maxWord < Nat.ofDigitChars 10 ds n) : Breaks n (ds ++ r) .tooLarge

theorem Breaks.cons {d : Char} {cs : List Char} {n : Nat} {e : NumeralError}
    (hd : d.isDigit = true) (h : Breaks (10 * n + (d.toNat - '0'.toNat)) cs e) :
    Breaks n (d :: cs) e := by
  cases h with
  | @invalidDigit ds c r digits fits other =>
    rw [← Nat.ofDigitChars_cons] at fits
    exact .invalidDigit (d :: ds) (List.forall_mem_cons.mpr ⟨hd, digits⟩) fits other
  | @tooLarge ds r digits large =>
    rw [← Nat.ofDigitChars_cons] at large
    exact .tooLarge (d :: ds) (List.forall_mem_cons.mpr ⟨hd, digits⟩) large

theorem digitsFrom_of_large {ds : List Char} {n : Nat} (hn : n ≤ maxWord)
    (hd : ∀ c ∈ ds, c.isDigit = true) (hv : maxWord < Nat.ofDigitChars 10 ds n) (cs : List Char) :
    digitsFrom n (ds ++ cs) = .error .tooLarge := by
  induction ds generalizing n with
  | nil => exact absurd hn (Nat.not_le.mpr hv)
  | cons d ds ih =>
    rw [Nat.ofDigitChars_cons] at hv
    rw [List.cons_append, digitsFrom, hd d List.mem_cons_self]
    simp only [Bool.not_true, Bool.false_eq_true, if_false]
    split_ifs with hlarge
    · rfl
    · exact ih (Nat.not_lt.mp hlarge) (fun c hc => hd c (List.mem_cons_of_mem d hc)) hv

/-- The first fault from the left is the one that is reported. -/
theorem digitsFrom_eq_error_iff {cs : List Char} {n : Nat} {e : NumeralError} (hn : n ≤ maxWord) :
    digitsFrom n cs = .error e ↔ Breaks n cs e := by
  constructor
  · intro h
    induction cs generalizing n with
    | nil => cases h
    | cons c cs ih =>
      unfold digitsFrom at h
      cases hc : c.isDigit with
      | false =>
        rw [hc] at h
        cases h
        exact .invalidDigit [] (List.forall_mem_nil _) hn hc
      | true =>
        simp only [hc, Bool.not_true, Bool.false_eq_true, if_false] at h
        split_ifs at h with hlarge
        · cases h
          exact .tooLarge [c] (List.forall_mem_singleton.mpr hc) hlarge
        · exact (ih (Nat.not_lt.mp hlarge) h).cons hc
  · rintro (⟨ds, digits, fits, other⟩ | ⟨ds, digits, large⟩)
    · rw [digitsFrom_append digits fits, digitsFrom, other]
      rfl
    · exact digitsFrom_of_large hn digits large _

end Text

namespace Selection

open Text

/-! ### Lines in writing -/

/-- Blanks, an optional plus sign, ASCII digits that make `n`, and blanks. -/
def Numeral (n : Nat) (cs : List Char) : Prop :=
  ∃ before sign digits after, cs = before ++ (sign ++ digits ++ after) ∧
    (∀ c ∈ before, isBlank c = true) ∧ (sign = [] ∨ sign = ['+']) ∧
    digits ≠ [] ∧ (∀ c ∈ digits, c.isDigit = true) ∧ Nat.ofDigitChars 10 digits 0 = n ∧
    ∀ c ∈ after, isBlank c = true

theorem numeral_iff {n : Nat} {cs : List Char} :
    Numeral n cs ↔ unsigned (trim cs) ≠ [] ∧ (∀ c ∈ unsigned (trim cs), c.isDigit = true) ∧
      Nat.ofDigitChars 10 (unsigned (trim cs)) 0 = n := by
  constructor
  · rintro ⟨before, sign, digits, after, rfl, hb, hs, hne, hd, hv, ha⟩
    have hcore : ∀ c ∈ sign ++ digits, isBlank c = false := by
      intro c hc
      rcases List.mem_append.mp hc with hc | hc
      · rcases hs with rfl | rfl
        · exact absurd hc List.not_mem_nil
        · rw [List.mem_singleton.mp hc]
          rfl
      · exact isBlank_of_isDigit (hd c hc)
    have hunsigned : unsigned (sign ++ digits) = digits := by
      rcases hs with rfl | rfl
      · obtain ⟨d, digits, rfl⟩ := List.exists_cons_of_ne_nil hne
        refine unsigned.eq_2 _ fun r hr => ?_
        obtain ⟨rfl, -⟩ : d = '+' ∧ digits = r := by simpa using hr
        exact absurd (hd '+' List.mem_cons_self) (by decide)
      · rfl
    rw [trim_append hb (by simp [hne]) hcore ha, hunsigned]
    exact ⟨hne, hd, hv⟩
  · rintro ⟨hne, hd, hv⟩
    obtain ⟨before, after, hcs, hb, ha⟩ := exists_trim cs
    have hsign : ∃ sign, (sign = [] ∨ sign = ['+']) ∧ trim cs = sign ++ unsigned (trim cs) := by
      generalize trim cs = core
      unfold unsigned
      split
      · exact ⟨['+'], Or.inr rfl, rfl⟩
      · exact ⟨[], Or.inl rfl, rfl⟩
    obtain ⟨sign, hs, hcore⟩ := hsign
    exact ⟨before, sign, _, after, by rw [← hcore]; exact hcs, hb, hs, hne, hd, hv, ha⟩

/-- A number of a line in writing. -/
def LineText (n : Nat) (cs : List Char) : Prop := Numeral n cs ∧ 1 ≤ n ∧ n ≤ maxWord

/-- Why a text is no number of a line. -/
inductive Refused (cs : List Char) : LineFault → Prop
  | zero (h : Numeral 0 cs) : Refused cs .zero
  | empty (h : ∀ c ∈ cs, isBlank c = true) : Refused cs (.noNumeral cs .empty)
  | sign (h : trim cs = ['+']) : Refused cs (.noNumeral cs .invalidDigit)
  | digits {e : NumeralError} (h : Breaks 0 (unsigned (trim cs)) e) : Refused cs (.noNumeral cs e)

theorem readNumeral_trim_eq_ok_iff {n : Nat} {cs : List Char} :
    readNumeral (trim cs) = .ok n ↔ Numeral n cs ∧ n ≤ maxWord := by
  rw [numeral_iff]
  by_cases hne : unsigned (trim cs) = []
  · refine iff_of_false (fun h => ?_) fun h => h.1.1 hne
    rcases eq_of_unsigned_eq_nil hne with hcs | hcs <;> rw [hcs] at h <;> cases h
  · rw [readNumeral_eq hne, digitsFrom_eq_ok_iff (Nat.zero_le _)]
    exact ⟨fun ⟨hd, hv, hword⟩ => ⟨⟨hne, hd, hv⟩, hword⟩,
      fun ⟨⟨_, hd, hv⟩, hword⟩ => ⟨hd, hv, hword⟩⟩

theorem readLine_eq_ok_iff {n : Nat} {cs : List Char} : readLine cs = .ok n ↔ LineText n cs := by
  have hread := @readNumeral_trim_eq_ok_iff n cs
  unfold readLine LineText
  constructor
  · intro h
    split at h
    · cases h
    · next m hne hm =>
      cases h
      obtain ⟨hnum, hword⟩ := hread.mp hm
      exact ⟨hnum, Nat.one_le_iff_ne_zero.mpr hne, hword⟩
    · cases h
  · rintro ⟨hnum, hpos, hword⟩
    rw [hread.mpr ⟨hnum, hword⟩]
    split
    · next heq => cases heq; omega
    · next heq => cases heq; rfl
    · next heq => cases heq

theorem readLine_eq_error_iff {f : LineFault} {cs : List Char} :
    readLine cs = .error f ↔ Refused cs f := by
  have herror : ∀ e, readNumeral (trim cs) = .error e → readLine cs = .error (.noNumeral cs e) := by
    intro e he
    rw [readLine, he]
  constructor
  · intro h
    cases hr : readNumeral (trim cs) with
    | ok n =>
      cases n with
      | zero =>
        rw [readLine, hr] at h
        cases h
        exact .zero (readNumeral_trim_eq_ok_iff.mp hr).1
      | succ n =>
        rw [readLine, hr] at h
        cases h
    | error e =>
      rw [herror e hr] at h
      cases h
      by_cases hne : unsigned (trim cs) = []
      · rcases eq_of_unsigned_eq_nil hne with hcs | hcs
        · rw [hcs] at hr
          cases hr
          exact .empty (trim_eq_nil_iff.mp hcs)
        · have hsign := hcs
          rw [hcs] at hr
          cases hr
          exact .sign hsign
      · rw [readNumeral_eq hne, digitsFrom_eq_error_iff (Nat.zero_le _)] at hr
        exact .digits hr
  · rintro (h | h | h | h)
    · rw [readLine, readNumeral_trim_eq_ok_iff.mpr ⟨h, Nat.zero_le _⟩]
      rfl
    · exact herror _ (by rw [trim_eq_nil_iff.mpr h]; rfl)
    · exact herror _ (by rw [h]; rfl)
    · have hne : unsigned (trim cs) ≠ [] := fun hnil => by
        rw [hnil] at h
        have herr := (digitsFrom_eq_error_iff (Nat.zero_le _)).mpr h
        cases herr
      exact herror _ (by rw [readNumeral_eq hne, digitsFrom_eq_error_iff (Nat.zero_le _)]; exact h)

theorem LineText.colon_notMem {n : Nat} {cs : List Char} (h : LineText n cs) : ':' ∉ cs := by
  obtain ⟨before, sign, digits, after, rfl, hb, hs, -, hd, -, ha⟩ := h.1
  have hsign : ':' ∉ sign := by
    rcases hs with rfl | rfl <;> decide
  simp only [List.mem_append, not_or]
  exact ⟨fun hm => absurd (hb _ hm) (by decide), ⟨hsign, fun hm => absurd (hd _ hm) (by decide)⟩,
    fun hm => absurd (ha _ hm) (by decide)⟩

theorem lineText_toDigits {n : Nat} (hpos : 1 ≤ n) (hword : n ≤ maxWord) :
    LineText n (Nat.toDigits 10 n) := by
  refine ⟨⟨[], [], Nat.toDigits 10 n, [], by simp, List.forall_mem_nil _, Or.inl rfl,
    Nat.toDigits_ne_nil, fun c hc => isDigit_of_mem_toDigits hc, Nat.ofDigitChars_ten_toDigits,
    List.forall_mem_nil _⟩, hpos, hword⟩

/-! ### Selections in writing -/

theorem splitAtColon_of_notMem {cs : List Char} (h : ':' ∉ cs) : splitAtColon cs = (cs, none) := by
  have hdrop : cs.dropWhile (· ≠ ':') = [] := by
    refine List.dropWhile_eq_nil_iff.mpr fun c hc => ?_
    exact decide_eq_true fun heq => h (heq ▸ hc)
  rw [splitAtColon, hdrop]

theorem splitAtColon_append {a : List Char} (h : ':' ∉ a) (b : List Char) :
    splitAtColon (a ++ ':' :: b) = (a, some b) := by
  have ha : ∀ c ∈ a, decide (c ≠ ':') = true := fun c hc =>
    decide_eq_true fun heq => h (heq ▸ hc)
  have hdrop : (a ++ ':' :: b).dropWhile (· ≠ ':') = ':' :: b := by
    rw [List.dropWhile_append_of_pos ha, List.dropWhile_cons_of_neg (by decide)]
  have htake : (a ++ ':' :: b).takeWhile (· ≠ ':') = a := by
    rw [List.takeWhile_append_of_pos ha, List.takeWhile_cons_of_neg (by decide), List.append_nil]
  rw [splitAtColon, hdrop, htake]

/-- A text has no colon, or a part before the first one and a part after it. -/
theorem colon_cases (cs : List Char) : ':' ∉ cs ∨ ∃ a b, cs = a ++ ':' :: b ∧ ':' ∉ a := by
  by_cases h : ':' ∈ cs
  · obtain ⟨a, b, rfl, ha⟩ := List.eq_append_cons_of_mem h
    exact Or.inr ⟨a, b, rfl, ha⟩
  · exact Or.inl h

theorem ofText_of_notMem {cs : List Char} (h : ':' ∉ cs) :
    ofText cs = (readLine cs).map fun n => { caret := n } := by
  rw [ofText, splitAtColon_of_notMem h]
  rfl

theorem ofText_append {a : List Char} (h : ':' ∉ a) (b : List Char) :
    ofText (a ++ ':' :: b) = (readLine a).bind fun m => (readLine b).map fun n =>
      { caret := n, ends := some (m, n) } := by
  rw [ofText, splitAtColon_append h]
  rfl

/-- A line in writing, or two with a colon between them, of which the second is the caret's. -/
inductive Written : Selection → List Char → Prop
  | line {n : Nat} {cs : List Char} (h : LineText n cs) : Written { caret := n } cs
  | lines {m n : Nat} {a b : List Char} (ha : LineText m a) (hb : LineText n b) :
      Written { caret := n, ends := some (m, n) } (a ++ ':' :: b)

/-- Why a text is no selection. The part before the first colon is looked at first. -/
inductive Unreadable : LineFault → List Char → Prop
  | line {f : LineFault} {cs : List Char} (hc : ':' ∉ cs) (h : Refused cs f) : Unreadable f cs
  | first {f : LineFault} {a : List Char} (hc : ':' ∉ a) (h : Refused a f) (b : List Char) :
      Unreadable f (a ++ ':' :: b)
  | second {f : LineFault} {m : Nat} {a b : List Char} (ha : LineText m a) (h : Refused b f) :
      Unreadable f (a ++ ':' :: b)

theorem ofText_eq_ok_iff {cs : List Char} {s : Selection} : ofText cs = .ok s ↔ Written s cs := by
  constructor
  · intro h
    rcases colon_cases cs with hc | ⟨a, b, rfl, hc⟩
    · rw [ofText_of_notMem hc] at h
      cases hr : readLine cs with
      | error f => rw [hr] at h; cases h
      | ok n =>
        rw [hr] at h
        cases h
        exact .line (readLine_eq_ok_iff.mp hr)
    · rw [ofText_append hc] at h
      cases ha : readLine a with
      | error f => rw [ha] at h; cases h
      | ok m =>
        cases hb : readLine b with
        | error f => rw [ha, hb] at h; cases h
        | ok n =>
          rw [ha, hb] at h
          cases h
          exact .lines (readLine_eq_ok_iff.mp ha) (readLine_eq_ok_iff.mp hb)
  · rintro (h | ⟨ha, hb⟩)
    · rw [ofText_of_notMem h.colon_notMem, readLine_eq_ok_iff.mpr h]
      rfl
    · rw [ofText_append ha.colon_notMem, readLine_eq_ok_iff.mpr ha, readLine_eq_ok_iff.mpr hb]
      rfl

theorem ofText_eq_error_iff {cs : List Char} {f : LineFault} :
    ofText cs = .error f ↔ Unreadable f cs := by
  constructor
  · intro h
    rcases colon_cases cs with hc | ⟨a, b, rfl, hc⟩
    · rw [ofText_of_notMem hc] at h
      cases hr : readLine cs with
      | error f =>
        rw [hr] at h
        cases h
        exact .line hc (readLine_eq_error_iff.mp hr)
      | ok n => rw [hr] at h; cases h
    · rw [ofText_append hc] at h
      cases ha : readLine a with
      | error f =>
        rw [ha] at h
        cases h
        exact .first hc (readLine_eq_error_iff.mp ha) b
      | ok m =>
        cases hb : readLine b with
        | error f =>
          rw [ha, hb] at h
          cases h
          exact .second (readLine_eq_ok_iff.mp ha) (readLine_eq_error_iff.mp hb)
        | ok n => rw [ha, hb] at h; cases h
  · rintro (⟨hc, h⟩ | ⟨hc, h, b⟩ | ⟨ha, h⟩)
    · rw [ofText_of_notMem hc, readLine_eq_error_iff.mpr h]
      rfl
    · rw [ofText_append hc, readLine_eq_error_iff.mpr h]
      rfl
    · rw [ofText_append ha.colon_notMem, readLine_eq_ok_iff.mpr ha, readLine_eq_error_iff.mpr h]
      rfl

/-- A text is read as a selection exactly if it is a line in writing or two with a colon between
them, and else the first part that is no line in writing tells why not. A selection from one line to
another stands for the lines between them, in either order. Lines in decimal are read back. -/
theorem ofText_grammar :
    (∀ cs s, ofText cs = .ok s ↔ Written s cs) ∧
    (∀ cs f, ofText cs = .error f ↔ Unreadable f cs) ∧
    (∀ n cs, LineText n cs → ':' ∉ cs) ∧
    (∀ n, ({ caret := n } : Selection).lines.first = n ∧
      ({ caret := n } : Selection).lines.last = n) ∧
    (∀ m n, ({ caret := n, ends := some (m, n) } : Selection).lines.first = min m n ∧
      ({ caret := n, ends := some (m, n) } : Selection).lines.last = max m n) ∧
    (∀ n, 1 ≤ n → n ≤ maxWord → ofText (Nat.toDigits 10 n) = .ok { caret := n }) ∧
    ∀ m n, 1 ≤ m → m ≤ maxWord → 1 ≤ n → n ≤ maxWord →
      ofText (Nat.toDigits 10 m ++ ':' :: Nat.toDigits 10 n) =
        .ok { caret := n, ends := some (m, n) } := by
  refine ⟨fun _ _ => ofText_eq_ok_iff, fun _ _ => ofText_eq_error_iff,
    fun _ _ h => h.colon_notMem, fun n => ⟨Nat.min_self n, Nat.max_self n⟩,
    fun m n => ⟨rfl, rfl⟩, fun n hpos hword => ?_, fun m n hm hm' hn hn' => ?_⟩
  · exact ofText_eq_ok_iff.mpr (.line (lineText_toDigits hpos hword))
  · exact ofText_eq_ok_iff.mpr (.lines (lineText_toDigits hm hm') (lineText_toDigits hn hn'))

/-- From the greatest line back to line 7; and a plus sign, leading zeros and other blanks than
spaces are taken. -/
theorem ofText_grammar_backwards :
    ofText (Nat.toDigits 10 maxWord ++ ':' :: Nat.toDigits 10 7) =
        .ok { caret := 7, ends := some (maxWord, 7) } ∧
      ofText ['\u2003', '+', '0', '0', '7', '\t'] = .ok { caret := 7 } := by
  obtain ⟨hok, -, -, -, -, -, htwo⟩ := ofText_grammar
  refine ⟨htwo maxWord 7 (by decide) le_rfl (by decide) (by decide), (hok _ _).mpr (.line ?_)⟩
  exact ⟨⟨['\u2003'], ['+'], ['0', '0', '7'], ['\t'], rfl, List.all_eq_true.mp rfl,
    Or.inr rfl, by decide, List.all_eq_true.mp rfl, rfl, List.all_eq_true.mp rfl⟩, by decide,
    by decide⟩

end Selection

end ListingPanel
