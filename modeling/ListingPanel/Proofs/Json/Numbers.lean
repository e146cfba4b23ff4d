import ListingPanel.Proofs.Json.Document

/-!
Numbers are passed over as their grammar has them, and a natural number is read off its digits.
-/
namespace ListingPanel.Json

/-! ### Numbers that are passed over -/

section Skipped

variable {cs t rest : List Char}

theorem digitAhead_append {ds : List Char} (h : Digits ds) (rest : List Char) :
    digitAhead (ds ++ rest) = true := by
  obtain ⟨hne, hd⟩ := h
  cases ds with
  | nil => exact absurd rfl hne
  | cons d ds => exact hd d List.mem_cons_self

theorem dropWhile_of_digitAhead (h : digitAhead rest = false) :
    rest.dropWhile (·.isDigit) = rest := by
  cases rest with
  | nil => rfl
  | cons c r => exact List.dropWhile_cons_of_neg (by simpa [digitAhead] using h)

theorem run_skipDigits {ds : List Char} (h : Digits ds) (hr : digitAhead rest = false) :
    skipDigits.run (ds ++ rest) = .ok ((), rest) := by
  have hdrop : (ds ++ rest).dropWhile (·.isDigit) = rest := by
    rw [List.dropWhile_append_of_pos h.2, dropWhile_of_digitAhead hr]
  rw [skipDigits, run_bind (run_get _), digitAhead_append h, if_pos rfl, hdrop]
  exact run_set _ _

theorem of_run_skipDigits (h : skipDigits.run cs = .ok ((), rest)) :
    ∃ ds, Digits ds ∧ cs = ds ++ rest := by
  rw [skipDigits, run_bind (run_get _)] at h
  split_ifs at h with hd
  · cases h
    refine ⟨cs.takeWhile (·.isDigit), ⟨?_, ?_⟩, (List.takeWhile_append_dropWhile ..).symm⟩
    · cases cs with
      | nil => cases hd
      | cons c r =>
        have hc : c.isDigit = true := hd
        simp [hc]
    · exact List.all_eq_true.mp List.all_takeWhile
  · cases h

theorem run_skipWhole (h : WholeText t) (hr : digitAhead rest = false) :
    skipWhole.run (t ++ rest) = .ok ((), rest) := by
  rw [skipWhole, run_bind (run_get _)]
  rcases h with rfl | ⟨hd, hz⟩
  · change StateT.run (if digitAhead rest then throw Fault.invalidNumber else set rest) _ = _
    rw [hr]
    exact run_set _ _
  · split
    · next r heq =>
      obtain ⟨d, ds, rfl⟩ := List.exists_cons_of_ne_nil hd.1
      exact absurd (by rw [(List.cons.inj heq).1]; rfl) hz
    · exact run_skipDigits hd hr

theorem of_run_skipWhole (h : skipWhole.run cs = .ok ((), rest)) :
    ∃ w, WholeText w ∧ cs = w ++ rest := by
  rw [skipWhole, run_bind (run_get _)] at h
  split at h
  · split_ifs at h
    · cases h
    · cases h
      exact ⟨['0'], Or.inl rfl, rfl⟩
  · next hne =>
    obtain ⟨ds, hd, rfl⟩ := of_run_skipDigits h
    refine ⟨ds, Or.inr ⟨hd, ?_⟩, rfl⟩
    cases ds with
    | nil => simp
    | cons d ds =>
      rintro heq
      cases heq
      exact hne _ rfl

theorem run_skipFraction (h : FractionText t) (hr : digitAhead rest = false)
    (hp : rest.head? ≠ some '.') : skipFraction.run (t ++ rest) = .ok ((), rest) := by
  rw [skipFraction, run_bind (run_get _)]
  rcases h with rfl | ⟨ds, hd, rfl⟩
  · split
    · next heq => exact absurd (by rw [← List.nil_append rest, heq]; rfl) hp
    · rfl
  · exact (run_bind (run_set ..) _).trans (run_skipDigits hd hr)

theorem of_run_skipFraction (h : skipFraction.run cs = .ok ((), rest)) :
    ∃ f, FractionText f ∧ cs = f ++ rest := by
  rw [skipFraction, run_bind (run_get _)] at h
  split at h
  · rw [run_bind (run_set ..)] at h
    obtain ⟨ds, hd, rfl⟩ := of_run_skipDigits h
    exact ⟨'.' :: ds, Or.inr ⟨ds, hd, rfl⟩, rfl⟩
  · cases h
    exact ⟨[], Or.inl rfl, rfl⟩

theorem run_skipSign {sign ds : List Char} (h : sign = [] ∨ sign = ['+'] ∨ sign = ['-'])
    (hd : Digits ds) (rest : List Char) :
    skipSign.run (sign ++ (ds ++ rest)) = .ok ((), ds ++ rest) := by
  rw [skipSign, run_bind (run_get _)]
  rcases h with rfl | rfl | rfl
  · have hahead := digitAhead_append hd rest
    rw [List.nil_append]
    split
    · next heq => rw [heq] at hahead; cases hahead
    · next heq => rw [heq] at hahead; cases hahead
    · rfl
  · rfl
  · rfl

theorem of_run_skipSign (h : skipSign.run cs = .ok ((), rest)) :
    ∃ sign, (sign = [] ∨ sign = ['+'] ∨ sign = ['-']) ∧ cs = sign ++ rest := by
  rw [skipSign, run_bind (run_get _)] at h
  split at h
  · cases h
    exact ⟨['+'], Or.inr (Or.inl rfl), rfl⟩
  · cases h
    exact ⟨['-'], Or.inr (Or.inr rfl), rfl⟩
  · cases h
    exact ⟨[], Or.inl rfl, rfl⟩

theorem run_skipExponent (h : ExponentText t) (hr : Follows rest) :
    skipExponent.run (t ++ rest) = .ok ((), rest) := by
  rw [skipExponent, run_bind (run_get _)]
  rcases h with rfl | ⟨e, sign, ds, he, hs, hd, rfl⟩
  · rw [List.nil_append]
    split
    · next r => exact absurd rfl (hr 'e' r rfl).2.2.1
    · next r => exact absurd rfl (hr 'E' r rfl).2.2.2
    · rfl
  · have hrun : (skipSign >>= fun _ => skipDigits).run (sign ++ ds ++ rest) = .ok ((), rest) := by
      rw [List.append_assoc, run_bind (run_skipSign hs hd rest), run_skipDigits hd hr.digitAhead]
    rcases he with rfl | rfl
    · exact (run_bind (run_set ..) _).trans hrun
    · exact (run_bind (run_set ..) _).trans hrun

theorem of_run_skipExponent (h : skipExponent.run cs = .ok ((), rest)) :
    ∃ e, ExponentText e ∧ cs = e ++ rest := by
  have hdigits : ∀ e r, (e = 'e' ∨ e = 'E') →
      (skipSign >>= fun _ => skipDigits).run r = .ok ((), rest) →
        ∃ t, ExponentText t ∧ e :: r = t ++ rest := by
    intro e r he hr
    obtain ⟨_, r', hsign, hdigits⟩ := of_run_bind hr
    obtain ⟨sign, hs, rfl⟩ := of_run_skipSign hsign
    obtain ⟨ds, hd, rfl⟩ := of_run_skipDigits hdigits
    exact ⟨e :: (sign ++ ds), Or.inr ⟨e, sign, ds, he, hs, hd, rfl⟩, by simp⟩
  rw [skipExponent, run_bind (run_get _)] at h
  split at h
  · rw [run_bind (run_set ..)] at h
    exact hdigits 'e' _ (Or.inl rfl) h
  · rw [run_bind (run_set ..)] at h
    exact hdigits 'E' _ (Or.inr rfl) h
  · cases h
    exact ⟨[], Or.inl rfl, rfl⟩

theorem FractionText.digitAhead (h : FractionText t) (hr : digitAhead rest = false) :
    Json.digitAhead (t ++ rest) = false := by
  rcases h with rfl | ⟨ds, -, rfl⟩
  · exact hr
  · rfl

/-- Nothing in an exponent continues what is before it. -/
theorem ExponentText.ends (h : ExponentText t) (hr : Follows rest) :
    digitAhead (t ++ rest) = false ∧ (t ++ rest).head? ≠ some '.' := by
  rcases h with rfl | ⟨e, sign, ds, he, -, -, rfl⟩
  · refine ⟨hr.digitAhead, fun hp => ?_⟩
    obtain ⟨r, rfl⟩ := List.head?_eq_some_iff.mp hp
    exact (hr '.' _ rfl).2.1 rfl
  · rcases he with rfl | rfl <;> exact ⟨rfl, by simp⟩

/-- A number without its sign is passed over. -/
theorem run_skipNumber {w f e : List Char} (hw : WholeText w) (hf : FractionText f)
    (he : ExponentText e) (hr : Follows rest) :
    skipNumber.run (w ++ (f ++ e) ++ rest) = .ok ((), rest) := by
  obtain ⟨hd, hp⟩ := he.ends hr
  rw [List.append_assoc, List.append_assoc, skipNumber,
    run_bind (run_skipWhole hw (hf.digitAhead hd)), run_bind (run_skipFraction hf hd hp),
    run_skipExponent he hr]

theorem of_run_skipNumber (h : skipNumber.run cs = .ok ((), rest)) :
    ∃ w f e, WholeText w ∧ FractionText f ∧ ExponentText e ∧ cs = w ++ (f ++ e) ++ rest := by
  rw [skipNumber] at h
  obtain ⟨_, r, hwhole, h⟩ := of_run_bind h
  obtain ⟨_, r', hfraction, hexponent⟩ := of_run_bind h
  obtain ⟨w, hw, rfl⟩ := of_run_skipWhole hwhole
  obtain ⟨f, hf, rfl⟩ := of_run_skipFraction hfraction
  obtain ⟨e, he, rfl⟩ := of_run_skipExponent hexponent
  exact ⟨w, f, e, hw, hf, he, by simp⟩

end Skipped

/-! ### Natural numbers -/

section Natural

variable {cs rest : List Char} {m n : Nat}

theorem digitChar_digitValue {c : Char} (h : c.isDigit = true) : (digitValue c).digitChar = c := by
  obtain ⟨hlo, hhi⟩ := Char.isDigit_iff_toNat.mp h
  have h0 : '0'.toNat = 48 := rfl
  have h9 : '9'.toNat = 57 := rfl
  have hlt : digitValue c < 10 := by rw [digitValue]; omega
  rw [← Char.toNat_inj, Nat.toNat_digitChar_of_lt_ten hlt, digitValue]
  omega

theorem digitValue_lt {c : Char} (h : c.isDigit = true) : digitValue c < 10 := by
  have hd : (digitValue c).digitChar.isDigit = true := by rwa [digitChar_digitValue h]
  rwa [Nat.isDigit_digitChar, decide_eq_true_eq] at hd

theorem toDigits_digitValue {c : Char} (h : c.isDigit = true) :
    Nat.toDigits 10 (digitValue c) = [c] := by
  rw [Nat.toDigits_of_lt_base (digitValue_lt h), digitChar_digitValue h]

/-- Digits after a number that is not zero are those of their common value. -/
theorem toDigits_ofDigitChars {ds : List Char} (hd : ∀ c ∈ ds, c.isDigit = true) (hn : 0 < n) :
    Nat.toDigits 10 (Nat.ofDigitChars 10 ds n) = Nat.toDigits 10 n ++ ds := by
  induction ds generalizing n with
  | nil => rw [Nat.ofDigitChars_nil, List.append_nil]
  | cons d ds ih =>
    have hdig := hd d List.mem_cons_self
    rw [Nat.ofDigitChars_cons]
    change Nat.toDigits 10 (Nat.ofDigitChars 10 ds (10 * n + digitValue d)) = _
    rw [ih (fun c hc => hd c (List.mem_cons_of_mem d hc)) (by omega),
      ← Nat.toDigits_append_toDigits (by decide) hn (digitValue_lt hdig), toDigits_digitValue hdig,
      List.append_assoc, List.singleton_append]

/-- The digits that are taken make a number of 64 bits. -/
theorem of_takeDigits {k k' : Nat} (h : takeDigits n k cs = (m, k', rest)) :
    ∃ ds, (∀ c ∈ ds, c.isDigit = true) ∧ cs = ds ++ rest ∧ m = Nat.ofDigitChars 10 ds n ∧
      (n ≤ Text.maxWord → m ≤ Text.maxWord) := by
  induction cs generalizing n k with
  | nil =>
    cases h
    exact ⟨[], List.forall_mem_nil _, rfl, rfl, id⟩
  | cons c cs ih =>
    rw [takeDigits] at h
    split_ifs at h with hc
    · obtain ⟨ds, hd, rfl, rfl, hle⟩ := ih h
      refine ⟨c :: ds, List.forall_mem_cons.mpr ⟨hc.1, hd⟩, rfl, ?_, fun _ => hle hc.2⟩
      rw [Nat.ofDigitChars_cons]
      rfl
    · cases h
      exact ⟨[], List.forall_mem_nil _, rfl, rfl, id⟩

/-- Is the number one without a sign, a fraction and an exponent, and of 64 bits? -/
def Number.IsNatural (x : Number) : Prop := ∃ n, x = .natural n

theorem avoids_real (minus : Bool) (significand : Nat) (exponent : Int) :
    Avoids (real minus significand exponent) Number.IsNatural := by
  rintro cs x rest h ⟨n, rfl⟩
  unfold real at h
  split at h <;> cases h

theorem avoids_exponentPart (minus : Bool) (significand : Nat) (scale : Int) :
    Avoids (exponentPart minus significand scale) Number.IsNatural := by
  unfold exponentPart
  refine .bind fun _ => .bind fun cs => ?_
  extract_lets afterSign
  have hafter : ∀ negative, Avoids (afterSign negative) Number.IsNatural := by
    intro negative
    refine .bind fun ds => ?_
    split
    · exact avoids_throw _ _
    · refine .ite (avoids_throw _ _) (.bind fun _ => .bind fun _ => .bind fun _ => ?_)
      exact .ite (.ite (avoids_throw _ _) (avoids_pure nofun)) (avoids_real _ _ _)
  split
  · exact .bind fun _ => .bind fun _ => hafter _
  · exact .bind fun _ => .bind fun _ => hafter _
  · exact .bind fun _ => hafter _

theorem avoids_afterFraction (minus : Bool) (significand : Nat) (scale : Int) :
    Avoids (afterFraction minus significand scale) Number.IsNatural := by
  unfold afterFraction
  refine .bind fun cs => ?_
  split
  · exact avoids_exponentPart _ _ _
  · exact avoids_exponentPart _ _ _
  · exact avoids_real _ _ _

theorem avoids_fractionPart (minus : Bool) (significand : Nat) (scale : Int) :
    Avoids (fractionPart minus significand scale) Number.IsNatural := by
  unfold fractionPart
  refine .bind fun _ => .bind fun cs => ?_
  split
  refine .bind fun _ => ?_
  exact .ite (.bind fun _ => avoids_afterFraction _ _ _)
    (.ite (avoids_throw _ _) (avoids_afterFraction _ _ _))

theorem of_run_afterWhole {minus : Bool}
    (h : (afterWhole minus m).run cs = .ok (.natural n, rest)) :
    minus = false ∧ m = n ∧ cs = rest := by
  rw [afterWhole, run_bind (run_get _)] at h
  split at h
  · exact absurd ⟨n, rfl⟩ (avoids_fractionPart _ _ _ _ _ _ h)
  · exact absurd ⟨n, rfl⟩ (avoids_exponentPart _ _ _ _ _ _ h)
  · exact absurd ⟨n, rfl⟩ (avoids_exponentPart _ _ _ _ _ _ h)
  · split_ifs at h with hm hle
    · cases h
      exact ⟨by simpa using hm, rfl, rfl⟩
    · cases h
    · exact absurd ⟨n, rfl⟩ (avoids_real _ _ _ _ _ _ h)

/-- A natural number is read off its digits, without a sign before them. -/
theorem of_run_number {minus : Bool} (h : (number minus).run cs = .ok (.natural n, rest)) :
    minus = false ∧ n ≤ Text.maxWord ∧ cs = Nat.toDigits 10 n ++ rest := by
  rw [number, run_bind (run_get _)] at h
  split at h
  · cases h
  · next r =>
    split_ifs at h with hd
    · cases h
    · obtain ⟨hm, rfl, rfl⟩ := of_run_afterWhole h
      exact ⟨hm, Nat.zero_le _, rfl⟩
  · next c r hne =>
    split_ifs at h with hc
    · cases h
    · have hc : c.isDigit = true := by simpa using hc
      rcases ht : takeDigits (digitValue c) 0 r with ⟨m, k, ds⟩
      rw [ht] at h
      dsimp only at h
      rw [run_bind (run_set ..)] at h
      split_ifs at h with hd
      · have hn : Number.IsNatural (.natural n) := ⟨n, rfl⟩
        refine absurd hn (Avoids.bind (fun _ => .bind fun _ => ?_) _ _ _ h)
        split
        · exact avoids_fractionPart _ _ _
        · exact avoids_afterFraction _ _ _
      · obtain ⟨hm, rfl, rfl⟩ := of_run_afterWhole h
        obtain ⟨es, hes, rfl, rfl, hle⟩ := of_takeDigits ht
        have hlt := digitValue_lt hc
        have hpos : 0 < digitValue c := by
          refine Nat.pos_of_ne_zero fun hz => hne ?_
          rw [← digitChar_digitValue hc, hz]
          rfl
        have hword : 10 ≤ Text.maxWord := by decide
        rw [toDigits_ofDigitChars hes hpos, toDigits_digitValue hc]
        exact ⟨hm, hle (by omega), rfl⟩

theorem takeDigits_append {ds : List Char} {n : Nat} (hd : ∀ c ∈ ds, c.isDigit = true)
    (hv : Nat.ofDigitChars 10 ds n ≤ Text.maxWord) {rest : List Char} (hr : Follows rest)
    (count : Nat) :
    takeDigits n count (ds ++ rest) = (Nat.ofDigitChars 10 ds n, count + ds.length, rest) := by
  induction ds generalizing n count with
  | nil =>
    cases rest with
    | nil => rfl
    | cons c r => simp [takeDigits, (hr c r rfl).1]
  | cons d ds ih =>
    rw [Nat.ofDigitChars_cons] at hv
    have hfit : 10 * n + digitValue d ≤ Text.maxWord :=
      Nat.le_trans (Text.le_ofDigitChars ds _) hv
    rw [List.cons_append, takeDigits, if_pos ⟨hd d List.mem_cons_self, hfit⟩, digitValue,
      ih (fun c hc => hd c (List.mem_cons_of_mem d hc)) hv, Nat.ofDigitChars_cons,
      List.length_cons, Nat.add_right_comm, Nat.add_assoc]

theorem run_afterWhole (n : Nat) {rest : List Char} (h : Follows rest) :
    (afterWhole false n).run rest = .ok (.natural n, rest) := by
  rw [afterWhole, run_bind (run_get _)]
  cases rest with
  | nil => rfl
  | cons c r =>
    obtain ⟨-, hpoint, he, hE⟩ := h c r rfl
    split
    · next heq => exact absurd (List.cons.inj heq).1 hpoint
    · next heq => exact absurd (List.cons.inj heq).1 he
    · next heq => exact absurd (List.cons.inj heq).1 hE
    · rfl

theorem run_number {n : Nat} (hn : n ≤ Text.maxWord) {rest : List Char} (h : Follows rest) :
    (number false).run (Nat.toDigits 10 n ++ rest) = .ok (.natural n, rest) := by
  rw [number, run_bind (run_get _)]
  rcases Nat.eq_zero_or_pos n with rfl | hpos
  · have hz : Nat.toDigits 10 0 ++ rest = '0' :: rest := rfl
    rw [hz]
    split
    · next heq => cases heq
    · next r heq =>
      obtain rfl : rest = r := by simpa using heq
      rw [h.digitAhead]
      exact run_afterWhole 0 h
    · next hne heq =>
      obtain ⟨rfl, rfl⟩ : '0' = _ ∧ rest = _ := by simpa using heq
      exact absurd rfl hne
  · obtain ⟨c, ds, hs, hc⟩ := Text.toDigits_eq_cons_of_pos hpos
    have hd : ∀ d ∈ c :: ds, d.isDigit = true := fun d hd =>
      Text.isDigit_of_mem_toDigits (n := n) (by rwa [hs])
    have hv : Nat.ofDigitChars 10 ds (digitValue c) = n := by
      have hn : Nat.ofDigitChars 10 (Nat.toDigits 10 n) 0 = n := Nat.ofDigitChars_ten_toDigits
      rw [hs, Nat.ofDigitChars_cons, Nat.mul_zero, Nat.zero_add] at hn
      exact hn
    have ht := takeDigits_append (fun d hm => hd d (List.mem_cons_of_mem c hm))
      (by rwa [hv]) h 0
    rw [hs, List.cons_append]
    split
    · next heq => cases heq
    · next heq => exact absurd (List.cons.inj heq).1 hc
    · next c' r hne heq =>
      obtain ⟨rfl, rfl⟩ : c = c' ∧ ds ++ rest = r := by simpa using heq
      rw [hd c List.mem_cons_self, ht]
      dsimp only
      rw [h.digitAhead, hv]
      exact run_afterWhole n h

end Natural

end ListingPanel.Json
