import ListingPanel.Proofs.Json.Layout
import ListingPanel.Proofs.Json.Numbers

/-!
What is passed over as a value is a document, in any layout, and nothing else. So a text is a
layout of one document only.
-/
namespace ListingPanel.Json

variable {p : Part} {d : Document} {ds : List Document} {ms : List (List Char × Document)}
  {sp t cs rest : List Char} {first : Bool} {fuel : Nat}

/-! ### Passing over what is laid out -/

theorem run_skipSeparator (first : Bool) (fault : Fault) (cs : List Char) :
    (skipSeparator first fault).run (separator first ++ cs) = .ok ((), cs) := by
  cases first <;> rfl

theorem of_run_skipSeparator {fault : Fault}
    (h : (skipSeparator first fault).run cs = .ok ((), rest)) : cs = separator first ++ rest := by
  cases first with
  | true => cases h; rfl
  | false =>
    rw [skipSeparator, if_neg (by decide), run_bind (run_get _)] at h
    split at h
    · cases h
      rfl
    · cases h

/-- What a look ahead sees before an item or a member is its separator or its first character. -/
theorem run_peek_separator (hs : Blank sp) {gap : List Char} (hg : Blank gap) {c : Char}
    (hc : isSpace c = false) (first : Bool) (r : List Char) :
    ∃ x gap', Blank gap' ∧ (x = c ∨ x = ',') ∧
      peek.run (sp ++ (separator first ++ (gap ++ c :: r))) =
        .ok (some x, separator first ++ (gap' ++ c :: r)) := by
  cases first with
  | true =>
    refine ⟨c, [], blank_nil, Or.inl rfl, ?_⟩
    simpa [separator] using run_peek (blank_append hs hg) hc r
  | false => exact ⟨',', gap, hg, Or.inr rfl, run_peek hs (by decide) _⟩

theorem run_skipName (hs : Blank sp) (ht : StringText t) (rest : List Char) :
    skipName.run (sp ++ '"' :: (t ++ '"' :: rest)) = .ok ((), rest) := by
  rw [skipName, run_bind (run_peek hs (by decide) _)]
  exact (run_bind (run_advance ..) _).trans (run_skipStringBody ht rest)

theorem of_run_skipName (h : skipName.run cs = .ok ((), rest)) :
    ∃ sp t, Blank sp ∧ StringText t ∧ cs = sp ++ '"' :: (t ++ '"' :: rest) := by
  rcases of_run_peek h with hnone | ⟨sp, c, r, hs, -, rfl, hsome⟩
  · cases hnone
  · split at hsome
    · next heq =>
      cases heq
      rw [run_bind (run_advance ..)] at hsome
      obtain ⟨t, ht, rfl⟩ := of_run_skipStringBody hsome
      exact ⟨sp, t, hs, ht, rfl⟩
    · cases hsome
    · cases hsome

theorem run_colon (hs : Blank sp) (rest : List Char) :
    colon.run (sp ++ ':' :: rest) = .ok ((), rest) := by
  rw [colon, run_bind (run_peek hs (by decide) _)]
  rfl

theorem of_run_colon (h : colon.run cs = .ok ((), rest)) :
    ∃ sp, Blank sp ∧ cs = sp ++ ':' :: rest := by
  rcases of_run_peek h with hnone | ⟨sp, c, r, hs, -, rfl, hsome⟩
  · cases hnone
  · split at hsome
    · next heq =>
      cases heq
      cases hsome
      exact ⟨sp, hs, rfl⟩
    · cases hsome
    · cases hsome

theorem run_skipValueWith_blank (hs : Blank sp) (fuel : Nat) (cs : List Char) :
    (skipValueWith fuel).run (sp ++ cs) = (skipValueWith fuel).run cs := by
  cases fuel with
  | zero => rfl
  | succ fuel =>
    rw [skipValueWith]
    exact run_peek_bind hs _ cs

theorem run_skipValueWith_digit {c : Char} (hc : c.isDigit = true) (fuel : Nat) (cs : List Char) :
    (skipValueWith (fuel + 1)).run (c :: cs) = skipNumber.run (c :: cs) := by
  rw [skipValueWith, run_bind (run_peek_cons (isSpace_of_isDigit hc) cs)]
  split
  case h_1 heq => cases heq
  case h_9 heq => cases heq; rw [if_pos hc]
  all_goals next heq => cases heq; exact absurd hc (by decide)

theorem run_skipValueWith_scalar (hs : Blank sp) (h : ScalarText t) (hr : Follows rest)
    (fuel : Nat) : (skipValueWith (fuel + 1)).run (sp ++ (t ++ rest)) = .ok ((), rest) := by
  rw [run_skipValueWith_blank hs]
  cases h with
  | null =>
    rw [skipValueWith]
    exact (run_bind (run_peek_cons rfl _) _).trans (run_word "null".toList rest)
  | true =>
    rw [skipValueWith]
    exact (run_bind (run_peek_cons rfl _) _).trans (run_word "true".toList rest)
  | false =>
    rw [skipValueWith]
    exact (run_bind (run_peek_cons rfl _) _).trans (run_word "false".toList rest)
  | @string t ht =>
    rw [List.cons_append, List.append_assoc, List.singleton_append, skipValueWith,
      run_bind (run_peek_cons rfl _)]
    exact (run_bind (run_advance ..) _).trans (run_skipStringBody ht rest)
  | number h =>
    obtain ⟨sign, w, f, e, hsign, hw, hf, he, rfl⟩ := h
    have hnumber := run_skipNumber hw hf he hr
    rcases hsign with rfl | rfl
    · obtain ⟨c, r, rfl, hc⟩ := hw.head
      exact (run_skipValueWith_digit hc _ _).trans hnumber
    · rw [skipValueWith]
      exact (run_bind (run_peek_cons rfl _) _).trans ((run_bind (run_advance ..) _).trans hnumber)

/-- The reader that passes over a part. -/
def Part.skip (fuel : Nat) : Part → Reader Unit
  | .value _ => skipValueWith fuel
  | .items first _ => skipItemsWith (fuel + 1) first
  | .members first _ => skipMembersWith (fuel + 1) first

theorem Laid.run_skip (h : Laid p cs rest) (hr : Follows rest) (hf : 2 * cs.length < fuel) :
    (p.skip fuel).run cs = .ok ((), rest) := by
  induction h generalizing fuel with
  | scalar hs h =>
    obtain ⟨fuel, rfl⟩ := Nat.exists_eq_add_one_of_ne_zero (Nat.ne_zero_of_lt hf)
    exact run_skipValueWith_scalar hs h hr fuel
  | @array sp cs rest ds hs h ih =>
    rw [List.length_append, List.length_cons] at hf
    obtain ⟨fuel, rfl⟩ : ∃ k, fuel = k + 2 := Nat.exists_eq_add_of_le' (by omega)
    rw [Part.skip, skipValueWith, run_bind (run_peek hs (by decide) _)]
    exact (run_bind (run_advance ..) _).trans (ih hr (by omega))
  | @object sp cs rest ms hs h ih =>
    rw [List.length_append, List.length_cons] at hf
    obtain ⟨fuel, rfl⟩ : ∃ k, fuel = k + 2 := Nat.exists_eq_add_of_le' (by omega)
    rw [Part.skip, skipValueWith, run_bind (run_peek hs (by decide) _)]
    exact (run_bind (run_advance ..) _).trans (ih hr (by omega))
  | noItem hs =>
    rw [Part.skip, skipItemsWith, run_bind (run_peek hs (by decide) _)]
    rfl
  | @item sp cs cs' rest first d ds hs h hds ih ih' =>
    have hlt := h.length_lt
    simp only [List.length_append] at hf
    obtain ⟨fuel, rfl⟩ := Nat.exists_eq_add_one_of_ne_zero (Nat.ne_zero_of_lt hf)
    have hvalue := ih hds.follows_items (show 2 * cs.length < fuel + 1 by omega)
    have hitems := ih' hr (show 2 * cs'.length < fuel by omega)
    obtain ⟨sp', c, r, hs', hc, rfl⟩ := h.starts
    obtain ⟨x, gap, hg, hx, hpeek⟩ := run_peek_separator hs hs' hc.isSpace first r
    have hend : x ≠ ']' := by
      rcases hx with rfl | rfl
      · exact hc.ne
      · decide
    rw [Part.skip, run_skipValueWith_blank hs', ← run_skipValueWith_blank hg] at hvalue
    rw [Part.skip, skipItemsWith, run_bind hpeek]
    split
    case h_1 heq => cases heq
    case h_2 heq => cases heq; exact absurd rfl hend
    case h_3 => rw [run_bind (run_skipSeparator ..), run_bind hvalue]; exact hitems
  | noMember hs =>
    rw [Part.skip, skipMembersWith, run_bind (run_peek hs (by decide) _)]
    rfl
  | @member sp sp' gap t cs cs' rest first d ms hs hs' ht hg h hms ih ih' =>
    have hlt := h.length_lt
    simp only [List.length_append, List.length_cons] at hf
    obtain ⟨fuel, rfl⟩ := Nat.exists_eq_add_one_of_ne_zero (Nat.ne_zero_of_lt hf)
    have hvalue := ih hms.follows_members (show 2 * cs.length < fuel + 1 by omega)
    have hmembers := ih' hr (show 2 * cs'.length < fuel by omega)
    obtain ⟨x, gap', hg', hx, hpeek⟩ := run_peek_separator hs hs' (c := '"') (by decide) first
      (t ++ '"' :: (gap ++ ':' :: cs))
    rw [Part.skip] at hvalue
    rw [Part.skip, skipMembersWith, run_bind hpeek]
    split
    case h_1 heq => cases heq
    case h_2 heq => cases heq; rcases hx with hx | hx <;> cases hx
    case h_3 =>
      rw [run_bind (run_skipSeparator ..), run_bind (run_skipName hg' ht _),
        run_bind (run_colon hg _), run_bind hvalue]
      exact hmembers

theorem Laid.run_skipValue (h : Laid (.value d) cs rest) (hr : Follows rest) :
    skipValue.run cs = .ok ((), rest) := by
  rw [skipValue, run_bind (run_get _)]
  exact h.run_skip hr (Nat.lt_succ_self _)

/-! ### What is passed over is laid out -/

/-- What is passed over with the fuel is laid out. -/
structure SkipsLaid (fuel : Nat) : Prop where
  value {cs rest : List Char} (h : (skipValueWith fuel).run cs = .ok ((), rest)) :
    ∃ d, Laid (.value d) cs rest
  items {first : Bool} {cs rest : List Char}
    (h : (skipItemsWith fuel first).run cs = .ok ((), rest)) :
    ∃ ds, Laid (.items first ds) cs rest
  members {first : Bool} {cs rest : List Char}
    (h : (skipMembersWith fuel first).run cs = .ok ((), rest)) :
    ∃ ms, Laid (.members first ms) cs rest

theorem SkipsLaid.value_succ (hfuel : SkipsLaid fuel)
    (h : (skipValueWith (fuel + 1)).run cs = .ok ((), rest)) : ∃ d, Laid (.value d) cs rest := by
  rw [skipValueWith] at h
  rcases of_run_peek h with hnone | ⟨sp, c, r, hs, -, rfl, hsome⟩
  · cases hnone
  · split at hsome
    case h_1 heq => cases heq
    case h_2 heq => rw [of_run_word hsome]; exact ⟨_, .scalar hs .null⟩
    case h_3 heq => rw [of_run_word hsome]; exact ⟨_, .scalar hs .true⟩
    case h_4 heq => rw [of_run_word hsome]; exact ⟨_, .scalar hs .false⟩
    case h_5 heq =>
      cases heq
      rw [run_bind (run_advance ..)] at hsome
      obtain ⟨w, f, e, hw, hf, he, rfl⟩ := of_run_skipNumber hsome
      have hnumber : NumberText ('-' :: (w ++ (f ++ e))) :=
        ⟨['-'], w, f, e, Or.inr rfl, hw, hf, he, rfl⟩
      exact ⟨_, .scalar hs (.number hnumber)⟩
    case h_6 heq =>
      cases heq
      rw [run_bind (run_advance ..)] at hsome
      obtain ⟨t, ht, rfl⟩ := of_run_skipStringBody hsome
      exact ⟨_, .string hs ht⟩
    case h_7 heq =>
      cases heq
      rw [run_bind (run_advance ..)] at hsome
      obtain ⟨ds, hds⟩ := hfuel.items hsome
      exact ⟨.array ds, .array hs hds⟩
    case h_8 heq =>
      cases heq
      rw [run_bind (run_advance ..)] at hsome
      obtain ⟨ms, hms⟩ := hfuel.members hsome
      exact ⟨.object ms, .object hs hms⟩
    case h_9 heq =>
      cases heq
      split_ifs at hsome
      · obtain ⟨w, f, e, hw, hf, he, hr⟩ := of_run_skipNumber hsome
        rw [hr]
        exact ⟨_, .scalar hs (.number ⟨[], w, f, e, Or.inl rfl, hw, hf, he, rfl⟩)⟩
      · cases hsome

theorem SkipsLaid.items_succ (hfuel : SkipsLaid fuel)
    (h : (skipItemsWith (fuel + 1) first).run cs = .ok ((), rest)) :
    ∃ ds, Laid (.items first ds) cs rest := by
  rw [skipItemsWith] at h
  rcases of_run_peek h with hnone | ⟨sp, c, r, hs, -, rfl, hsome⟩
  · cases hnone
  · split at hsome
    case h_1 heq => cases heq
    case h_2 heq => cases heq; cases hsome; exact ⟨[], .noItem hs⟩
    case h_3 =>
      obtain ⟨_, cs, hsep, hsome⟩ := of_run_bind hsome
      obtain ⟨_, cs', hvalue, hitems⟩ := of_run_bind hsome
      obtain ⟨d, hd⟩ := hfuel.value hvalue
      obtain ⟨ds, hds⟩ := hfuel.items hitems
      rw [of_run_skipSeparator hsep]
      exact ⟨d :: ds, .item hs hd hds⟩

theorem SkipsLaid.members_succ (hfuel : SkipsLaid fuel)
    (h : (skipMembersWith (fuel + 1) first).run cs = .ok ((), rest)) :
    ∃ ms, Laid (.members first ms) cs rest := by
  rw [skipMembersWith] at h
  rcases of_run_peek h with hnone | ⟨sp, c, r, hs, -, rfl, hsome⟩
  · cases hnone
  · split at hsome
    case h_1 heq => cases heq
    case h_2 heq => cases heq; cases hsome; exact ⟨[], .noMember hs⟩
    case h_3 =>
      obtain ⟨_, cs, hsep, hsome⟩ := of_run_bind hsome
      obtain ⟨_, cs₁, hname, hsome⟩ := of_run_bind hsome
      obtain ⟨_, cs₂, hcolon, hsome⟩ := of_run_bind hsome
      obtain ⟨_, cs₃, hvalue, hmembers⟩ := of_run_bind hsome
      obtain ⟨sp', t, hs', ht, rfl⟩ := of_run_skipName hname
      obtain ⟨gap, hg, rfl⟩ := of_run_colon hcolon
      obtain ⟨d, hd⟩ := hfuel.value hvalue
      obtain ⟨ms, hms⟩ := hfuel.members hmembers
      rw [of_run_skipSeparator hsep]
      exact ⟨(t, d) :: ms, .member hs hs' ht hg hd hms⟩

theorem skipsLaid (fuel : Nat) : SkipsLaid fuel := by
  induction fuel with
  | zero => exact ⟨nofun, nofun, nofun⟩
  | succ fuel ih => exact ⟨ih.value_succ, ih.items_succ, ih.members_succ⟩

theorem of_run_skipValue (h : skipValue.run cs = .ok ((), rest)) :
    ∃ d, Laid (.value d) cs rest := by
  rw [skipValue, run_bind (run_get _)] at h
  exact (skipsLaid _).value h

/-! ### A text is a layout of one document -/

theorem Laid.rest_unique {d' : Document} {rest' : List Char} (h : Laid (.value d) cs rest)
    (hr : Follows rest) (h' : Laid (.value d') cs rest') (hr' : Follows rest') : rest = rest' := by
  have hrun := h.run_skipValue hr
  rw [h'.run_skipValue hr'] at hrun
  cases hrun
  rfl

/-- Whatever stands at the front of the text as a part of this kind is this part. -/
def Part.Only (cs : List Char) : Part → Prop
  | .value d => ∀ {d' rest'}, Json.Laid (.value d') cs rest' → Follows rest' → d = d'
  | .items first ds =>
    ∀ {ds' rest'}, Json.Laid (.items first ds') cs rest' → Follows rest' → ds = ds'
  | .members first ms =>
    ∀ {ms' rest'}, Json.Laid (.members first ms') cs rest' → Follows rest' → ms = ms'

theorem Laid.only (h : Laid p cs rest) (hr : Follows rest) : p.Only cs := by
  induction h with
  | @scalar sp t rest hs h =>
    intro d' rest' h' hr'
    obtain rfl := (Laid.scalar hs h).rest_unique hr h' hr'
    obtain ⟨c, hc, hc'⟩ := (Laid.scalar hs h).starts_both h'
    cases d' with
    | scalar t' =>
      obtain ⟨x, r, rfl, hx⟩ := h.head
      have hstart : (Document.scalar (x :: r)).Starts x := hx
      have heq : x :: r ++ rest = t' ++ rest := h'.of_scalar hs hstart.isSpace
      rw [List.append_cancel_right heq]
    | array ds => cases hc'; exact absurd rfl (StartsScalar.ne hc).2.1
    | object ms => cases hc'; exact absurd rfl (StartsScalar.ne hc).2.2
  | @array sp cs rest ds hs h ih =>
    intro d' rest' h' hr'
    obtain ⟨c, rfl, hc⟩ := (Laid.array hs h).starts_both h'
    cases d' with
    | scalar t => exact absurd rfl (StartsScalar.ne hc).2.1
    | array ds' => rw [ih hr (h'.of_array hs) hr']
    | object ms => cases hc
  | @object sp cs rest ms hs h ih =>
    intro d' rest' h' hr'
    obtain ⟨c, rfl, hc⟩ := (Laid.object hs h).starts_both h'
    cases d' with
    | scalar t => exact absurd rfl (StartsScalar.ne hc).2.2
    | array ds' => cases hc
    | object ms' => rw [ih hr (h'.of_object hs) hr']
  | noItem hs =>
    intro ds' rest' h' hr'
    cases ds' with
    | nil => rfl
    | cons d ds => exact (h'.items_ne_end hs).elim
  | @item sp cs cs' rest first d ds hs h hds ih ih' =>
    intro ds' rest' h' hr'
    obtain ⟨gap, c, r, hg, hc, rfl⟩ := h.starts
    cases ds' with
    | nil =>
      obtain ⟨sp', hs', htext⟩ := h'.of_noItem
      have hitem : Laid (.items first (d :: ds)) _ rest := .item hs h hds
      rw [htext] at hitem
      exact (hitem.items_ne_end hs').elim
    | cons d' ds' =>
      obtain ⟨cs'', hd', hds'⟩ := h'.of_item hs hg hc.isSpace
      have hf := hds.follows_items
      have hf' := hds'.follows_items
      obtain rfl := h.rest_unique hf hd' hf'
      rw [ih hf hd' hf', ih' hr hds' hr']
  | noMember hs =>
    intro ms' rest' h' hr'
    cases ms' with
    | nil => rfl
    | cons m ms => exact (h'.members_ne_end hs).elim
  | @member sp sp' gap t cs cs' rest first d ms hs hs' ht hg h hms ih ih' =>
    intro ms' rest' h' hr'
    cases ms' with
    | nil =>
      obtain ⟨sp₁, hs₁, htext⟩ := h'.of_noMember
      have hmember : Laid (.members first ((t, d) :: ms)) _ rest := .member hs hs' ht hg h hms
      rw [htext] at hmember
      exact (hmember.members_ne_end hs₁).elim
    | cons m ms' =>
      obtain ⟨rfl, cs'', hd', hms'⟩ := h'.of_member hs hs' ht hg
      have hf := hms.follows_members
      have hf' := hms'.follows_members
      obtain rfl := h.rest_unique hf hd' hf'
      rw [ih hf hd' hf', ih' hr hms' hr']

theorem Blank.follows (h : Blank sp) : Follows sp := by
  simpa using follows_nil.blank h

/-- A whole text stands for one document at most. -/
theorem Document.Laid.unique {d' : Document} (h : d.Laid cs) (h' : d'.Laid cs) : d = d' := by
  obtain ⟨rest, h, hb⟩ := h
  obtain ⟨rest', h', hb'⟩ := h'
  exact h.only (Blank.follows hb) h' (Blank.follows hb')

end ListingPanel.Json
