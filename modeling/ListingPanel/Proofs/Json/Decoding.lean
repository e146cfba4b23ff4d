import ListingPanel.Proofs.Json.Skipping
import Mathlib.Data.List.Forall2

/-!
What readers take documents for. A reader goes with a relation between documents and values: it
takes every layout of a document for each of its values, and whatever it takes is a layout of a
document that has the value.
-/
namespace ListingPanel.Json

structure Takes {α : Type} (q : Reader α) (R : Document → α → Prop) : Prop where
  reads {d a cs rest} (h : Laid (.value d) cs rest) (hr : Follows rest) (ha : R d a) :
    q.run cs = .ok (a, rest)
  taken {a cs rest} (h : q.run cs = .ok (a, rest)) : ∃ d, Laid (.value d) cs rest ∧ R d a

/-- The reader takes the items that stand between brackets, up to the closing one. -/
structure TakesItems {α : Type} (q : Reader α) (R : List Document → α → Prop) : Prop where
  reads {ds a cs rest} (h : Laid (.items true ds) cs rest) (ha : R ds a) :
    ∃ mid, q.run cs = .ok (a, mid) ∧ ∃ first, Laid (.items first []) mid rest
  taken {a cs mid} (h : q.run cs = .ok (a, mid)) :
    ∃ ds, R ds a ∧ ∀ {rest}, Laid (.items false []) mid rest → Laid (.items true ds) cs rest

variable {α β : Type} {q item : Reader α} {R : Document → α → Prop} {d : Document}
  {ds : List Document} {cs mid rest : List Char} {first : Bool}

theorem Takes.congr {R' : Document → α → Prop} (h : Takes q R) (hR : ∀ d a, R d a ↔ R' d a) :
    Takes q R' := by
  have heq : R = R' := funext fun d => funext fun a => propext (hR d a)
  rwa [← heq]

/-- What is made of a value takes no text. -/
theorem Takes.bind {f : α → Reader β} {g : α → β} (h : Takes q R)
    (hf : ∀ {d a}, R d a → f a = pure (g a)) : Takes (q >>= f) fun d b => ∃ a, R d a ∧ b = g a where
  reads := by
    rintro d b cs rest hd hr ⟨a, ha, rfl⟩
    rw [run_bind (h.reads hd hr ha), hf ha]
    rfl
  taken := by
    intro b cs rest hrun
    obtain ⟨a, mid, hq, hb⟩ := of_run_bind hrun
    obtain ⟨d, hd, ha⟩ := h.taken hq
    rw [hf ha] at hb
    cases hb
    exact ⟨d, hd, a, ha, rfl⟩

/-- A whole text is read for what its document is taken for. -/
theorem Takes.readText_eq_ok_iff {text : List Char} {a : α} (h : Takes q R) :
    readText q text = .ok a ↔ ∃ d, Document.Laid d text ∧ R d a := by
  unfold readText
  constructor
  · intro hread
    cases hq : q.run text with
    | error f => rw [hq] at hread; cases hread
    | ok p =>
      rw [hq] at hread
      change Except.bind (.ok p) _ = _ at hread
      dsimp only [Except.bind] at hread
      split at hread
      · next hnil =>
        cases hread
        obtain ⟨d, hd, ha⟩ := h.taken hq
        exact ⟨d, ⟨p.2, hd, List.dropWhile_eq_nil_iff.mp hnil⟩, ha⟩
      · cases hread
  · rintro ⟨d, ⟨rest, hd, hb⟩, ha⟩
    rw [h.reads hd (Blank.follows hb) ha]
    change Except.bind (.ok (a, rest)) _ = _
    dsimp only [Except.bind]
    rw [List.dropWhile_eq_nil_iff.mpr hb]
    rfl

/-! ### Scalars -/

def null : Document := .scalar "null".toList

def IsNatural (limit : Nat) (d : Document) (n : Nat) : Prop :=
  d = .scalar (Nat.toDigits 10 n) ∧ n ≤ limit

def IsBoolean (d : Document) (b : Bool) : Prop :=
  d = .scalar (if b then "true" else "false").toList

def IsString (d : Document) (s : String) : Prop :=
  ∃ t, Spells t s.toList ∧ d = .scalar ('"' :: (t ++ ['"']))

/-- A value that `null` may stand in place of. -/
def Optional (R : Document → α → Prop) (d : Document) : Option α → Prop
  | none => d = null
  | some a => R d a

theorem avoids_mismatch (expected : String) :
    Avoids (mismatch expected : Reader α) fun _ => True := by
  unfold mismatch
  refine .bind fun o => ?_
  split
  · exact .bind fun _ => avoids_throw _ _
  · exact .bind fun _ => avoids_throw _ _
  · exact .bind fun _ => avoids_throw _ _
  · exact .bind fun _ => .bind fun _ => avoids_throw _ _
  · exact .bind fun _ => .bind fun _ => avoids_throw _ _
  · exact avoids_throw _ _
  · exact avoids_throw _ _
  · exact .ite (.bind fun _ => avoids_throw _ _) (avoids_throw _ _)
  · exact avoids_throw _ _

theorem mismatch_ne_ok {expected : String} {a : α}
    (h : (mismatch expected).run cs = .ok (a, rest)) : False :=
  avoids_mismatch expected cs a rest h trivial

theorem Laid.text {t : List Char} (h : Laid (.value (.scalar t)) cs rest) :
    ∃ sp, Blank sp ∧ ScalarText t ∧ cs = sp ++ (t ++ rest) := by
  cases h with
  | scalar hs h => exact ⟨_, hs, h, rfl⟩

theorem numberText_toDigits (n : Nat) : NumberText (Nat.toDigits 10 n) := by
  refine ⟨[], Nat.toDigits 10 n, [], [], Or.inl rfl, ?_, Or.inl rfl, Or.inl rfl, by simp⟩
  rcases Nat.eq_zero_or_pos n with rfl | hn
  · exact Or.inl rfl
  · obtain ⟨c, ds, hs, hc⟩ := Text.toDigits_eq_cons_of_pos hn
    refine Or.inr ⟨⟨Nat.toDigits_ne_nil, fun d hd => Text.isDigit_of_mem_toDigits hd⟩, ?_⟩
    simpa [hs] using hc

theorem scalarText_toDigits (n : Nat) : ScalarText (Nat.toDigits 10 n) :=
  .number (numberText_toDigits n)

theorem takes_natural {limit : Nat} (hl : limit ≤ Text.maxWord) (expected : String) :
    Takes (natural limit expected) (IsNatural limit) where
  reads := by
    rintro d n cs rest h hr ⟨rfl, hn⟩
    obtain ⟨sp, hs, -, rfl⟩ := h.text
    obtain ⟨c, ds, hd, hc⟩ := Text.toDigits_eq_cons n
    have hnumber := run_number (Nat.le_trans hn hl) hr
    rw [hd, List.cons_append] at hnumber ⊢
    rw [natural, run_bind (run_peek hs (isSpace_of_isDigit hc) _)]
    split
    case h_1 heq => cases heq
    case h_2 heq => cases heq; exact absurd hc (by decide)
    case h_3 heq =>
      cases heq
      rw [if_pos hc, run_bind hnumber]
      dsimp only
      rw [if_pos hn]
      rfl
  taken := by
    intro n cs rest h
    unfold natural at h
    rcases of_run_peek h with hnone | ⟨sp, c, r, hs, -, rfl, hsome⟩
    · cases hnone
    · extract_lets keep at hsome
      have hkeep : ∀ x {cs}, (keep x).run cs = .ok (n, rest) →
          x = .natural n ∧ n ≤ limit ∧ cs = rest := by
        intro x cs hx
        cases x with
        | natural m =>
          dsimp only [keep] at hx
          split_ifs at hx with hm
          · cases hx
            exact ⟨rfl, hm, rfl⟩
          · cases hx
        | negative m => cases hx
        | real minus x => cases hx
      split at hsome
      case h_1 heq => cases heq
      case h_2 heq =>
        cases heq
        rw [run_bind (run_advance ..)] at hsome
        obtain ⟨x, mid, hnumber, hx⟩ := of_run_bind hsome
        obtain ⟨rfl, -, -⟩ := hkeep x hx
        cases (of_run_number hnumber).1
      case h_3 heq =>
        cases heq
        split_ifs at hsome
        · obtain ⟨x, mid, hnumber, hx⟩ := of_run_bind hsome
          obtain ⟨rfl, hn, rfl⟩ := hkeep x hx
          obtain ⟨-, -, hcs⟩ := of_run_number hnumber
          rw [hcs]
          exact ⟨_, .scalar hs (scalarText_toDigits n), rfl, hn⟩
        · obtain ⟨x, mid, hmismatch, hx⟩ := of_run_bind hsome
          exact (mismatch_ne_ok hmismatch).elim

theorem takes_boolean : Takes boolean IsBoolean where
  reads := by
    rintro d b cs rest h hr rfl
    obtain ⟨sp, hs, -, rfl⟩ := h.text
    cases b with
    | true =>
      exact (run_bind (run_peek hs rfl _) _).trans (run_bind (run_word "true".toList rest) _)
    | false =>
      exact (run_bind (run_peek hs rfl _) _).trans (run_bind (run_word "false".toList rest) _)
  taken := by
    intro b cs rest h
    unfold boolean at h
    rcases of_run_peek h with hnone | ⟨sp, c, r, hs, -, rfl, hsome⟩
    · cases hnone
    · split at hsome
      case h_1 heq => cases heq
      case h_2 heq =>
        obtain ⟨_, _, hword, hpure⟩ := of_run_bind hsome
        cases hpure
        rw [of_run_word hword]
        exact ⟨_, .scalar hs .true, rfl⟩
      case h_3 heq =>
        obtain ⟨_, _, hword, hpure⟩ := of_run_bind hsome
        cases hpure
        rw [of_run_word hword]
        exact ⟨_, .scalar hs .false, rfl⟩
      case h_4 heq => exact (mismatch_ne_ok hsome).elim

theorem takes_string (expected : String) : Takes (string expected) IsString where
  reads := by
    rintro d s cs rest h hr ⟨t, ht, rfl⟩
    obtain ⟨sp, hs, -, rfl⟩ := h.text
    rw [List.cons_append, List.append_assoc, List.singleton_append, string,
      run_bind (run_peek hs rfl _)]
    exact (run_bind (run_advance ..) _).trans (run_stringBody ht rest)
  taken := by
    intro s cs rest h
    unfold string at h
    rcases of_run_peek h with hnone | ⟨sp, c, r, hs, -, rfl, hsome⟩
    · cases hnone
    · split at hsome
      case h_1 heq => cases heq
      case h_2 heq =>
        cases heq
        rw [run_bind (run_advance ..)] at hsome
        obtain ⟨t, ht, rfl⟩ := of_run_stringBody hsome
        exact ⟨_, .string hs ht.stringText, t, ht, rfl⟩
      case h_3 heq => exact (mismatch_ne_ok hsome).elim

/-- Of the scalars only `null` starts with its first letter. -/
theorem ScalarText.eq_null {r : List Char} (h : ScalarText ('n' :: r)) :
    'n' :: r = "null".toList := by
  generalize ht : 'n' :: r = t at h
  cases h with
  | null => rfl
  | true => cases ht
  | false => cases ht
  | string h => cases ht
  | number h =>
    obtain ⟨sign, w, f, e, hs, hw, -, -, rfl⟩ := h
    obtain ⟨c, r', rfl, hc⟩ := hw.head
    rcases hs with rfl | rfl <;> cases ht
    exact absurd hc (by decide)

theorem Laid.eq_null {r : List Char} (h : Laid (.value d) ('n' :: r) rest) : d = null := by
  obtain ⟨sp, c, r', hs, hc, hcs⟩ := h.starts
  obtain ⟨rfl, rfl⟩ := blank_cons_unique blank_nil rfl hs hc.isSpace hcs
  cases d with
  | scalar t =>
    obtain ⟨-, -, ht, -⟩ := h.text
    have hn := h.of_scalar blank_nil rfl
    obtain ⟨c, t, rfl, -⟩ := ht.head
    cases hn
    rw [null, ht.eq_null]
  | array ds => cases hc
  | object ms => cases hc

theorem Takes.optional (h : Takes q R) (hn : ∀ a, ¬ R null a) :
    Takes (optional q) (Optional R) where
  reads := by
    rintro d o cs rest hd hr ho
    cases o with
    | none =>
      obtain rfl : d = null := ho
      obtain ⟨sp, hs, -, rfl⟩ := hd.text
      exact (run_bind (run_peek hs rfl _) _).trans (run_bind (run_word "null".toList rest) _)
    | some a =>
      obtain ⟨sp, c, r, hs, hc, rfl⟩ := hd.starts
      have hq := h.reads (hd.of_blank hs hc.isSpace) hr ho
      rw [Json.optional, run_bind (run_peek hs hc.isSpace _)]
      split
      case h_1 heq =>
        cases heq
        rw [(hd.of_blank hs rfl).eq_null] at ho
        exact absurd ho (hn a)
      case h_2 => exact run_map hq _
  taken := by
    intro o cs rest hrun
    unfold Json.optional at hrun
    rcases of_run_peek hrun with hnone | ⟨sp, c, r, hs, hc, rfl, hsome⟩
    · obtain ⟨a, ha, -⟩ := of_run_map hnone
      obtain ⟨d, hd, -⟩ := h.taken ha
      exact absurd hd.length_lt (Nat.not_lt_zero _)
    · split at hsome
      case h_1 heq =>
        obtain ⟨_, _, hword, hpure⟩ := of_run_bind hsome
        cases hpure
        rw [of_run_word hword]
        exact ⟨null, .scalar hs .null, rfl⟩
      case h_2 =>
        obtain ⟨a, ha, rfl⟩ := of_run_map hsome
        obtain ⟨d, hd, hR⟩ := h.taken ha
        exact ⟨d, hd.blank hs, hR⟩

/-! ### Arrays -/

theorem run_closeArray (h : Laid (.items first []) cs rest) :
    closeArray.run cs = .ok ((), rest) := by
  obtain ⟨sp, hs, rfl⟩ := h.of_noItem
  rw [closeArray, run_bind (run_peek hs (by decide) _)]
  rfl

theorem of_run_closeArray (h : closeArray.run cs = .ok ((), rest)) (first : Bool) :
    Laid (.items first []) cs rest := by
  unfold closeArray at h
  rcases of_run_peek h with hnone | ⟨sp, c, r, hs, -, rfl, hsome⟩
  · cases hnone
  · split at hsome
    case h_1 heq => cases heq; cases hsome; exact .noItem hs
    case h_2 heq =>
      rw [run_bind (run_advance ..)] at hsome
      obtain ⟨o, _, -, hthrow⟩ := of_run_bind hsome
      split at hthrow <;> cases hthrow
    case h_3 heq => cases hsome
    case h_4 heq => cases hsome

theorem run_itemAhead_end (h : Laid (.items first []) cs rest) :
    (itemAhead first).run cs = .ok (false, ']' :: rest) := by
  obtain ⟨sp, hs, rfl⟩ := h.of_noItem
  rw [itemAhead, run_bind (run_peek hs rfl _)]
  rfl

theorem run_itemAhead (h : Laid (.items first (d :: ds)) cs rest) :
    ∃ mid cs', (itemAhead first).run cs = .ok (true, mid) ∧ mid.length ≤ cs.length ∧
      Laid (.value d) mid cs' ∧ Laid (.items false ds) cs' rest := by
  cases h with
  | @item sp cs cs' _ _ _ _ hs h hds =>
    obtain ⟨gap, c, r, hg, hc, rfl⟩ := h.starts
    have hle : (c :: r).length ≤ (sp ++ (separator first ++ (gap ++ c :: r))).length := by
      simp only [List.length_append]
      omega
    refine ⟨c :: r, cs', ?_, hle, h.of_blank hg hc.isSpace, hds⟩
    cases first with
    | true =>
      rw [separator, if_pos rfl, List.nil_append, ← List.append_assoc, itemAhead,
        run_bind (run_peek (blank_append hs hg) hc.isSpace _)]
      split
      case h_1 heq => cases heq
      case h_2 heq => cases heq; exact absurd rfl hc.ne
      case h_3 => rfl
    | false =>
      rw [separator, if_neg (by decide), List.singleton_append, itemAhead,
        run_bind (run_peek hs (by decide) _)]
      change (advance >>= fun _ => peek >>= _).run _ = _
      rw [run_bind (run_advance ..), run_bind (run_peek hg hc.isSpace _)]
      split
      case h_1 heq => cases heq; exact absurd rfl hc.ne
      case h_2 => rfl
      case h_3 heq => cases heq

/-- No item is ahead, or an item that is laid out ahead begins the items that are left. -/
theorem of_run_itemAhead {b : Bool} (h : (itemAhead first).run cs = .ok (b, mid)) :
    (b = false ∧ ∃ sp, Blank sp ∧ cs = sp ++ mid) ∨
    (b = true ∧ ∀ {d ds cs' rest}, Laid (.value d) mid cs' → Laid (.items false ds) cs' rest →
      Laid (.items first (d :: ds)) cs rest) := by
  unfold itemAhead at h
  rcases of_run_peek h with hnone | ⟨sp, c, r, hs, -, rfl, hsome⟩
  · cases hnone
  · split at hsome
    case h_1 heq => cases heq
    case h_2 heq => cases heq; cases hsome; exact Or.inl ⟨rfl, sp, hs, rfl⟩
    case h_3 heq =>
      cases heq
      split_ifs at hsome with hfirst hcomma
      · cases hsome
        refine Or.inr ⟨rfl, fun hd hds => ?_⟩
        rw [hfirst]
        exact .item hs hd hds
      · subst hcomma
        rw [run_bind (run_advance ..)] at hsome
        rcases of_run_peek hsome with hnone | ⟨sp', c, r, hs', -, rfl, hitem⟩
        · cases hnone
        · split at hitem
          case h_1 heq => cases hitem
          case h_2 heq =>
            cases hitem
            refine Or.inr ⟨rfl, fun hd hds => ?_⟩
            rw [Bool.eq_false_iff.mpr hfirst]
            exact .item hs (hd.blank hs') hds
          case h_3 heq => cases heq
      · cases hsome

variable {a : α} {b : β} {as : List α} {f : α → Reader β} {g : Reader β} {fuel : Nat}

/-- An item is taken, and those after it are left. -/
theorem Takes.run_item (ht : Takes item R) (h : Laid (.items first (d :: ds)) cs rest) (ha : R d a)
    (f : α → Reader β) (g : Reader β) :
    ∃ cs', cs'.length < cs.length ∧ Laid (.items false ds) cs' rest ∧
      (do if ← itemAhead first then f (← item) else g).run cs = (f a).run cs' := by
  obtain ⟨mid, cs', hahead, hle, hd, hds⟩ := run_itemAhead h
  refine ⟨cs', Nat.lt_of_lt_of_le hd.length_lt hle, hds, ?_⟩
  rw [run_bind hahead]
  exact run_bind (ht.reads hd hds.follows_items ha) f

theorem Takes.of_run_item (ht : Takes item R)
    (h : (do if ← itemAhead first then f (← item) else g).run cs = .ok (b, mid)) :
    (∃ sp cs', Blank sp ∧ cs = sp ++ cs' ∧ g.run cs' = .ok (b, mid)) ∨
    ∃ d a cs', R d a ∧ (f a).run cs' = .ok (b, mid) ∧
      ∀ {ds rest}, Laid (.items false ds) cs' rest → Laid (.items first (d :: ds)) cs rest := by
  obtain ⟨ahead, cs', hahead, hrun⟩ := of_run_bind h
  rcases of_run_itemAhead hahead with ⟨rfl, sp, hs, rfl⟩ | ⟨rfl, hlaid⟩
  · exact Or.inl ⟨sp, cs', hs, rfl, hrun⟩
  · obtain ⟨a, cs'', hitem, hf⟩ := of_run_bind hrun
    obtain ⟨d, hd, ha⟩ := ht.taken hitem
    exact Or.inr ⟨d, a, cs'', ha, hf, fun hds => hlaid hd hds⟩

/-- The end of an array has no item before it. -/
theorem Laid.end_blank {sp : List Char} (h : Laid (.items false []) cs rest) (hs : Blank sp)
    (first : Bool) : Laid (.items first []) (sp ++ cs) rest := by
  obtain ⟨sp', hs', rfl⟩ := h.of_noItem
  rw [← List.append_assoc]
  exact .noItem (blank_append hs hs')

theorem Takes.run_itemsWith (ht : Takes item R) (h : Laid (.items first ds) cs rest)
    (ha : List.Forall₂ R ds as) (hf : cs.length < fuel) :
    ∃ mid, (itemsWith item fuel first).run cs = .ok (as, mid) ∧
      Laid (.items false []) mid rest := by
  induction ha generalizing first cs fuel with
  | nil =>
    obtain ⟨fuel, rfl⟩ := Nat.exists_eq_add_one_of_ne_zero (Nat.ne_zero_of_lt hf)
    refine ⟨']' :: rest, ?_, .noItem blank_nil⟩
    rw [itemsWith, run_bind (run_itemAhead_end h)]
    rfl
  | @cons d a ds as hd _ ih =>
    obtain ⟨fuel, rfl⟩ := Nat.exists_eq_add_one_of_ne_zero (Nat.ne_zero_of_lt hf)
    obtain ⟨cs', hlt, hds, hrun⟩ := ht.run_item h hd
      (fun a => itemsWith item fuel false >>= fun as => pure (a :: as)) (pure [])
    obtain ⟨mid, hmid, hend⟩ := ih hds (show cs'.length < fuel by omega)
    refine ⟨mid, ?_, hend⟩
    rw [itemsWith]
    exact hrun.trans (run_bind hmid _)

theorem Takes.of_run_itemsWith (ht : Takes item R)
    (h : (itemsWith item fuel first).run cs = .ok (as, mid)) :
    ∃ ds, List.Forall₂ R ds as ∧
      ∀ {rest}, Laid (.items false []) mid rest → Laid (.items first ds) cs rest := by
  induction fuel generalizing first cs as with
  | zero => cases h
  | succ fuel ih =>
    rw [itemsWith] at h
    rcases ht.of_run_item h with ⟨sp, cs', hs, rfl, hend⟩ | ⟨d, a, cs', ha, hrun, hlaid⟩
    · cases hend
      exact ⟨[], .nil, fun hmid => hmid.end_blank hs first⟩
    · obtain ⟨as, mid, hitems, hpure⟩ := of_run_bind hrun
      cases hpure
      obtain ⟨ds, has, hds⟩ := ih hitems
      exact ⟨d :: ds, .cons ha has, fun hmid => hlaid (hds hmid)⟩

/-- Items that are taken between brackets are taken as an array. -/
theorem TakesItems.takes_array {R : List Document → α → Prop} (hq : TakesItems q R)
    (expected : String) :
    Takes (do
      match ← peek with
      | none => throw .endInValue
      | some '[' =>
        advance
        let a ← q
        closeArray
        return a
      | some _ => mismatch expected) fun d a => ∃ ds, d = .array ds ∧ R ds a where
  reads := by
    rintro d a cs rest hd hr ⟨ds, rfl, ha⟩
    cases hd with
    | array hs hds =>
      obtain ⟨mid, hmid, first, hend⟩ := hq.reads hds ha
      rw [run_bind (run_peek hs (by decide) _)]
      refine (run_bind (run_advance ..) _).trans ?_
      rw [run_bind hmid, run_bind (run_closeArray hend)]
      rfl
  taken := by
    intro a cs rest h
    rcases of_run_peek h with hnone | ⟨sp, c, r, hs, -, rfl, hsome⟩
    · cases hnone
    · split at hsome
      case h_1 heq => cases heq
      case h_2 heq =>
        cases heq
        rw [run_bind (run_advance ..)] at hsome
        obtain ⟨a, mid, hitems, hrest⟩ := of_run_bind hsome
        obtain ⟨_, _, hclose, hpure⟩ := of_run_bind hrest
        cases hpure
        obtain ⟨ds, ha, hlaid⟩ := hq.taken hitems
        exact ⟨.array ds, .array hs (hlaid (of_run_closeArray hclose false)), ds, rfl, ha⟩
      case h_3 heq => exact (mismatch_ne_ok hsome).elim

theorem Takes.itemsWith (ht : Takes item R) :
    TakesItems (do itemsWith item ((← get).length + 1) true) (List.Forall₂ R) where
  reads {ds as cs rest} h ha := by
    obtain ⟨mid, hmid, hend⟩ := ht.run_itemsWith h ha (Nat.lt_succ_self cs.length)
    exact ⟨mid, (run_bind (run_get _) _).trans hmid, false, hend⟩
  taken h := by
    rw [run_bind (run_get _)] at h
    exact ht.of_run_itemsWith h

theorem Takes.array (ht : Takes item R) :
    Takes (array item) fun d as => ∃ ds, d = .array ds ∧ List.Forall₂ R ds as :=
  ht.itemsWith.takes_array "a sequence"

theorem Takes.run_exactlyFrom (ht : Takes item R) {expected : String} {start : Nat}
    (h : Laid (.items (start = 0) ds) cs rest) (ha : List.Forall₂ R ds as) :
    ∃ mid, (exactlyFrom item expected start as.length).run cs = .ok (as, mid) ∧
      ∃ first, Laid (.items first []) mid rest := by
  induction ha generalizing start cs with
  | nil => exact ⟨cs, rfl, _, h⟩
  | @cons d a ds as hd _ ih =>
    obtain ⟨cs', -, hds, hrun⟩ := ht.run_item h hd
      (fun a => exactlyFrom item expected (start + 1) as.length >>= fun as => pure (a :: as))
      (throw (.wrongLength start expected))
    have hds : Laid (.items (start + 1 = 0) ds) cs' rest := by simpa using hds
    obtain ⟨mid, hmid, hend⟩ := ih hds
    refine ⟨mid, ?_, hend⟩
    rw [List.length_cons, exactlyFrom]
    exact hrun.trans (run_bind hmid _)

theorem Takes.of_run_exactlyFrom (ht : Takes item R) {expected : String} {start count : Nat}
    (h : (exactlyFrom item expected start count).run cs = .ok (as, mid)) :
    as.length = count ∧ ∃ ds, List.Forall₂ R ds as ∧
      ∀ {rest}, Laid (.items false []) mid rest → Laid (.items (start = 0) ds) cs rest := by
  induction count generalizing start cs as with
  | zero =>
    cases h
    exact ⟨rfl, [], .nil, fun hmid => hmid.end_blank blank_nil _⟩
  | succ count ih =>
    rw [exactlyFrom] at h
    rcases ht.of_run_item h with ⟨sp, cs', -, -, hend⟩ | ⟨d, a, cs', ha, hrun, hlaid⟩
    · cases hend
    · obtain ⟨as, mid, hitems, hpure⟩ := of_run_bind hrun
      cases hpure
      obtain ⟨hlen, ds, has, hds⟩ := ih hitems
      exact ⟨by rw [List.length_cons, hlen], d :: ds, .cons ha has, fun hmid => hlaid (hds hmid)⟩

theorem Takes.exactlyFrom (ht : Takes item R) (expected : String) (count : Nat) :
    TakesItems (exactlyFrom item expected 0 count) fun ds as =>
      as.length = count ∧ List.Forall₂ R ds as where
  reads := by
    rintro ds as cs rest h ⟨rfl, ha⟩
    exact ht.run_exactlyFrom h ha
  taken h := by
    obtain ⟨hlen, ds, ha, hlaid⟩ := ht.of_run_exactlyFrom h
    exact ⟨ds, ⟨hlen, ha⟩, hlaid⟩

theorem Takes.exactly (ht : Takes item R) (count : Nat) :
    Takes (exactly count item) fun d as =>
      ∃ ds, d = .array ds ∧ as.length = count ∧ List.Forall₂ R ds as :=
  (ht.exactlyFrom _ count).takes_array _

end ListingPanel.Json
