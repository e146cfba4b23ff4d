import ListingPanel.Proofs.Json.Decoding
import Mathlib.Data.List.Nodup

/-!
Documents of records. A document means a record if each field that it gives has the value given
and each other field its default; reading a record takes the documents that mean it.
-/
namespace ListingPanel.Json

/-- A field of a record, and the documents of its values. -/
structure DocumentField (γ : Type) where
  name : String
  Value : Type
  get : γ → Value
  Means : Document → Value → Prop

/-- The members give `x` for a name. -/
def Member (ms : List (List Char × Document)) (name : String) (x : Document) : Prop :=
  ∃ t, Spells t name.toList ∧ (t, x) ∈ ms

namespace Document

/-- The document of a record gives `x` for a field: as a member of its name, or as the item in its
place. -/
def Gives (names : List String) (name : String) : Document → Document → Prop
  | .object ms, x => Member ms name x
  | .array ds, x => (name, x) ∈ names.zip ds
  | .scalar _, _ => False

/-- A document that may be that of a record: an object whose members have names and do not repeat a
field, or an array with no more items than there are fields. -/
def IsRecord (names : List String) : Document → Prop
  | .object ms =>
    (∀ m ∈ ms, ∃ k : String, Spells m.1 k.toList) ∧
      ms.Pairwise fun m m' => ∀ k ∈ names, Spells m.1 k.toList → ¬ Spells m'.1 k.toList
  | .array ds => ds.length ≤ names.length
  | .scalar _ => False

end Document

section Members

variable {names : List String} {name k : String} {t : List Char} {x d : Document}
  {ms : List (List Char × Document)}

theorem not_member_nil : ¬ Member [] name x := by
  rintro ⟨t, -, ht⟩
  cases ht

theorem member_cons (ht : Spells t k.toList) :
    Member ((t, d) :: ms) name x ↔ (name = k ∧ x = d) ∨ Member ms name x := by
  constructor
  · rintro ⟨t', ht', hmem⟩
    rcases List.mem_cons.mp hmem with heq | hmem
    · cases heq
      exact Or.inl ⟨String.toList_inj.mp (ht'.unique ht), rfl⟩
    · exact Or.inr ⟨t', ht', hmem⟩
  · rintro (⟨rfl, rfl⟩ | ⟨t', ht', hmem⟩)
    · exact ⟨t, ht, List.mem_cons_self⟩
    · exact ⟨t', ht', List.mem_cons_of_mem _ hmem⟩

theorem isRecord_cons (hk : Spells t k.toList)
    (hm : (Document.object ms).IsRecord names) (hnot : k ∈ names → ∀ y, ¬ Member ms k y) :
    (Document.object ((t, d) :: ms)).IsRecord names := by
  refine ⟨List.forall_mem_cons.mpr ⟨⟨k, hk⟩, hm.1⟩, List.pairwise_cons.mpr ⟨?_, hm.2⟩⟩
  intro m hmem k' hk' hs hs'
  obtain rfl : k' = k := String.toList_inj.mp (hs.unique hk)
  exact hnot hk' m.2 ⟨m.1, hs', hmem⟩

end Members

/-- The document means the record `c`, where fields that are not given have their `default`. -/
def Record.Means {γ : Type} (fields : List (DocumentField γ)) (default : γ) (d : Document)
    (c : γ) : Prop :=
  let names := fields.map (·.name)
  d.IsRecord names ∧ ∀ f ∈ fields,
    (∀ x, d.Gives names f.name x → f.Means x (f.get c)) ∧
      ((∀ x, ¬ d.Gives names f.name x) → f.get c = f.get default)

/-! ### Slots -/

/-- A field with the reader of its values, and the place where `σ` keeps what has been read. -/
structure Slot (σ γ : Type) extends DocumentField γ where
  given : σ → Option Value
  give : σ → Value → σ
  read : Reader Value
  takes : Takes read Means

variable {σ γ : Type}

def Slot.field (p : Slot σ γ) : RecordField σ where
  name := p.name
  isSet s := (p.given s).isSome
  read s := do return p.give s (← p.read)

/-- How a record `γ` is read into slots and built from them. -/
structure Plan (σ γ : Type) where
  slots : List (Slot σ γ)
  start : σ
  default : γ
  build : σ → γ
  nodup : (slots.map (·.name)).Nodup
  given_start : ∀ p ∈ slots, p.given start = none
  given_give : ∀ p ∈ slots, ∀ s v, p.given (p.give s v) = some v
  given_give_of_ne : ∀ p ∈ slots, ∀ q ∈ slots, p.name ≠ q.name →
    ∀ s v, p.given (q.give s v) = p.given s
  get_build : ∀ p ∈ slots, ∀ s, p.get (build s) = (p.given s).getD (p.get default)
  ext : ∀ c c', (∀ p ∈ slots, p.get c = p.get c') → c = c'

/-- Filling the slot with what the document gives for it takes `s` to `t`, in reading `c`. -/
def Slot.Filled (p : Slot σ γ) (given : Document → Prop) (c : γ) (s t : σ) : Prop :=
  (∀ x, given x → p.given s = none ∧ p.Means x (p.get c) ∧ p.given t = some (p.get c)) ∧
    ((∀ x, ¬ given x) → p.given t = p.given s)

namespace Plan

variable {S : Plan σ γ} {p q : Slot σ γ} {c : γ} {s t : σ} {x d : Document}
  {P P' : String → Document → Prop} {ms : List (List Char × Document)} {ds : List Document}
  {cs mid rest : List Char} {first : Bool} {fuel : Nat}

def names (S : Plan σ γ) : List String := S.slots.map (·.name)

def recordFields (S : Plan σ γ) : List (RecordField σ) := S.slots.map Slot.field

def Filled (S : Plan σ γ) (P : String → Document → Prop) (c : γ) (s t : σ) : Prop :=
  ∀ p ∈ S.slots, p.Filled (P p.name) c s t

theorem eq_of_name_eq (hp : p ∈ S.slots) (hq : q ∈ S.slots) (h : p.name = q.name) : p = q :=
  List.inj_on_of_nodup_map S.nodup hp hq h

theorem filled_refl (hP : ∀ p ∈ S.slots, ∀ x, ¬ P p.name x) : S.Filled P c s s :=
  fun p hp => ⟨fun x hx => absurd hx (hP p hp x), fun _ => rfl⟩

theorem Filled.congr (hP : ∀ p ∈ S.slots, ∀ x, P p.name x ↔ P' p.name x) (h : S.Filled P' c s t) :
    S.Filled P c s t := by
  intro p hp
  have heq : P p.name = P' p.name := funext fun x => propext (hP p hp x)
  rw [heq]
  exact h p hp

/-- One slot is filled first, and it is not among those that are filled then. -/
theorem Filled.give (hq : q ∈ S.slots) (hfree : q.given s = none) (hx : q.Means x (q.get c))
    (hP : ∀ p ∈ S.slots, ∀ y, P p.name y ↔ (p.name = q.name ∧ y = x) ∨ P' p.name y)
    (hnot : ∀ y, ¬ P' q.name y) (h : S.Filled P' c (q.give s (q.get c)) t) :
    S.Filled P c s t := by
  intro p hp
  by_cases hname : p.name = q.name
  · obtain rfl := S.eq_of_name_eq hp hq hname
    refine ⟨fun y hy => ?_, fun hno => absurd ((hP p hp x).mpr (Or.inl ⟨rfl, rfl⟩)) (hno x)⟩
    obtain ⟨-, rfl⟩ | hy := (hP p hp y).mp hy
    · exact ⟨hfree, hx, by rw [(h p hp).2 hnot, S.given_give p hp]⟩
    · exact absurd hy (hnot y)
  · have hkeep := S.given_give_of_ne p hp q hq hname s (q.get c)
    have hiff : ∀ y, P p.name y ↔ P' p.name y := fun y => by
      rw [hP p hp y]
      exact or_iff_right fun h => hname h.1
    refine ⟨fun y hy => ?_, fun hno => ?_⟩
    · rw [← hkeep]
      exact (h p hp).1 y ((hiff y).mp hy)
    · rw [← hkeep]
      exact (h p hp).2 fun y hy => hno y ((hiff y).mpr hy)

/-- What is filled later stays free. -/
theorem given_give_of_not {v : q.Value} (hq : q ∈ S.slots) (hp : p ∈ S.slots)
    (hnot : ∀ y, ¬ P q.name y) (hx : P p.name x) : p.given (q.give s v) = p.given s := by
  refine S.given_give_of_ne p hp q hq (fun hname => ?_) s v
  rw [hname] at hx
  exact hnot x hx

/-- A slot that is filled once keeps its value. -/
theorem Filled.get_build {v : q.Value} (h : S.Filled P c (q.give s v) t) (hq : q ∈ S.slots)
    (hnot : ∀ y, ¬ P q.name y) : q.get (S.build t) = v := by
  rw [S.get_build q hq, (h q hq).2 hnot, S.given_give q hq, Option.getD_some]

theorem takes_read (q : Slot σ γ) (s : σ) :
    Takes (q.field.read s) fun d s' => ∃ v, q.Means d v ∧ s' = q.give s v :=
  q.takes.bind fun _ => rfl

/-! ### Arrays of fields -/

/-- The slots from `ps` on are given the items from `ds` on. -/
def Item (ps : List (Slot σ γ)) (ds : List Document) (name : String) (x : Document) : Prop :=
  (name, x) ∈ (ps.map (·.name)).zip ds

variable {ps : List (Slot σ γ)}

theorem not_item_nil {name : String} : ¬ Item ps [] name x := by
  simp [Item]

theorem not_item {name : String} (h : name ∉ ps.map (·.name)) : ¬ Item ps ds name x :=
  fun hx => h (List.of_mem_zip hx).1

theorem item_cons {name : String} :
    Item (q :: ps) (d :: ds) name x ↔ (name = q.name ∧ x = d) ∨ Item ps ds name x := by
  simp [Item]

theorem run_positional (hps : ∀ p ∈ ps, p ∈ S.slots) (hnodup : (ps.map (·.name)).Nodup)
    (h : Laid (.items first ds) cs rest) (hlen : ds.length ≤ ps.length)
    (hgive : ∀ p ∈ S.slots, ∀ x, Item ps ds p.name x → p.given s = none ∧ p.Means x (p.get c)) :
    ∃ t mid, (positional first (ps.map Slot.field) s).run cs = .ok (t, mid) ∧
      (∃ first, Laid (.items first []) mid rest) ∧ S.Filled (Item ps ds) c s t := by
  induction ps generalizing first ds cs s with
  | nil =>
    obtain rfl : ds = [] := List.length_eq_zero_iff.mp (Nat.le_zero.mp hlen)
    exact ⟨s, cs, rfl, ⟨first, h⟩, filled_refl fun _ _ _ => not_item_nil⟩
  | cons q ps ih =>
    cases ds with
    | nil =>
      refine ⟨s, ']' :: rest, ?_, ⟨false, .noItem blank_nil⟩,
        filled_refl fun _ _ _ => not_item_nil⟩
      rw [List.map_cons, positional, run_bind (run_itemAhead_end h)]
      rfl
    | cons d ds =>
      rw [List.forall_mem_cons] at hps
      rw [List.map_cons, List.nodup_cons] at hnodup
      have hnot : ∀ y, ¬ Item ps ds q.name y := fun y => not_item hnodup.1
      obtain ⟨hfree, hd⟩ := hgive q hps.1 d (item_cons.mpr (Or.inl ⟨rfl, rfl⟩))
      obtain ⟨cs', -, hds, hrun⟩ := (takes_read q s).run_item h ⟨_, hd, rfl⟩
        (positional false (ps.map Slot.field)) (pure s)
      obtain ⟨t, mid, ht, hend, hfilled⟩ := ih hps.2 hnodup.2 hds (Nat.le_of_succ_le_succ hlen)
        (s := q.give s (q.get c)) fun p hp x hx => by
          rw [given_give_of_not hps.1 hp hnot hx]
          exact hgive p hp x (item_cons.mpr (Or.inr hx))
      refine ⟨t, mid, ?_, hend, hfilled.give hps.1 hfree hd (fun p _ y => item_cons) hnot⟩
      rw [List.map_cons, positional]
      exact hrun.trans ht

theorem of_run_positional (hps : ∀ p ∈ ps, p ∈ S.slots) (hnodup : (ps.map (·.name)).Nodup)
    (hfree : ∀ p ∈ ps, p.given s = none)
    (h : (positional first (ps.map Slot.field) s).run cs = .ok (t, mid)) :
    ∃ ds, ds.length ≤ ps.length ∧ S.Filled (Item ps ds) (S.build t) s t ∧
      ∀ {rest}, Laid (.items false []) mid rest → Laid (.items first ds) cs rest := by
  induction ps generalizing first cs s with
  | nil =>
    cases h
    exact ⟨[], Nat.le_refl _, filled_refl fun _ _ _ => not_item_nil,
      fun hmid => hmid.end_blank blank_nil first⟩
  | cons q ps ih =>
    rw [List.map_cons, positional] at h
    rcases (takes_read q s).of_run_item h with
      ⟨sp, cs', hs, rfl, hend⟩ | ⟨d, _, cs', ⟨v, hd, rfl⟩, hrun, hlaid⟩
    · cases hend
      exact ⟨[], Nat.zero_le _, filled_refl fun _ _ _ => not_item_nil,
        fun hmid => hmid.end_blank hs first⟩
    · rw [List.forall_mem_cons] at hps hfree
      rw [List.map_cons, List.nodup_cons] at hnodup
      have hne : ∀ p ∈ ps, p.name ≠ q.name := fun p hp hname =>
        hnodup.1 (hname ▸ List.mem_map_of_mem hp)
      obtain ⟨ds, hlen, hfilled, hds⟩ := ih hps.2 hnodup.2 (fun p hp => by
        rw [S.given_give_of_ne p (hps.2 p hp) q hps.1 (hne p hp), hfree.2 p hp]) hrun
      have hnot : ∀ y, ¬ Item ps ds q.name y := fun y => not_item hnodup.1
      obtain rfl := hfilled.get_build hps.1 hnot
      exact ⟨d :: ds, Nat.succ_le_succ hlen,
        hfilled.give hps.1 hfree.1 hd (fun p _ y => item_cons) hnot, fun hmid => hlaid (hds hmid)⟩

/-! ### Objects -/

theorem run_memberAhead_end (h : Laid (.members first []) cs rest) :
    (memberAhead first).run cs = .ok (false, '\x7d' :: rest) := by
  obtain ⟨sp, hs, rfl⟩ := h.of_noMember
  rw [memberAhead, run_bind (run_peek hs rfl _)]
  rfl

theorem run_memberAhead {t : List Char} (h : Laid (.members first ((t, d) :: ms)) cs rest) :
    ∃ gap cs₁ cs₂,
      (memberAhead first).run cs = .ok (true, '"' :: (t ++ '"' :: (gap ++ ':' :: cs₁))) ∧
      Blank gap ∧ Laid (.value d) cs₁ cs₂ ∧ Laid (.members false ms) cs₂ rest ∧
      cs₁.length < cs.length := by
  cases h with
  | @member sp sp' gap t cs₁ cs₂ _ _ _ _ hs hs' ht hg h hms =>
    have hlt : cs₁.length < (sp ++ (separator first ++
        (sp' ++ '"' :: (t ++ '"' :: (gap ++ ':' :: cs₁))))).length := by
      simp only [List.length_append, List.length_cons]
      omega
    refine ⟨gap, cs₁, cs₂, ?_, hg, h, hms, hlt⟩
    cases first with
    | true =>
      rw [separator, if_pos rfl, List.nil_append, ← List.append_assoc, memberAhead,
        run_bind (run_peek (blank_append hs hs') (by decide) _)]
      rfl
    | false =>
      rw [separator, if_neg (by decide), List.singleton_append, memberAhead,
        run_bind (run_peek hs (by decide) _)]
      change (advance >>= fun _ => peek >>= _).run _ = _
      rw [run_bind (run_advance ..), run_bind (run_peek hs' (by decide) _)]
      rfl

/-- No member is ahead, or a member that is laid out ahead begins the members that are left. -/
theorem of_run_memberAhead {b : Bool} (h : (memberAhead first).run cs = .ok (b, mid)) :
    (b = false ∧ ∃ sp r, Blank sp ∧ mid = '\x7d' :: r ∧ cs = sp ++ mid) ∨
    (b = true ∧ ∃ r, mid = '"' :: r ∧ ∀ {t gap cs₁ cs₂ d ms rest},
      r = t ++ '"' :: (gap ++ ':' :: cs₁) → StringText t → Blank gap →
      Laid (.value d) cs₁ cs₂ → Laid (.members false ms) cs₂ rest →
        Laid (.members first ((t, d) :: ms)) cs rest) := by
  unfold memberAhead at h
  rcases of_run_peek h with hnone | ⟨sp, c, r, hs, -, rfl, hsome⟩
  · cases hnone
  · split at hsome
    case h_1 heq => cases heq
    case h_2 heq => cases heq; cases hsome; exact Or.inl ⟨rfl, sp, r, hs, rfl, rfl⟩
    case h_3 heq =>
      cases heq
      split_ifs at hsome with hfirst hquote hcomma
      · cases hsome
        refine Or.inr ⟨rfl, r, by rw [hquote], ?_⟩
        rintro t gap cs₁ cs₂ d ms rest rfl ht hg hd hms
        rw [hfirst, hquote]
        exact .member hs blank_nil ht hg hd hms
      · cases hsome
      · subst hcomma
        rw [run_bind (run_advance ..)] at hsome
        rcases of_run_peek hsome with hnone | ⟨sp', c, r, hs', -, rfl, hname⟩
        · cases hnone
        · split at hname
          case h_1 heq =>
            cases heq
            cases hname
            refine Or.inr ⟨rfl, r, rfl, ?_⟩
            rintro t gap cs₁ cs₂ d ms rest rfl ht hg hd hms
            rw [Bool.eq_false_iff.mpr hfirst]
            exact .member hs hs' ht hg hd hms
          case h_2 heq => cases hname
          case h_3 heq => cases hname
          case h_4 heq => cases hname
      · cases hsome

theorem find?_field (hq : q ∈ S.slots) :
    S.recordFields.find? (·.name = q.name) = some q.field := by
  rw [recordFields, List.find?_map]
  cases hf : S.slots.find? ((fun f : RecordField σ => f.name = q.name) ∘ Slot.field) with
  | none => exact absurd (List.find?_eq_none.mp hf q hq) (by simp [Slot.field])
  | some p =>
    have hname : p.name = q.name := by simpa [Slot.field] using List.find?_some hf
    rw [S.eq_of_name_eq (List.mem_of_find?_eq_some hf) hq hname]
    rfl

theorem find?_field_eq_none {k : String} (h : ∀ p ∈ S.slots, p.name ≠ k) :
    S.recordFields.find? (·.name = k) = none := by
  rw [recordFields, List.find?_map, Option.map_eq_none_iff, List.find?_eq_none]
  intro p hp
  simpa [Slot.field] using h p hp

theorem mem_names {k : String} : k ∈ S.names ↔ ∃ q ∈ S.slots, q.name = k := List.mem_map

section Member

variable {k : String} {u : List Char}

/-- The name of a member is read. -/
theorem run_memberName (hk : Spells u k.toList) (h : Laid (.members first ((u, d) :: ms)) cs rest) :
    ∃ gap cs₁ cs₂, Blank gap ∧ Laid (.value d) cs₁ cs₂ ∧ Laid (.members false ms) cs₂ rest ∧
      cs₂.length < cs.length ∧ ∀ (f : String → Reader σ) (g : Reader σ),
        (do if ← memberAhead first then advance; f (← stringBody) else g).run cs =
          (f k).run (gap ++ ':' :: cs₁) := by
  obtain ⟨gap, cs₁, cs₂, hahead, hg, hd, hms, hlt⟩ := run_memberAhead h
  refine ⟨gap, cs₁, cs₂, hg, hd, hms, Nat.lt_trans hd.length_lt hlt, fun f g => ?_⟩
  rw [run_bind hahead]
  change (advance >>= fun _ => stringBody >>= f).run _ = _
  rw [run_bind (run_advance ..), run_bind (run_stringBody hk _)]

/-- A member of the name of a slot is taken for it, and those after it are left. -/
theorem run_known (hq : q ∈ S.slots) (hk : Spells u q.name.toList) (hfree : q.given s = none)
    {v : q.Value} (hx : q.Means d v) (h : Laid (.members first ((u, d) :: ms)) cs rest)
    (fuel : Nat) : ∃ cs', cs'.length < cs.length ∧ Laid (.members false ms) cs' rest ∧
      (membersWith S.recordFields (fuel + 1) first s).run cs =
        (membersWith S.recordFields fuel false (q.give s v)).run cs' := by
  obtain ⟨gap, cs₁, cs₂, hg, hd, hms, hlt, hrun⟩ := run_memberName hk h
  have hset : q.field.isSet s = false := by simp [Slot.field, hfree]
  refine ⟨cs₂, hlt, hms, ?_⟩
  rw [membersWith]
  refine (hrun _ _).trans ?_
  rw [find?_field hq]
  dsimp only
  rw [hset]
  change (colon >>= fun _ => q.field.read s >>= _).run _ = _
  rw [run_bind (run_colon hg _),
    run_bind ((takes_read q s).reads hd hms.follows_members ⟨v, hx, rfl⟩)]

/-- A member of another name is passed over. -/
theorem run_unknown (hk : Spells u k.toList) (hno : ∀ p ∈ S.slots, p.name ≠ k)
    (h : Laid (.members first ((u, d) :: ms)) cs rest) (fuel : Nat) :
    ∃ cs', cs'.length < cs.length ∧ Laid (.members false ms) cs' rest ∧
      (membersWith S.recordFields (fuel + 1) first s).run cs =
        (membersWith S.recordFields fuel false s).run cs' := by
  obtain ⟨gap, cs₁, cs₂, hg, hd, hms, hlt, hrun⟩ := run_memberName hk h
  refine ⟨cs₂, hlt, hms, ?_⟩
  rw [membersWith]
  refine (hrun _ _).trans ?_
  rw [find?_field_eq_none hno]
  dsimp only
  rw [run_bind (run_colon hg _), run_bind (hd.run_skipValue hms.follows_members)]

theorem member_cons_of_ne (hk : Spells u k.toList) (hno : ∀ p ∈ S.slots, p.name ≠ k) :
    ∀ p ∈ S.slots, ∀ y, Member ((u, d) :: ms) p.name y ↔ Member ms p.name y :=
  fun p hp _ => (member_cons hk).trans (or_iff_right fun h => hno p hp h.1)

end Member

theorem run_membersWith (h : Laid (.members first ms) cs rest)
    (hm : (Document.object ms).IsRecord S.names)
    (hgive : ∀ p ∈ S.slots, ∀ x, Member ms p.name x → p.given s = none ∧ p.Means x (p.get c))
    (hf : cs.length < fuel) :
    ∃ t, (membersWith S.recordFields fuel first s).run cs = .ok (t, '\x7d' :: rest) ∧
      S.Filled (Member ms) c s t := by
  induction ms generalizing first cs s fuel with
  | nil =>
    obtain ⟨fuel, rfl⟩ := Nat.exists_eq_add_one_of_ne_zero (Nat.ne_zero_of_lt hf)
    refine ⟨s, ?_, filled_refl fun _ _ _ => not_member_nil⟩
    rw [membersWith, run_bind (run_memberAhead_end h)]
    rfl
  | cons m ms ih =>
    obtain ⟨t, d⟩ := m
    obtain ⟨fuel, rfl⟩ := Nat.exists_eq_add_one_of_ne_zero (Nat.ne_zero_of_lt hf)
    obtain ⟨hspelled, hdistinct⟩ := hm
    rw [List.forall_mem_cons] at hspelled
    rw [List.pairwise_cons] at hdistinct
    obtain ⟨⟨k, hk⟩, hspelled⟩ := hspelled
    have hms : (Document.object ms).IsRecord S.names := ⟨hspelled, hdistinct.2⟩
    by_cases hknown : ∃ q ∈ S.slots, q.name = k
    · obtain ⟨q, hq, rfl⟩ := hknown
      obtain ⟨hfree, hx⟩ := hgive q hq d ((member_cons hk).mpr (Or.inl ⟨rfl, rfl⟩))
      have hnot : ∀ y, ¬ Member ms q.name y := by
        rintro y ⟨t', ht', hmem⟩
        exact hdistinct.1 _ hmem q.name (mem_names.mpr ⟨q, hq, rfl⟩) hk ht'
      have hlater : ∀ p ∈ S.slots, ∀ x, Member ms p.name x →
          p.given (q.give s (q.get c)) = none ∧ p.Means x (p.get c) := fun p hp x hx => by
        rw [given_give_of_not hq hp hnot hx]
        exact hgive p hp x ((member_cons hk).mpr (Or.inr hx))
      obtain ⟨cs', hlt, hlaid, hrun⟩ := run_known hq hk hfree hx h fuel
      obtain ⟨u, hu, hfilled⟩ := ih hlaid hms hlater (show cs'.length < fuel by omega)
      exact ⟨u, hrun.trans hu, hfilled.give hq hfree hx (fun p _ y => member_cons hk) hnot⟩
    · have hno : ∀ p ∈ S.slots, p.name ≠ k := fun p hp hname => hknown ⟨p, hp, hname⟩
      have hlater : ∀ p ∈ S.slots, ∀ x, Member ms p.name x →
          p.given s = none ∧ p.Means x (p.get c) := fun p hp x hx =>
        hgive p hp x ((member_cons_of_ne hk hno p hp x).mpr hx)
      obtain ⟨cs', hlt, hlaid, hrun⟩ := run_unknown hk hno h fuel
      obtain ⟨u, hu, hfilled⟩ := ih hlaid hms hlater (show cs'.length < fuel by omega)
      exact ⟨u, hrun.trans hu, hfilled.congr (member_cons_of_ne hk hno)⟩

/-- No member is left, or one is taken for a free slot, or one of another name is passed over. -/
theorem of_run_member (h : (membersWith S.recordFields (fuel + 1) first s).run cs = .ok (t, mid)) :
    (t = s ∧ ∃ r, mid = '\x7d' :: r ∧ Laid (.members first []) cs r) ∨
    ∃ u k d s' cs', Spells u k.toList ∧
      (membersWith S.recordFields fuel false s').run cs' = .ok (t, mid) ∧
      (∀ {ms rest}, Laid (.members false ms) cs' rest →
        Laid (.members first ((u, d) :: ms)) cs rest) ∧
      ((∃ q ∈ S.slots, ∃ v, q.name = k ∧ q.given s = none ∧ q.Means d v ∧ s' = q.give s v) ∨
        (∀ p ∈ S.slots, p.name ≠ k) ∧ s' = s) := by
  rw [membersWith] at h
  obtain ⟨ahead, cs', hahead, hrun⟩ := of_run_bind h
  rcases of_run_memberAhead hahead with ⟨rfl, sp, r, hs, rfl, rfl⟩ | ⟨rfl, r, rfl, hlaid⟩
  · cases hrun
    exact Or.inl ⟨rfl, r, rfl, .noMember hs⟩
  · change (advance >>= fun _ => stringBody >>= _).run _ = _ at hrun
    rw [run_bind (run_advance ..)] at hrun
    obtain ⟨k, cs₁, hname, hfield⟩ := of_run_bind hrun
    obtain ⟨u, hk, rfl⟩ := of_run_stringBody hname
    refine Or.inr ?_
    by_cases hknown : ∃ q ∈ S.slots, q.name = k
    · obtain ⟨q, hq, rfl⟩ := hknown
      rw [find?_field hq] at hfield
      dsimp only at hfield
      split_ifs at hfield with hset
      · cases hfield
      have hfree : q.given s = none := by simpa [Slot.field] using hset
      obtain ⟨_, cs₂, hcolon, hvalue⟩ := of_run_bind hfield
      obtain ⟨s', cs₃, hread, hmembers⟩ := of_run_bind hvalue
      obtain ⟨gap, hg, rfl⟩ := of_run_colon hcolon
      obtain ⟨d, hd, v, hv, rfl⟩ := (takes_read q s).taken hread
      exact ⟨u, q.name, d, _, cs₃, hk, hmembers, hlaid rfl hk.stringText hg hd,
        Or.inl ⟨q, hq, v, rfl, hfree, hv, rfl⟩⟩
    · have hno : ∀ p ∈ S.slots, p.name ≠ k := fun p hp hname => hknown ⟨p, hp, hname⟩
      rw [find?_field_eq_none hno] at hfield
      dsimp only at hfield
      obtain ⟨_, cs₂, hcolon, hvalue⟩ := of_run_bind hfield
      obtain ⟨_, cs₃, hskip, hmembers⟩ := of_run_bind hvalue
      obtain ⟨gap, hg, rfl⟩ := of_run_colon hcolon
      obtain ⟨d, hd⟩ := of_run_skipValue hskip
      exact ⟨u, k, d, s, cs₃, hk, hmembers, hlaid rfl hk.stringText hg hd, Or.inr ⟨hno, rfl⟩⟩

theorem of_run_membersWith (h : (membersWith S.recordFields fuel first s).run cs = .ok (t, mid)) :
    ∃ ms rest, mid = '\x7d' :: rest ∧ Laid (.members first ms) cs rest ∧
      (Document.object ms).IsRecord S.names ∧ S.Filled (Member ms) (S.build t) s t := by
  induction fuel generalizing first cs s with
  | zero => cases h
  | succ fuel ih =>
    rcases of_run_member h with ⟨rfl, r, rfl, hend⟩ | ⟨u, k, d, s', cs', hk, hrun, hlaid, hcase⟩
    · exact ⟨[], r, rfl, hend, ⟨List.forall_mem_nil _, .nil⟩,
        filled_refl fun _ _ _ => not_member_nil⟩
    · obtain ⟨ms, rest, rfl, hms, hm, hfilled⟩ := ih hrun
      refine ⟨(u, d) :: ms, rest, rfl, hlaid hms, ?_⟩
      rcases hcase with ⟨q, hq, v, rfl, hfree, hv, rfl⟩ | ⟨hno, rfl⟩
      · have hnot : ∀ y, ¬ Member ms q.name y := fun y hy => by
          have hgiven := ((hfilled q hq).1 y hy).1
          rw [S.given_give q hq] at hgiven
          cases hgiven
        obtain rfl := hfilled.get_build hq hnot
        exact ⟨isRecord_cons hk hm fun _ => hnot,
          hfilled.give hq hfree hv (fun p _ y => member_cons hk) hnot⟩
      · refine ⟨isRecord_cons hk hm fun hmem => ?_, hfilled.congr (member_cons_of_ne hk hno)⟩
        obtain ⟨q, hq, hname⟩ := mem_names.mp hmem
        exact absurd hname (hno q hq)

/-! ### Records -/

def fields (S : Plan σ γ) : List (DocumentField γ) := S.slots.map (·.toDocumentField)

theorem names_fields : S.fields.map (·.name) = S.names := by
  rw [fields, List.map_map]
  rfl

theorem means_iff : Record.Means S.fields S.default d c ↔
    d.IsRecord S.names ∧ ∀ p ∈ S.slots, (∀ x, d.Gives S.names p.name x → p.Means x (p.get c)) ∧
      ((∀ x, ¬ d.Gives S.names p.name x) → p.get c = p.get S.default) := by
  rw [Record.Means, names_fields, fields, List.forall_mem_map]

theorem Filled.build_eq (h : S.Filled P c S.start t)
    (hdefault : ∀ p ∈ S.slots, (∀ x, ¬ P p.name x) → p.get c = p.get S.default) :
    S.build t = c := by
  refine S.ext _ _ fun p hp => ?_
  rw [S.get_build p hp]
  by_cases hx : ∃ x, P p.name x
  · obtain ⟨x, hx⟩ := hx
    rw [((h p hp).1 x hx).2.2, Option.getD_some]
  · have hno : ∀ x, ¬ P p.name x := fun x h => hx ⟨x, h⟩
    rw [(h p hp).2 hno, S.given_start p hp, Option.getD_none, hdefault p hp hno]

theorem Filled.means (h : S.Filled (fun name x => d.Gives S.names name x) (S.build t) S.start t)
    (hd : d.IsRecord S.names) : Record.Means S.fields S.default d (S.build t) := by
  refine means_iff.mpr ⟨hd, fun p hp => ⟨fun x hx => ((h p hp).1 x hx).2.1, fun hno => ?_⟩⟩
  rw [S.get_build p hp, (h p hp).2 hno, S.given_start p hp, Option.getD_none]

/-- Reading a record takes the documents that mean it. -/
theorem takes (S : Plan σ γ) (expected : String) :
    Takes (S.build <$> record expected S.recordFields S.start)
      (Record.Means S.fields S.default) where
  reads := by
    intro d c cs rest hd hr hc
    obtain ⟨hrecord, hc⟩ := means_iff.mp hc
    have hgive : ∀ p ∈ S.slots, ∀ x, d.Gives S.names p.name x →
        p.given S.start = none ∧ p.Means x (p.get c) :=
      fun p hp x hx => ⟨S.given_start p hp, (hc p hp).1 x hx⟩
    have hdefault := fun p hp => (hc p hp).2
    cases hd with
    | scalar => cases hrecord
    | @array sp cs _ ds hs h =>
      have hlen : ds.length ≤ S.slots.length := by simpa [Document.IsRecord, names] using hrecord
      obtain ⟨t, mid, ht, ⟨first, hend⟩, hfilled⟩ :=
        run_positional (fun _ hp => hp) S.nodup h hlen hgive
      have hrun : (record expected S.recordFields S.start).run (sp ++ '[' :: cs) =
          .ok (t, rest) := by
        rw [record, run_bind (run_peek hs (by decide) _)]
        change (advance >>= fun _ => positional true S.recordFields S.start >>= fun t =>
          closeArray >>= fun _ => pure t).run _ = _
        rw [run_bind (run_advance ..), recordFields, run_bind ht, run_bind (run_closeArray hend)]
        rfl
      rw [run_map hrun, hfilled.build_eq hdefault]
    | @object sp cs _ ms hs h =>
      obtain ⟨t, ht, hfilled⟩ := run_membersWith h hrecord hgive (Nat.lt_succ_self cs.length)
      have hrun : (record expected S.recordFields S.start).run (sp ++ '\x7b' :: cs) =
          .ok (t, rest) := by
        rw [record, run_bind (run_peek hs (by decide) _)]
        change (advance >>= fun _ => get >>= fun cs =>
          membersWith S.recordFields (cs.length + 1) true S.start >>= fun t =>
            advance >>= fun _ => pure t).run _ = _
        rw [run_bind (run_advance ..), run_bind (run_get _), run_bind ht, run_bind (run_advance ..)]
        rfl
      rw [run_map hrun, hfilled.build_eq hdefault]
  taken := by
    intro c cs rest h
    obtain ⟨t, hrecord, rfl⟩ := of_run_map h
    unfold record at hrecord
    rcases of_run_peek hrecord with hnone | ⟨sp, c, r, hs, -, rfl, hsome⟩
    · cases hnone
    · split at hsome
      case h_1 heq => cases heq
      case h_2 heq =>
        cases heq
        rw [run_bind (run_advance ..)] at hsome
        obtain ⟨u, mid, hitems, hclose⟩ := of_run_bind hsome
        obtain ⟨_, _, hclose, hpure⟩ := of_run_bind hclose
        cases hpure
        obtain ⟨ds, hlen, hfilled, hlaid⟩ :=
          of_run_positional (fun _ hp => hp) S.nodup S.given_start hitems
        have hd : (Document.array ds).IsRecord S.names := by
          simpa [Document.IsRecord, names] using hlen
        exact ⟨.array ds, .array hs (hlaid (of_run_closeArray hclose false)), hfilled.means hd⟩
      case h_3 heq =>
        cases heq
        rw [run_bind (run_advance ..), run_bind (run_get _)] at hsome
        obtain ⟨u, mid, hmembers, hend⟩ := of_run_bind hsome
        obtain ⟨ms, rest', rfl, hlaid, hd, hfilled⟩ := of_run_membersWith hmembers
        cases hend
        exact ⟨.object ms, .object hs hlaid, hfilled.means hd⟩
      case h_4 heq => exact (mismatch_ne_ok hsome).elim

end Plan

end ListingPanel.Json
