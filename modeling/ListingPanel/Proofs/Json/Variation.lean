import ListingPanel.Proofs.Json.Printing
import Mathlib.Data.List.Pairwise

/-!
Documents of one record: what may be put another way in a document so that it means the same.
-/
namespace ListingPanel.Json

variable {γ : Type} {fields : List (DocumentField γ)} {default c : γ} {d d' x x' : Document}
  {ms ms' : List (List Char × Document)} {names : List String} {name k : String} {t : List Char}

/-- One thing about the document of a record is put another way. For what is given for a field,
`inner` says what may stand in its place. Members may stand in any order, so that it is enough to
tell of the first one. -/
inductive Record.Change (fields : List (DocumentField γ)) (default : γ)
    (inner : String → Document → Document → Prop) : Document → Document → Prop
  | permute {ms ms' : List (List Char × Document)} (h : ms.Perm ms') :
      Change fields default inner (.object ms) (.object ms')
  | insert {ms : List (List Char × Document)} {t : List Char} {k : String} (x : Document)
      (ht : Spells t k.toList) (hk : k ∉ fields.map (·.name)) :
      Change fields default inner (.object ms) (.object ((t, x) :: ms))
  | unknown {ms : List (List Char × Document)} {t : List Char} {k : String} (x x' : Document)
      (ht : Spells t k.toList) (hk : k ∉ fields.map (·.name)) :
      Change fields default inner (.object ((t, x) :: ms)) (.object ((t, x') :: ms))
  | member {ms : List (List Char × Document)} {t : List Char} {k : String} {x x' : Document}
      (ht : Spells t k.toList) (h : inner k x x') :
      Change fields default inner (.object ((t, x) :: ms)) (.object ((t, x') :: ms))
  | item {ds ds' : List Document} {k : String} {x x' : Document}
      (hk : (fields.map (·.name))[ds.length]? = some k) (h : inner k x x') :
      Change fields default inner (.array (ds ++ x :: ds')) (.array (ds ++ x' :: ds'))
  | asArray {ms : List (List Char × Document)} {ds : List Document}
      (hlen : ds.length ≤ fields.length)
      (hcut : ∀ f ∈ fields.drop ds.length, ∀ x,
        ¬ (Document.object ms).Gives (fields.map (·.name)) f.name x)
      (hitem : ∀ f x, (f, x) ∈ fields.zip ds →
        (Document.object ms).Gives (fields.map (·.name)) f.name x ∨
          (∀ y, ¬ (Document.object ms).Gives (fields.map (·.name)) f.name y) ∧
            f.Means x (f.get default)) :
      Change fields default inner (.object ms) (.array ds)

/-- It matters to the meaning only what is given for the fields. -/
theorem Record.Means.of_gives_iff (h : Record.Means fields default d c)
    (hd : d'.IsRecord (fields.map (·.name)))
    (hiff : ∀ f ∈ fields, ∀ x,
      d'.Gives (fields.map (·.name)) f.name x ↔ d.Gives (fields.map (·.name)) f.name x) :
    Record.Means fields default d' c :=
  ⟨hd, fun f hf => ⟨fun x hx => (h.2 f hf).1 x ((hiff f hf x).mp hx),
    fun hno => (h.2 f hf).2 fun x hx => hno x ((hiff f hf x).mpr hx)⟩⟩

theorem member_cons_of_unknown (ht : Spells t k.toList) (hk : k ∉ fields.map (·.name))
    {f : DocumentField γ} (hf : f ∈ fields) :
    Member ((t, x) :: ms) f.name x' ↔ Member ms f.name x' :=
  (member_cons ht).trans (or_iff_right fun h => hk (h.1 ▸ List.mem_map_of_mem hf))

theorem Document.IsRecord.tail {m : List Char × Document}
    (h : (Document.object (m :: ms)).IsRecord names) : (Document.object ms).IsRecord names :=
  ⟨(List.forall_mem_cons.mp h.1).2, (List.pairwise_cons.mp h.2).2⟩

/-- A member of an unknown name means nothing. -/
theorem Record.means_cons_iff_of_unknown (ht : Spells t k.toList) (hk : k ∉ fields.map (·.name)) :
    Record.Means fields default (.object ((t, x) :: ms)) c ↔
      Record.Means fields default (.object ms) c := by
  constructor
  · exact fun h => h.of_gives_iff h.1.tail fun f hf y => (member_cons_of_unknown ht hk hf).symm
  · exact fun h => h.of_gives_iff (isRecord_cons ht h.1 fun hmem => absurd hmem hk)
      fun f hf y => member_cons_of_unknown ht hk hf

theorem Document.IsRecord.perm (h : (Document.object ms).IsRecord names) (hp : ms.Perm ms') :
    (Document.object ms').IsRecord names := by
  refine ⟨fun m hm => h.1 m (hp.mem_iff.mpr hm), (hp.pairwise_iff ?_).mp h.2⟩
  exact fun hdistinct k hk hs hs' => hdistinct k hk hs' hs

/-- What a member gives does not matter to its name. -/
theorem Document.IsRecord.replace (h : (Document.object ((t, x) :: ms)).IsRecord names) :
    (Document.object ((t, x') :: ms)).IsRecord names := by
  have hspelled : ∃ k : String, Spells t k.toList := h.1 _ List.mem_cons_self
  exact ⟨List.forall_mem_cons.mpr ⟨hspelled, h.tail.1⟩,
    List.pairwise_cons.mpr (List.pairwise_cons.mp h.2)⟩

theorem gives_array_iff {ds : List Document} :
    (Document.array ds).Gives names name x ↔
      ∃ i : Nat, names[i]? = some name ∧ ds[i]? = some x := by
  simp only [Document.Gives, List.mem_iff_getElem?, List.getElem?_zip_eq_some]

theorem getElem?_append_cons {α : Type} {as bs : List α} (a a' : α) {i : Nat} (h : i ≠ as.length) :
    (as ++ a :: bs)[i]? = (as ++ a' :: bs)[i]? := by
  rcases Nat.lt_or_gt_of_ne h with hlt | hlt
  · rw [List.getElem?_append_left hlt, List.getElem?_append_left hlt]
  · obtain ⟨j, rfl⟩ := Nat.exists_eq_add_of_lt hlt
    have hj : as.length + j + 1 - as.length = j + 1 := by omega
    rw [List.getElem?_append_right (by omega), List.getElem?_append_right (by omega), hj,
      List.getElem?_cons_succ, List.getElem?_cons_succ]

theorem gives_array_fields_iff (hnames : (fields.map (·.name)).Nodup) {ds : List Document}
    {f : DocumentField γ} (hf : f ∈ fields) :
    (Document.array ds).Gives (fields.map (·.name)) f.name x ↔ (f, x) ∈ fields.zip ds := by
  constructor
  · rw [Document.Gives, List.zip_map_left, List.mem_map]
    rintro ⟨⟨f', x'⟩, hmem, heq⟩
    simp only [Prod.map, id_eq, Prod.mk.injEq] at heq
    obtain ⟨hname, rfl⟩ := heq
    rwa [← List.inj_on_of_nodup_map hnames (List.of_mem_zip hmem).1 hf hname]
  · intro hmem
    rw [Document.Gives, List.zip_map_left]
    exact List.mem_map_of_mem hmem

theorem exists_mem_zip_of_mem_take {α β : Type*} {as : List α} {bs : List β} {a : α}
    (h : a ∈ as.take bs.length) : ∃ b, (a, b) ∈ as.zip bs := by
  obtain ⟨i, hi⟩ := List.mem_iff_getElem?.mp h
  rw [List.getElem?_take] at hi
  split_ifs at hi with hlt
  exact ⟨bs[i], List.mem_iff_getElem?.mpr ⟨i, List.getElem?_zip_eq_some.mpr ⟨hi, by simp [hlt]⟩⟩⟩

section Change

variable {inner : String → Document → Document → Prop}

theorem Record.Means.member
    (hinner : ∀ f ∈ fields, ∀ x x' v, inner f.name x x' → f.Means x v → f.Means x' v)
    (h : Record.Means fields default (.object ((t, x) :: ms)) c) (ht : Spells t k.toList)
    (hx : inner k x x') : Record.Means fields default (.object ((t, x') :: ms)) c := by
  refine ⟨h.1.replace, fun f hf => ⟨fun y hy => ?_, fun hno => (h.2 f hf).2 fun y hy => ?_⟩⟩
  · rcases (member_cons ht).mp hy with ⟨rfl, rfl⟩ | hy
    · exact hinner f hf x y _ hx ((h.2 f hf).1 x ((member_cons ht).mpr (Or.inl ⟨rfl, rfl⟩)))
    · exact (h.2 f hf).1 y ((member_cons ht).mpr (Or.inr hy))
  · rcases (member_cons ht).mp hy with ⟨rfl, rfl⟩ | hy
    · exact hno x' ((member_cons ht).mpr (Or.inl ⟨rfl, rfl⟩))
    · exact hno y ((member_cons ht).mpr (Or.inr hy))

theorem Record.Means.item {ds ds' : List Document}
    (hinner : ∀ f ∈ fields, ∀ x x' v, inner f.name x x' → f.Means x v → f.Means x' v)
    (h : Record.Means fields default (.array (ds ++ x :: ds')) c)
    (hk : (fields.map (·.name))[ds.length]? = some k) (hx : inner k x x') :
    Record.Means fields default (.array (ds ++ x' :: ds')) c := by
  have hself : ∀ x : Document, (ds ++ x :: ds')[ds.length]? = some x := fun x => by simp
  refine ⟨by simpa [Document.IsRecord] using h.1,
    fun f hf => ⟨fun y hy => ?_, fun hno => (h.2 f hf).2 fun y hy => ?_⟩⟩
  · obtain ⟨i, hi, hy⟩ := gives_array_iff.mp hy
    by_cases heq : i = ds.length
    · subst heq
      rw [hself, Option.some.injEq] at hy
      rw [hk, Option.some.injEq] at hi
      subst hy hi
      exact hinner f hf x x' _ hx ((h.2 f hf).1 x (gives_array_iff.mpr ⟨_, hk, hself x⟩))
    · rw [getElem?_append_cons x' x heq] at hy
      exact (h.2 f hf).1 y (gives_array_iff.mpr ⟨i, hi, hy⟩)
  · obtain ⟨i, hi, hy⟩ := gives_array_iff.mp hy
    by_cases heq : i = ds.length
    · subst heq
      exact hno x' (gives_array_iff.mpr ⟨_, hi, hself x'⟩)
    · rw [getElem?_append_cons x x' heq] at hy
      exact hno y (gives_array_iff.mpr ⟨i, hi, hy⟩)

theorem Record.Means.asArray {ds : List Document} (hnames : (fields.map (·.name)).Nodup)
    (h : Record.Means fields default d c) (hlen : ds.length ≤ fields.length)
    (hcut : ∀ f ∈ fields.drop ds.length, ∀ x, ¬ d.Gives (fields.map (·.name)) f.name x)
    (hitem : ∀ f x, (f, x) ∈ fields.zip ds → d.Gives (fields.map (·.name)) f.name x ∨
      (∀ y, ¬ d.Gives (fields.map (·.name)) f.name y) ∧ f.Means x (f.get default)) :
    Record.Means fields default (.array ds) c := by
  refine ⟨by simpa [Document.IsRecord] using hlen, fun f hf => ⟨fun x hx => ?_, fun hno => ?_⟩⟩
  · rcases hitem f x ((gives_array_fields_iff hnames hf).mp hx) with hgives | ⟨habsent, hmeans⟩
    · exact (h.2 f hf).1 x hgives
    · rwa [(h.2 f hf).2 habsent]
  · refine (h.2 f hf).2 (hcut f ?_)
    have hsplit := hf
    rw [← List.take_append_drop ds.length fields, List.mem_append] at hsplit
    refine hsplit.resolve_left fun htake => ?_
    obtain ⟨x, hx⟩ := exists_mem_zip_of_mem_take htake
    exact hno x ((gives_array_fields_iff hnames hf).mpr hx)

theorem Record.Means.change (hnames : (fields.map (·.name)).Nodup)
    (hinner : ∀ f ∈ fields, ∀ x x' v, inner f.name x x' → f.Means x v → f.Means x' v)
    (h : Record.Means fields default d c) (hc : Record.Change fields default inner d d') :
    Record.Means fields default d' c := by
  cases hc with
  | permute hperm =>
    refine h.of_gives_iff (h.1.perm hperm) fun f hf x => ?_
    exact exists_congr fun t => and_congr_right fun _ => hperm.mem_iff.symm
  | insert x ht hk => exact (means_cons_iff_of_unknown ht hk).mpr h
  | unknown x x' ht hk =>
    exact (means_cons_iff_of_unknown ht hk).mpr ((means_cons_iff_of_unknown ht hk).mp h)
  | member ht hx => exact h.member hinner ht hx
  | item hk hx => exact h.item hinner hk hx
  | asArray hlen hcut hitem => exact h.asArray hnames hlen hcut hitem

end Change

/-! ### Repeated fields -/

/-- An object with two members of the name of one field. -/
def Document.Repeats (names : List String) : Document → Prop
  | .object ms =>
    ∃ k ∈ names, ∃ m m', [m, m'].Sublist ms ∧ Spells m.1 k.toList ∧ Spells m'.1 k.toList
  | .array _ => False
  | .scalar _ => False

theorem Document.IsRecord.not_repeats (h : d.IsRecord names) : ¬ d.Repeats names := by
  cases d with
  | object ms =>
    rintro ⟨k, hk, m, m', hsub, hm, hm'⟩
    exact (List.pairwise_pair.mp (h.2.sublist hsub)) k hk hm hm'
  | array ds => exact id
  | scalar t => exact id

end ListingPanel.Json
