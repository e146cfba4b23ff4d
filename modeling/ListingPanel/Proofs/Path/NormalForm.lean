import ListingPanel.Proofs.Path.Place
import Mathlib.Data.List.Basic

/-! Components are read back as they have been written, so a normal form tells the place that a path
comes to. -/
namespace ListingPanel.Path

/-! ### Components as they are written -/

/-- A component that reads as it is written, wherever it stands. -/
def Component.Plain (c : Component) : Prop :=
  '/' ∉ c.text.toList ∧ laterComponent? c.text.toList = some c

/-- A separator starts another text, and any other character belongs to the first one. -/
theorem splitOn_cons {a : Char} {cs p : List Char} {ps : List (List Char)}
    (h : cs.splitOn a = p :: ps) (c : Char) :
    (c :: cs).splitOn a = if c = a then [] :: p :: ps else (c :: p) :: ps := by
  unfold List.splitOn at h ⊢
  rw [List.splitOnP_cons_eq_if_modifyHead, h]
  simp

theorem notMem_of_mem_splitOn {a : Char} {cs q : List Char} (hq : q ∈ cs.splitOn a) : a ∉ q := by
  induction cs generalizing q with
  | nil =>
    obtain rfl := List.mem_singleton.mp hq
    exact List.not_mem_nil
  | cons c cs ih =>
    obtain ⟨p, ps, hs⟩ := List.exists_cons_of_ne_nil (List.splitOn_ne_nil a cs)
    rw [splitOn_cons hs] at hq
    rw [hs] at ih
    split_ifs at hq with hc
    · rcases List.mem_cons.mp hq with rfl | hq
      · exact List.not_mem_nil
      · exact ih hq
    · rcases List.mem_cons.mp hq with rfl | hq
      · have hp : a ∉ p := ih List.mem_cons_self
        simpa [hp] using Ne.symm hc
      · exact ih (List.mem_cons_of_mem p hq)

theorem pieces_eq_splitOn (cs : List Char) : pieces cs = cs.splitOn '/' := by
  induction cs with
  | nil => rfl
  | cons c cs ih =>
    obtain ⟨p, ps, hs⟩ := List.exists_cons_of_ne_nil (List.splitOn_ne_nil '/' cs)
    simp only [pieces, ih, hs, splitOn_cons hs]

theorem slash_notMem_of_mem_pieces {cs q : List Char} (hq : q ∈ pieces cs) : '/' ∉ q := by
  rw [pieces_eq_splitOn] at hq
  exact notMem_of_mem_splitOn hq

theorem plain_of_laterComponent? {q : List Char} {c : Component} (hq : '/' ∉ q)
    (h : laterComponent? q = some c) : c.Plain := by
  have ht : c.text.toList = q := by
    unfold laterComponent? at h
    split_ifs at h with h₁ h₂
    · obtain rfl := Option.some.inj h
      exact h₂.symm
    · obtain rfl := Option.some.inj h
      exact String.toList_ofList
  unfold Component.Plain
  rw [ht]
  exact ⟨hq, h⟩

namespace Component.Plain
variable {c : Component} (h : c.Plain)
include h

theorem text_ne_nil : c.text.toList ≠ [] := by
  intro he
  have hc := h.2
  rw [he] at hc
  cases hc

theorem text_ne_dot : c.text.toList ≠ ['.'] := by
  intro he
  have hc := h.2
  rw [he] at hc
  cases hc

theorem ne_root : c ≠ .root := by
  rintro rfl
  exact h.text_ne_nil rfl

end Component.Plain

theorem plain_up : Component.up.Plain := ⟨by decide, rfl⟩

section Pieces
variable {p : Path} {q : List Char} {ps : List (List Char)}

theorem components_of_slash (h : pieces p.text.toList = [] :: q :: ps) :
    p.components = .root :: (q :: ps).filterMap laterComponent? := by
  unfold components
  rw [h]

theorem components_of_dot (h : pieces p.text.toList = ['.'] :: ps) :
    p.components = .here :: ps.filterMap laterComponent? := by
  unfold components
  rw [h]
  rfl

theorem components_of_other (h : pieces p.text.toList = q :: ps) (hn : q ≠ []) (hd : q ≠ ['.']) :
    p.components = (q :: ps).filterMap laterComponent? := by
  unfold components
  rw [h]
  split
  · next he => exact absurd (List.cons.inj he).1 hd
  · next he => exact absurd (List.cons.inj he).1 hn
  · rfl

end Pieces

/-- The components that a path goes through from the root, or from wherever it starts. -/
def steps (p : Path) : List Component := (pieces p.text.toList).filterMap laterComponent?

theorem plain_of_mem_steps {p : Path} {c : Component} (hc : c ∈ p.steps) : c.Plain := by
  obtain ⟨q, hq, hqc⟩ := List.mem_filterMap.mp hc
  exact plain_of_laterComponent? (slash_notMem_of_mem_pieces hq) hqc

theorem root_notMem_steps (p : Path) : .root ∉ p.steps :=
  fun h => (plain_of_mem_steps h).ne_root rfl

/-- A path has no other components, but for a root or a dot in front. -/
theorem components_cases (p : Path) :
    p.components = .root :: p.steps ∧ p.isAbsolute = true ∨
      (p.components = p.steps ∨ p.components = .here :: p.steps) ∧ p.isAbsolute = false := by
  have hne : ∀ cs, pieces cs ≠ [] := fun cs => by
    rw [pieces_eq_splitOn]
    exact List.splitOn_ne_nil _ cs
  unfold steps
  cases ht : p.text.toList with
  | nil =>
    have hc : p.components = [] := by unfold components; rw [ht]; rfl
    refine Or.inr ⟨Or.inl hc, ?_⟩
    simp [isAbsolute, ht]
  | cons c r =>
    by_cases hc : c = '/'
    · have hp : pieces (c :: r) = [] :: pieces r := by rw [pieces, if_pos hc]
      obtain ⟨q, ps, hr⟩ := List.exists_cons_of_ne_nil (hne r)
      rw [hr] at hp
      have hcomp : p.components = .root :: (q :: ps).filterMap laterComponent? :=
        components_of_slash (ht ▸ hp)
      rw [hp]
      refine Or.inl ⟨hcomp, ?_⟩
      simp [isAbsolute, ht, hc]
    · have habs : p.isAbsolute = false := by simp [isAbsolute, ht, hc]
      have hp : ∃ q ps, pieces (c :: r) = (c :: q) :: ps := by
        rw [pieces, if_neg hc]
        cases pieces r with
        | nil => exact ⟨[], [], rfl⟩
        | cons q ps => exact ⟨q, ps, rfl⟩
      obtain ⟨q, ps, hp⟩ := hp
      by_cases hd : c :: q = ['.']
      · rw [hd] at hp
        have hcomp : p.components = .here :: ps.filterMap laterComponent? :=
          components_of_dot (ht ▸ hp)
        rw [hp]
        exact Or.inr ⟨Or.inr hcomp, habs⟩
      · rw [hp]
        exact Or.inr ⟨Or.inl (components_of_other (ht ▸ hp) (List.cons_ne_nil c q) hd), habs⟩

/-! ### Normal forms -/

/-- Plain components are read as they have been written. -/
theorem pieces_intercalate {cs : List Component} (hne : cs ≠ [])
    (hcs : ∀ c ∈ cs, '/' ∉ c.text.toList) :
    pieces ("/".intercalate (cs.map (·.text))).toList = cs.map (·.text.toList) := by
  rw [pieces_eq_splitOn, String.toList_intercalate, List.map_map]
  refine List.splitOn_intercalate '/' (fun q hq => ?_) (by simpa using hne)
  obtain ⟨c, hc, rfl⟩ := List.mem_map.mp hq
  exact hcs c hc

theorem filterMap_laterComponent? {cs : List Component} (hcs : ∀ c ∈ cs, c.Plain) :
    (cs.map (·.text.toList)).filterMap laterComponent? = cs := by
  rw [List.filterMap_map]
  have h : cs.filterMap (laterComponent? ∘ fun c => c.text.toList) = cs.map id :=
    List.filterMap_eq_map_iff_forall_eq_some.mpr fun c hc => (hcs c hc).2
  rw [h, List.map_id]

/-- Components are read back as they have been written. -/
theorem components_ofComponents {cs : List Component} (hcs : ∀ c ∈ cs, c.Plain) :
    (ofComponents (.root :: cs)).components = .root :: cs ∧
      (cs ≠ [] → (ofComponents cs).components = cs) := by
  cases cs with
  | nil => exact ⟨rfl, fun h => absurd rfl h⟩
  | cons c cs =>
    have hc : c.Plain := hcs c List.mem_cons_self
    constructor
    · have hp : pieces (ofComponents (.root :: c :: cs)).text.toList =
          [] :: c.text.toList :: cs.map (·.text.toList) := by
        refine pieces_intercalate (List.cons_ne_nil Component.root (c :: cs)) fun i hi => ?_
        rcases List.mem_cons.mp hi with rfl | hi
        · decide
        · exact (hcs i hi).1
      rw [components_of_slash hp]
      exact congrArg _ (filterMap_laterComponent? hcs)
    · intro _
      have ho : ofComponents (c :: cs) = ⟨"/".intercalate ((c :: cs).map (·.text))⟩ := by
        unfold ofComponents
        split
        · next he => exact absurd (List.cons.inj he).1 hc.ne_root
        · rfl
      have hp : pieces (ofComponents (c :: cs)).text.toList =
          c.text.toList :: cs.map (·.text.toList) := by
        rw [ho]
        exact pieces_intercalate (List.cons_ne_nil c cs) fun i hi => (hcs i hi).1
      rw [components_of_other hp hc.text_ne_nil hc.text_ne_dot]
      exact filterMap_laterComponent? hcs

/-- The names of a place are plain. -/
def Place.Plain (P : Place) : Prop := ∀ n ∈ P.names, (Component.name n).Plain

/-- Plain components lead no place to the root, and to no other kind of name. -/
theorem Place.foldl_step_plain {P : Place} {cs : List Component} (hP : P.Plain)
    (hcs : ∀ c ∈ cs, c.Plain) :
    (cs.foldl step P).rooted = P.rooted ∧ (cs.foldl step P).Plain := by
  induction cs generalizing P with
  | nil => exact ⟨rfl, hP⟩
  | cons c cs ih =>
    have hc : c.Plain := hcs c List.mem_cons_self
    have hstep : (P.step c).rooted = P.rooted ∧ (P.step c).Plain := by
      obtain ⟨b, k, ns⟩ := P
      cases c with
      | root => exact absurd rfl hc.ne_root
      | here => exact ⟨rfl, hP⟩
      | name n => exact ⟨rfl, List.forall_mem_cons.mpr ⟨hc, hP⟩⟩
      | up =>
        cases ns with
        | nil => exact ⟨rfl, hP⟩
        | cons n ns => exact ⟨rfl, fun i hi => hP i (List.mem_cons_of_mem n hi)⟩
    obtain ⟨hr, hp⟩ := ih hstep.2 fun i hi => hcs i (List.mem_cons_of_mem c hi)
    exact ⟨hr.trans hstep.1, hp⟩

/-- The place that a path comes to. -/
def place (p : Path) : Place := .ofComponents p.components

section Place
variable (p q : Path)

/-- A path takes its steps from the root or from where it starts. -/
theorem place_eq : p.place = p.steps.foldl Place.step { rooted := p.isAbsolute } := by
  unfold place
  rcases p.components_cases with ⟨hp, ha⟩ | ⟨hp | hp, ha⟩ <;> rw [hp, ha] <;> rfl

private theorem place_plain : p.place.rooted = p.isAbsolute ∧ p.place.Plain := by
  rw [place_eq]
  exact Place.foldl_step_plain (fun n hn => by cases hn) fun c hc => plain_of_mem_steps hc

theorem rooted_place : p.place.rooted = p.isAbsolute := p.place_plain.1

theorem plain_place : p.place.Plain := p.place_plain.2

theorem simplified_components : simplified p.components = p.place.components := by
  have hf : p.components.foldl pushReversed [] =
      p.steps.foldl pushReversed (Place.reversed { rooted := p.isAbsolute }) := by
    rcases p.components_cases with ⟨hp, ha⟩ | ⟨hp | hp, ha⟩ <;> rw [hp, ha] <;> rfl
  unfold simplified Place.components
  rw [hf, Place.foldl_pushReversed _ p.root_notMem_steps, place_eq]

theorem ups_place : p.place.ups = p.climbs := by
  have hc : p.climbs = overshoot [] p.steps := by
    unfold climbs
    rcases p.components_cases with ⟨hp, -⟩ | ⟨hp | hp, -⟩ <;>
      simp [hp, overshoot, Component.lead]
  rw [place_eq, hc, ← Place.overshoot_names _ p.root_notMem_steps, Nat.zero_add]

/-- The normal form of a path is read as the components of its place. -/
theorem components_normalize (h : p.place.components ≠ []) :
    p.normalize.components = p.place.components := by
  have hn : p.normalize = ofComponents p.place.components := by
    unfold normalize
    rw [simplified_components]
    split
    · next he => exact absurd he h
    · rfl
  rw [hn, Place.components_eq] at *
  have hplain : ∀ c ∈ List.replicate p.place.ups Component.up ++ p.place.names.reverse.map .name,
      c.Plain := by
    intro c hc
    rcases List.mem_append.mp hc with hc | hc
    · rw [List.eq_of_mem_replicate hc]
      exact plain_up
    · obtain ⟨n, hn, rfl⟩ := List.mem_map.mp hc
      exact p.plain_place n (List.mem_reverse.mp hn)
  cases hr : p.place.rooted with
  | true => exact (components_ofComponents hplain).1
  | false =>
    rw [hr] at h
    exact (components_ofComponents hplain).2 h

/-- The normal form of a path comes to the same place. -/
theorem place_normalize : p.normalize.place = p.place := by
  by_cases h : p.place.components = []
  · have hn : p.normalize = ⟨"."⟩ := by
      unfold normalize
      rw [simplified_components, h]
    rw [← p.place.ofComponents_components, h, hn]
    rfl
  · rw [place, p.components_normalize h, Place.ofComponents_components]

/-- The normal form of a path depends on its place only. -/
theorem sameFile_iff_place : p.sameFile q = true ↔ p.place = q.place := by
  unfold sameFile same
  rw [decide_eq_true_iff]
  constructor
  · intro h
    rw [← p.place_normalize, ← q.place_normalize, place, place, h]
  · intro h
    unfold normalize
    rw [simplified_components, simplified_components, h]

theorem samePlace_iff : p.SamePlace q ↔ ∀ d, p.place.target d = q.place.target d := by
  unfold SamePlace
  refine forall_congr' fun d => ?_
  rw [Place.walk_eq_target, Place.walk_eq_target]
  rfl

/-- Paths name the same file if they lead to the same place and step up from the root equally
often. -/
theorem sameFile_iff_samePlace : p.sameFile q = true ↔ p.SamePlace q ∧ p.climbs = q.climbs := by
  rw [sameFile_iff_place, samePlace_iff, ← ups_place, ← ups_place]
  constructor
  · intro h
    rw [h]
    exact ⟨fun d => rfl, rfl⟩
  · exact fun h => Place.eq_of_target h.1 h.2

variable {p q}

/-- A path that starts elsewhere than at the root leads to other places if it steps up from the root
more or less often. -/
theorem SamePlace.climbs_eq (h : p.SamePlace q) (hp : p.isAbsolute = false) :
    p.climbs = q.climbs := by
  rw [← ups_place, ← ups_place]
  exact Place.ups_eq_of_target ((p.samePlace_iff q).mp h) (p.rooted_place.trans hp)

end Place

end ListingPanel.Path
