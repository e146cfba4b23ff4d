import ListingPanel.Proofs.View.Highlights
import Mathlib.Data.List.Induction

/-! Runs of additions to highlights. They keep the first overlay that was offered for each key since
they were last cleared, in the order of the keys, whatever order the overlays came in. -/
namespace ListingPanel

namespace Highlights

/-! ### Runs -/

inductive Action where
  | add (o : Overlay)
  | clear
  deriving DecidableEq

def act (h : Highlights) : Action → Highlights
  | .add o => h.insert o
  | .clear => {}

def run (as : List Action) : Highlights := as.foldl act {}

/-- The overlays that a run has offered since it last cleared the highlights. -/
def offered (as : List Action) : List Overlay :=
  as.foldl (fun os a => match a with
    | .add o => os ++ [o]
    | .clear => []) []

/-- The highlights are the first of the overlays offered for each key, in the order of the keys. -/
structure Keeps (h : Highlights) (os : List Overlay) : Prop where
  ascending : h.keys.Pairwise KeyLt
  first : ∀ o, o ∈ h.overlays ↔ os.find? (·.key = o.key) = some o

namespace Keeps
variable {h : Highlights} {os : List Overlay}

theorem empty : Keeps {} [] := ⟨.nil, fun o => by simp⟩

theorem mem_keys_iff (hk : h.Keeps os) {k : Nat × Nat} :
    k ∈ h.keys ↔ ∃ o ∈ os, o.key = k := by
  constructor
  · intro hm
    obtain ⟨o, ho, rfl⟩ := List.mem_map.mp hm
    exact ⟨o, List.mem_of_find?_eq_some ((hk.first o).mp ho), rfl⟩
  · rintro ⟨o, ho, rfl⟩
    have hsome : (os.find? (·.key = o.key)).isSome = true :=
      List.find?_isSome.mpr ⟨o, ho, by simp⟩
    obtain ⟨p, hp⟩ := Option.isSome_iff_exists.mp hsome
    have hpo : p.key = o.key := by simpa using List.find?_some hp
    refine List.mem_map.mpr ⟨p, (hk.first p).mpr ?_, hpo⟩
    rwa [hpo]

theorem insert (hk : h.Keeps os) (o : Overlay) : (h.insert o).Keeps (os ++ [o]) := by
  refine ⟨pairwise_keys_insert hk.ascending o, fun p => ?_⟩
  have hp : os.find? (·.key = p.key) = none ↔ p.key ∉ h.keys := by
    rw [hk.mem_keys_iff]
    simp
  rw [mem_insert_iff hk.ascending, hk.first p, List.find?_append]
  cases hf : os.find? (·.key = p.key) with
  | some q =>
    rw [Option.some_or]
    refine or_iff_left ?_
    rintro ⟨rfl, ho⟩
    rw [hp.mpr ho] at hf
    cases hf
  | none =>
    have hnot : p.key ∉ h.keys := hp.mp hf
    rw [Option.none_or]
    by_cases hpo : p = o
    · subst hpo
      simp [hnot]
    · simp [hpo, Ne.symm hpo]

theorem act (hk : h.Keeps os) (a : Action) :
    (h.act a).Keeps (match a with | .add o => os ++ [o] | .clear => []) := by
  cases a with
  | add o => exact hk.insert o
  | clear => exact empty

end Keeps

theorem keeps_run (as : List Action) : (run as).Keeps (offered as) := by
  induction as using List.reverseRecOn with
  | nil => exact .empty
  | append_singleton as a ih =>
    unfold run offered at *
    rw [List.foldl_concat, List.foldl_concat]
    exact ih.act a

/-- The keys depend only on which keys were offered. -/
theorem Keeps.keys_eq {h h' : Highlights} {os os' : List Overlay} (hk : h.Keeps os)
    (hk' : h'.Keeps os')
    (he : ∀ k, (∃ o ∈ os, o.key = k) ↔ ∃ o ∈ os', o.key = k) : h.keys = h'.keys := by
  refine hk.ascending.eq_of_mem_iff hk'.ascending fun k => ?_
  rw [hk.mem_keys_iff, hk'.mem_keys_iff]
  exact he k

/-! ### Queries -/

theorem at?_eq_none_iff {h : Highlights} {n : Nat} :
    h.at? n = none ↔ ∀ o ∈ h.overlays, o.contains n = false := by
  unfold at?
  rw [List.find?_eq_none]
  exact forall₂_congr fun o _ => by rw [Bool.not_eq_true]

/-- A line is highlighted by the overlay with the least key of those that contain it. -/
theorem at?_eq_some_iff {h : Highlights} (hs : h.keys.Pairwise KeyLt) {n : Nat} {o : Overlay} :
    h.at? n = some o ↔ o ∈ h.overlays ∧ o.contains n = true ∧
      ∀ p ∈ h.overlays, p.contains n = true → p = o ∨ KeyLt o.key p.key := by
  have hleast : ∀ q, h.at? n = some q →
      ∀ p ∈ h.overlays, p.contains n = true → p = q ∨ KeyLt q.key p.key := fun q hq p hp hpn => by
    obtain ⟨-, l, r, hl, hnot⟩ := List.find?_eq_some_iff_append.mp hq
    have hpair := List.pairwise_map.mp hs
    rw [hl] at hp hpair
    rcases List.mem_append.mp hp with hp | hp
    · exact absurd hpn (by simpa using hnot p hp)
    · rcases List.mem_cons.mp hp with rfl | hp
      · exact Or.inl rfl
      · exact Or.inr ((List.pairwise_cons.mp (List.pairwise_append.mp hpair).2.1).1 p hp)
  constructor
  · intro ho
    exact ⟨(mem_of_at? ho).1, (mem_of_at? ho).2, hleast o ho⟩
  · rintro ⟨ho, hn, hmin⟩
    obtain ⟨q, hq⟩ := Option.isSome_iff_exists.mp (covers_iff.mpr ⟨o, ho, hn⟩)
    obtain ⟨hqm, hqn⟩ := mem_of_at? hq
    rcases hleast q hq o ho hn with rfl | hlt
    · exact hq
    · rcases hmin q hqm hqn with rfl | hlt'
      · exact hq
      · exact absurd (hlt.trans hlt') (irrefl_of KeyLt _)

/-- An overlay overlaps a window that is not empty if it contains one of its lines, and only then
unless it is reversed. -/
theorem overlaps_iff {o : Overlay} {start stop : Nat} (hw : start < stop) (ho : o.first ≤ o.last) :
    o.overlaps start stop = true ↔ ∃ n, start ≤ n ∧ n < stop ∧ o.contains n = true := by
  simp only [Overlay.overlaps, Overlay.contains, Bool.and_eq_true, decide_eq_true_eq]
  constructor
  · intro h
    exact ⟨max start o.first, by omega, by omega, by omega, by omega⟩
  · rintro ⟨n, hs, hn, hf, hl⟩
    omega

theorem first_le_last_of_contains {o : Overlay} {n : Nat} (h : o.contains n = true) :
    o.first ≤ o.last := by
  simp only [Overlay.contains, Bool.and_eq_true, decide_eq_true_eq] at h
  omega

/-- After any run of additions and clearings the keys are those offered since the last clearing, in
ascending order and each once, and each has the first overlay that was offered for it. Whether an
overlay is put in depends on its key alone, and one that is refused changes nothing. A line is
highlighted by the overlay with the least key around it, and a window shows, in the order of their
keys, the overlays that contain one of its lines. -/
theorem overlays_run (as : List Action) :
    let h := run as
    let os := offered as
    (h.keys.Pairwise KeyLt ∧ ∀ k, k ∈ h.keys ↔ ∃ o ∈ os, o.key = k) ∧
    (∀ bs, (∀ k, (∃ o ∈ offered bs, o.key = k) ↔ ∃ o ∈ os, o.key = k) → (run bs).keys = h.keys) ∧
    (∀ o, o ∈ h.overlays ↔ os.find? (·.key = o.key) = some o) ∧
    (∀ o, h.add o = (!h.hasKey o.key, h.insert o) ∧
      (h.hasKey o.key = true ↔ ∃ p ∈ os, p.key = o.key) ∧
      (h.hasKey o.key = true → h.insert o = h)) ∧
    (∀ n o, h.at? n = some o ↔ o ∈ h.overlays ∧ o.contains n = true ∧
      ∀ p ∈ h.overlays, p.contains n = true → p = o ∨ KeyLt o.key p.key) ∧
    (∀ n, h.at? n = none ↔ ∀ o ∈ h.overlays, o.contains n = false) ∧
    ∀ start stop, start < stop →
      (h.inWindow start stop).Sublist h.overlays ∧
      ∀ o ∈ h.overlays,
        ((∃ n, start ≤ n ∧ n < stop ∧ o.contains n = true) → o ∈ h.inWindow start stop) ∧
        (o ∈ h.inWindow start stop → o.first ≤ o.last →
          ∃ n, start ≤ n ∧ n < stop ∧ o.contains n = true) := by
  intro h os
  have hk : h.Keeps os := keeps_run as
  have hs := hk.ascending
  refine ⟨⟨hs, fun k => hk.mem_keys_iff⟩, fun bs hb => (keeps_run bs).keys_eq hk hb, hk.first,
    fun o => ⟨?_, ?_, fun ho => insert_of_mem hs (hasKey_iff.mp ho)⟩, fun n o => at?_eq_some_iff hs,
    fun n => at?_eq_none_iff, fun start stop hw => ⟨List.filter_sublist, fun o ho => ⟨?_, ?_⟩⟩⟩
  · refine Prod.ext ?_ rfl
    rw [add_eq hs, apply_ite Prod.fst, Bool.eq_iff_iff]
    by_cases ho : o.key ∈ h.keys
    · simp [ho, hasKey_iff.mpr ho]
    · simp [ho, mt hasKey_iff.mp ho]
  · rw [hasKey_iff, hk.mem_keys_iff]
  · rintro ⟨n, hn⟩
    have hov := (overlaps_iff hw (first_le_last_of_contains hn.2.2)).mpr ⟨n, hn⟩
    exact List.mem_filter.mpr ⟨ho, hov⟩
  · intro hm hle
    exact (overlaps_iff hw hle).mp (List.mem_filter.mp hm).2

/-- The second overlay for lines 2 to 4 is refused, and one that ends before it starts is kept. -/
theorem overlays_run_repeated :
    let as : List Action := [.add ⟨0, 9, 1⟩, .clear, .add ⟨5, 3, 1⟩, .add ⟨2, 4, 7⟩,
      .add ⟨2, 4, 8⟩, .add ⟨2, 3, 5⟩]
    let h := run as
    h.overlays = [⟨2, 3, 5⟩, ⟨2, 4, 7⟩, ⟨5, 3, 1⟩] ∧ h.add ⟨2, 4, 8⟩ = (false, h) ∧
      (run [.add ⟨2, 3, 5⟩, .add ⟨5, 3, 0⟩, .add ⟨2, 4, 7⟩]).keys = h.keys ∧
      (⟨2, 4, 7⟩ ∈ h.inWindow 4 5 ∧
        ∃ n, 4 ≤ n ∧ n < 5 ∧ (Overlay.mk 2 4 7).contains n = true) := by
  intro as h
  obtain ⟨-, hkeys, -, hadd, -, -, hwindow⟩ := overlays_run as
  have hrefused : h.hasKey (2, 4) = true := by decide +kernel
  have hsame := hadd ⟨2, 4, 8⟩
  have hmem : ⟨2, 4, 7⟩ ∈ h.inWindow 4 5 := by decide +kernel
  refine ⟨by decide +kernel, ?_, hkeys _ fun k => ?_, hmem,
    ((hwindow 4 5 (by decide)).2 ⟨2, 4, 7⟩ (by decide +kernel)).2 hmem (by decide)⟩
  · rw [hsame.1, hsame.2.2 hrefused]
    exact congrArg (·, h) (congrArg (!·) hrefused)
  · simp [as, offered, Overlay.key]
    tauto

end Highlights

end ListingPanel
