import ListingPanel.Proofs.Path.NormalForm

/-! What normal forms look like, and that a path below another one comes to the same place as below
its normal form. -/
namespace ListingPanel.Path

/-! ### Paths below other paths -/

theorem pieces_append_slash (a b : List Char) : pieces (a ++ '/' :: b) = pieces a ++ pieces b := by
  induction a with
  | nil => rfl
  | cons c a ih =>
    rw [List.cons_append, pieces, pieces, ih]
    split_ifs with hc
    · rfl
    · cases ha : pieces a with
      | nil =>
        rw [pieces_eq_splitOn] at ha
        exact absurd ha (List.splitOn_ne_nil _ a)
      | cons q ps => rfl

section Join
variable {p q : Path} (hq : q.isAbsolute = false)
include hq

/-- Below `p` stands all of `q`, after a slash if one is missing. -/
theorem toList_join : (p.text = "" ∧ p.join q.text = q) ∨
    ∃ cs, (p.text.toList = cs ∨ p.text.toList = cs ++ ['/']) ∧ p.text ≠ "" ∧
      (p.join q.text).text.toList = cs ++ '/' :: q.text.toList := by
  have hrel : ¬ q.text.toList.head? = some '/' := by simpa [isAbsolute] using hq
  unfold join
  rw [if_neg hrel]
  by_cases he : p.text = ""
  · exact Or.inl ⟨he, by simp [he]⟩
  · right
    by_cases hl : p.text.toList.getLast? = some '/'
    · obtain ⟨cs, hcs⟩ := List.getLast?_eq_some_iff.mp hl
      refine ⟨cs, Or.inr hcs, he, ?_⟩
      simp [hcs]
    · refine ⟨p.text.toList, Or.inl rfl, he, ?_⟩
      simp [hl, he]

theorem isAbsolute_join : (p.join q.text).isAbsolute = p.isAbsolute := by
  rcases toList_join hq (p := p) with ⟨he, hj⟩ | ⟨cs, hcs, he, hj⟩
  · rw [hj, hq]
    simp [isAbsolute, he]
  · unfold isAbsolute
    rw [hj]
    rcases hcs with hcs | hcs <;> rw [hcs]
    · have hne : cs ≠ [] := by
        rintro rfl
        exact he (String.toList_eq_nil_iff.mp hcs)
      obtain ⟨c, cs, rfl⟩ := List.exists_cons_of_ne_nil hne
      rfl
    · cases cs <;> rfl

theorem steps_join : (p.join q.text).steps = p.steps ++ q.steps := by
  unfold steps
  rcases toList_join hq (p := p) with ⟨he, hj⟩ | ⟨cs, hcs, -, hj⟩
  · rw [hj, he]
    rfl
  · rw [hj, pieces_append_slash, List.filterMap_append]
    rcases hcs with hcs | hcs <;> rw [hcs]
    · -- the piece after a last slash is empty
      have hlast : (pieces []).filterMap laterComponent? = [] := rfl
      rw [pieces_append_slash, List.filterMap_append, hlast, List.append_nil]

/-- A relative path goes on from the place that the path above it comes to. -/
theorem place_join : (p.join q.text).place = q.steps.foldl Place.step p.place := by
  rw [place_eq, steps_join hq, isAbsolute_join hq, List.foldl_append, ← place_eq]

end Join

/-! ### Normal forms -/

theorem normalize_eq (p : Path) :
    p.normalize = if p.place.components = [] then ⟨"."⟩ else ofComponents p.place.components := by
  unfold normalize
  rw [simplified_components]
  cases p.place.components <;> rfl

/-- A name that stands for an entry of a directory. -/
def OrdinaryName (n : String) : Prop := n ≠ "" ∧ n ≠ "." ∧ n ≠ ".." ∧ '/' ∉ n.toList

instance (n : String) : Decidable (OrdinaryName n) := inferInstanceAs (Decidable (_ ∧ _ ∧ _ ∧ _))

theorem ordinaryName_iff {n : String} : OrdinaryName n ↔ (Component.name n).Plain := by
  have hl : ∀ m : String, n = m ↔ n.toList = m.toList := fun m => String.toList_inj.symm
  have h₀ : n = "" ↔ n.toList = [] := hl ""
  have h₁ : n = "." ↔ n.toList = ['.'] := hl "."
  have h₂ : n = ".." ↔ n.toList = ['.', '.'] := hl ".."
  have hp : (Component.name n).Plain ↔
      '/' ∉ n.toList ∧ laterComponent? n.toList = some (.name n) := Iff.rfl
  rw [OrdinaryName, ne_eq, ne_eq, ne_eq, h₀, h₁, h₂, hp, laterComponent?, String.ofList_toList]
  split_ifs with hd hu
  · exact iff_of_false (fun h => hd.elim h.1 h.2.1) fun h => nomatch h.2
  · exact iff_of_false (fun h => h.2.2.1 hu) fun h => nomatch h.2
  · rw [not_or] at hd
    exact ⟨fun h => ⟨h.2.2.2, rfl⟩, fun h => ⟨hd.1, hd.2, hu, h.1⟩⟩

/-- A dot; or perhaps the root, then steps up, and then names. The path is written as its components
are. -/
def IsNormal (p : Path) : Prop :=
  p = ⟨"."⟩ ∨ ∃ (rooted : Bool) (ups : Nat) (names : List String),
    (∀ n ∈ names, OrdinaryName n) ∧
    p.components = (if rooted then [.root] else []) ++
      (List.replicate ups .up ++ names.map .name) ∧
    p.components ≠ [] ∧ p = ofComponents p.components

theorem isNormal_normalize (p : Path) : p.normalize.IsNormal := by
  rw [IsNormal, normalize_eq]
  split_ifs with h
  · exact Or.inl rfl
  · have hc := p.components_normalize h
    rw [normalize_eq, if_neg h] at hc
    refine Or.inr ⟨p.place.rooted, p.place.ups, p.place.names.reverse, fun n hn => ?_, ?_, ?_, ?_⟩
    · exact ordinaryName_iff.mpr (p.plain_place n (List.mem_reverse.mp hn))
    · rw [hc, Place.components_eq]
    · rwa [hc]
    · rw [hc]

/-- A normal form is its own normal form. -/
theorem IsNormal.normalize_eq {p : Path} (h : p.IsNormal) : p.normalize = p := by
  rcases h with rfl | ⟨rooted, ups, names, -, hc, hne, hp⟩
  · decide +kernel
  · have hplace : p.place = ⟨rooted, ups, names.reverse⟩ := by
      have hP := Place.ofComponents_components ⟨rooted, ups, names.reverse⟩
      rwa [Place.components_eq, List.reverse_reverse, ← hc] at hP
    have hcomp : p.place.components = p.components := by
      rw [hplace, Place.components_eq, List.reverse_reverse, hc]
    rw [Path.normalize_eq, hcomp, if_neg hne, ← hp]

/-- Normalizing gives a normal form, and leaves normal forms as they are. It keeps whether a path
starts at the root, and where the path leads. What is put below a path may be put below its normal
form instead. -/
theorem normalize_stable (p : Path) :
    p.normalize.IsNormal ∧ p.normalize.normalize = p.normalize ∧
    p.normalize.isAbsolute = p.isAbsolute ∧ p.normalize.SamePlace p ∧
    ∀ q : Path, q.isAbsolute = false →
      (p.join q.text).normalize = (p.normalize.join q.text).normalize := by
  refine ⟨p.isNormal_normalize, p.isNormal_normalize.normalize_eq, ?_, ?_, fun q hq => ?_⟩
  · rw [← rooted_place, place_normalize, rooted_place]
  · rw [samePlace_iff, place_normalize]
    exact fun d => rfl
  · rw [normalize_eq, normalize_eq, place_join hq, place_join hq, place_normalize]

/-- The path above leads nowhere but up, and the one below goes on from there. -/
theorem normalize_stable_upward :
    let p : Path := ⟨"src/.//../.."⟩
    let q : Path := ⟨"./../lib//x/../main.py"⟩
    q.isAbsolute = false ∧ p.normalize = ⟨".."⟩ ∧
      (p.normalize.join q.text).normalize = ⟨"../../lib/main.py"⟩ ∧
      (p.join q.text).normalize = ⟨"../../lib/main.py"⟩ := by
  intro p q
  have hq : q.isAbsolute = false := by decide
  have hn : (p.normalize.join q.text).normalize = ⟨"../../lib/main.py"⟩ := by decide +kernel
  obtain ⟨-, -, -, -, hjoin⟩ := normalize_stable p
  exact ⟨hq, by decide +kernel, hn, (hjoin q hq).trans hn⟩

end ListingPanel.Path
