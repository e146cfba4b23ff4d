import ListingPanel.Proofs.FileTree
import ListingPanel.Proofs.Path.Joined

/-!
What is put at a free name is found there for as long as the way to it is kept, and what is removed
is found no more.
-/
namespace ListingPanel

/-- A directory, or a link: a walk goes on from it. -/
def Entry.LeadsOn (e : Entry) : Prop := e = .directory ∨ ∃ target, e = .link target

namespace FileTree

variable {t t' : FileTree} {l m : Location} {e : Entry}

/-! ### Trees that keep what others hold -/

def Keeps (t t' : FileTree) : Prop := ∀ l e, t.get? l = some e → t'.get? l = some e

theorem Keeps.refl (t : FileTree) : t.Keeps t := fun _ _ => id

theorem Keeps.trans {t'' : FileTree} (h : t.Keeps t') (h' : t'.Keeps t'') : t.Keeps t'' :=
  fun l e he => h' l e (h l e he)

/-- The ways through a tree are open in another one. -/
def KeepsWays (t t' : FileTree) : Prop :=
  ∀ l e, e.LeadsOn → t.get? l = some e → t'.get? l = some e

theorem Keeps.ways (h : t.Keeps t') : t.KeepsWays t' := fun l e _ => h l e

theorem KeepsWays.trans {t'' : FileTree} (h : t.KeepsWays t') (h' : t'.KeepsWays t'') :
    t.KeepsWays t'' := fun l e hw he => h' l e hw (h l e hw he)

theorem ne_nil_of_get?_eq_none (h : t.get? l = none) : l ≠ [] := by
  rintro rfl
  cases h

theorem keeps_put (h : t.get? l = none) (e : Entry) : t.Keeps (t.put l e) := fun m f hm => by
  have hne : m ≠ l := by
    rintro rfl
    cases h.symm.trans hm
  rw [get?_put (ne_nil_of_get?_eq_none h), if_neg hne, hm]

/-- Removing a place removes what was put there or below. -/
theorem erase_put (h : l <+: m) : (t.put m e).erase l = t.erase l := by
  have hp : l.isPrefixOf m = true := List.isPrefixOf_iff_prefix.mpr h
  unfold erase put
  dsimp only
  rw [List.filter_cons_of_neg (by simp [hp]), List.filter_filter]
  congr 1
  refine List.filter_congr fun x _ => ?_
  by_cases hx : x.1 = m
  · simp [hx, hp]
  · simp [hx]

/-- Removing a place where nothing is changes nothing. -/
theorem erase_eq_self (hl : l ≠ []) (h : ∀ r, t.get? (l ++ r) = none) : t.erase l = t := by
  have hfree : ∀ x ∈ t.entries, ¬ l <+: x.1 := by
    rintro x hx ⟨r, hr⟩
    have hget := h r
    unfold get? at hget
    rw [if_neg (by simp [hl]), List.lookup_eq_none_iff] at hget
    simpa [hr] using hget x hx
  have hall : t.entries.filter (fun x => !l.isPrefixOf x.1) = t.entries :=
    List.filter_eq_self.mpr fun x hx => by
      simpa [← List.isPrefixOf_iff_prefix] using hfree x hx
  unfold erase
  rw [hall]

/-! ### Walks -/

section Walk

variable {keepLast slash : Bool} {links : Nat} {at_ p : Location} {n : String}
  {names : List String}

/-- Whether the last link is kept makes no difference, unless the walk ends at that link. -/
theorem walk_follow
    (h : ∀ l target, walk t true links at_ slash names ≠ .ok (.entry l (.link target))) :
    walk t false links at_ slash names = walk t true links at_ slash names := by
  fun_induction walk t true links at_ slash names with
  | case1 => rw [walk]
  | case2 links at_ slash r ih => exact walk_here.trans (ih h)
  | case3 links at_ slash r _ ih => exact walk_up.trans (ih h)
  | case4 links at_ slash n r h1 h2 h3 => rw [walk, if_neg h1, if_neg h2, if_pos h3]
  | case5 links at_ slash n h1 h2 h3 hget =>
    exact (walk_none ⟨h1, h2, h3⟩ hget []).trans (if_pos rfl)
  | case6 links at_ slash n r h1 h2 h3 hget hr =>
    exact (walk_none ⟨h1, h2, h3⟩ hget r).trans (if_neg hr)
  | case7 links at_ slash n r h1 h2 h3 hget ih =>
    exact (walk_directory ⟨h1, h2, h3⟩ hget r).trans (ih h)
  | case8 => exact absurd rfl (h _ _)
  | case9 at_ slash n r h1 h2 h3 target hget hkeep =>
    rw [walk, if_neg h1, if_neg h2, if_neg h3, hget]
    dsimp only
    rw [if_neg (by simp), dif_pos rfl]
  | case10 links at_ slash n r h1 h2 h3 target hget hkeep hlinks fromRoot names inSlash hs ih =>
    exact (walk_link ⟨h1, h2, h3⟩ hget (by simp) hlinks hs).trans (ih h)
  | case11 links at_ slash n r h1 h2 h3 e hdir hlink hget hlast =>
    obtain ⟨rfl, hslash⟩ := hlast
    obtain rfl : slash = false := (Bool.not_eq_true' slash).mp hslash
    exact walk_last ⟨h1, h2, h3⟩ hget (.inr hlink)
  | case12 links at_ slash n r h1 h2 h3 e hdir hlink hget hlast =>
    rw [walk, if_neg h1, if_neg h2, if_neg h3, hget]
    cases e with
    | directory => exact (hdir rfl).elim
    | link target => exact (hlink target rfl).elim
    | _ => exact if_neg hlast

/-- A walk to a free name goes on from there, with or without further names, in every tree that
keeps the ways. -/
theorem walk_append_of_vacant (hk : t.KeepsWays t')
    (h : walk t keepLast links at_ slash names = .ok (.vacant p n)) :
    PlainName n ∧ ∃ links', ∀ keepLast' slash' rest,
      (rest ≠ [] ∨ keepLast = true ∧ slash = false ∧ keepLast' = true ∧ slash' = false) →
      walk t' keepLast' links at_ slash' (names ++ rest) =
        walk t' keepLast' links' p slash' (n :: rest) := by
  fun_induction walk t keepLast links at_ slash names with
  | case2 links at_ slash r ih =>
    obtain ⟨hn, links', ih⟩ := ih h
    exact ⟨hn, links', fun k s rest hr => walk_here.trans (ih k s rest hr)⟩
  | case3 links at_ slash r _ ih =>
    obtain ⟨hn, links', ih⟩ := ih h
    exact ⟨hn, links', fun k s rest hr => walk_up.trans (ih k s rest hr)⟩
  | case5 links at_ slash n h1 h2 h3 hget =>
    cases h
    exact ⟨⟨h1, h2, h3⟩, links, fun _ _ _ _ => rfl⟩
  | case7 links at_ slash n r h1 h2 h3 hget ih =>
    obtain ⟨hn, links', ih⟩ := ih h
    exact ⟨hn, links', fun k s rest hr =>
      (walk_directory ⟨h1, h2, h3⟩ (hk _ _ (.inl rfl) hget) _).trans (ih k s rest hr)⟩
  | case10 links at_ slash n r h1 h2 h3 target hget hkeep hlinks fromRoot names inSlash hs ih =>
    obtain ⟨hn, links', ih⟩ := ih h
    refine ⟨hn, links', fun k s rest hr => ?_⟩
    -- the link is not the last step, or it would have been the end of the walk
    have hne : r ++ rest ≠ [] := by
      rcases hr with hr | ⟨hk, hs, -⟩
      · exact List.append_ne_nil_of_right_ne_nil r hr
      · have hr : r ≠ [] := fun hr => hkeep ⟨hk, hr, hs ▸ rfl⟩
        exact List.append_ne_nil_of_left_ne_nil hr rest
    have hlink := hk _ _ (.inr ⟨target, rfl⟩) hget
    rw [List.cons_append, walk_link ⟨h1, h2, h3⟩ hlink (fun h => hne h.2.1) hlinks hs, if_neg hne,
      ← List.append_assoc]
    refine ih k s rest (hr.imp_right fun h => ⟨h.1, ?_, h.2.2⟩)
    have hr : r ≠ [] := fun hr => hkeep ⟨h.1, hr, h.2.1 ▸ rfl⟩
    rw [dif_neg hr, h.2.1]
  | case1 | case4 | case6 | case8 | case9 | case11 | case12 => cases h

end Walk

/-! ### Paths -/

section Follow

variable {here p : Location} {q : Path} {n : String} {keepLast : Bool} {g : Target}

theorem follow_eq (he : q.text ≠ "") (hc : Char.ofNat 0 ∉ q.text.toList) :
    t.follow here q keepLast =
      walk t keepLast maxLinks (if (steps q).1 then [] else here) (steps q).2.2 (steps q).2.1 := by
  unfold follow
  rw [if_neg (by simpa using he), if_neg (by simpa using hc)]

theorem follow_eq_ok_iff : t.follow here q keepLast = .ok g ↔
    q.text ≠ "" ∧ Char.ofNat 0 ∉ q.text.toList ∧
      walk t keepLast maxLinks (if (steps q).1 then [] else here) (steps q).2.2 (steps q).2.1 =
        .ok g := by
  by_cases he : q.text = ""
  · simp [follow, he]
  · by_cases hc : Char.ofNat 0 ∈ q.text.toList
    · simp [follow, he, hc]
    · simp [follow_eq he hc, he, hc]

/-- What is written goes nowhere but to a file. -/
theorem put_keepsWays (hg : t.follow here q = .ok g) (hk : g.keeper? = some l) (bs : List UInt8)
    (x : Bool) : t.KeepsWays (t.put l (.file bs x)) := by
  intro m e hw hm
  obtain ⟨hl, hfile⟩ := (follow_fits hg).keeper hk
  have hne : m ≠ l := by
    rintro rfl
    obtain ⟨b, x, rfl⟩ := hfile e hm
    rcases hw with hw | ⟨target, hw⟩ <;> cases hw
  rw [get?_put hl, if_neg hne, hm]

section Join
variable (hq : q.text ≠ "") (hn : Path.OrdinaryName n)
include hq hn

theorem toList_join : ∃ cs, (q.text.toList = cs ∨ q.text.toList = cs ++ ['/']) ∧
    (q.join n).text.toList = cs ++ '/' :: n.toList := by
  have hrel : Path.isAbsolute ⟨n⟩ = false :=
    decide_eq_false fun h => hn.2.2.2 (List.mem_of_head? h)
  rcases Path.toList_join hrel (p := q) with ⟨he, -⟩ | ⟨cs, hcs, -, hj⟩
  · exact absurd he hq
  · exact ⟨cs, hcs, hj⟩

theorem steps_join : steps (q.join n) = ((steps q).1, (steps q).2.1 ++ [n], false) := by
  obtain ⟨cs, hcs, hj⟩ := toList_join hq hn
  obtain ⟨hempty, -, -, hslash⟩ := hn
  have hne : n.toList ≠ [] := mt String.toList_eq_nil_iff.mp hempty
  refine Prod.ext ?_ (Prod.ext ?_ ?_)
  · exact Path.isAbsolute_join (decide_eq_false fun h => hslash (List.mem_of_head? h)) (q := ⟨n⟩)
  · have names_eq : ∀ p : Path, (steps p).2.1 =
      ((Path.pieces p.text.toList).filter (· ≠ [])).map String.ofList := fun _ => rfl
    have hpieces : Path.pieces n.toList = [n.toList] := by
      rw [Path.pieces_eq_splitOn]
      refine List.splitOnP_eq_singleton fun c hc => ?_
      simpa using fun h : c = '/' => hslash (h ▸ hc)
    dsimp only
    rw [names_eq, names_eq, hj, Path.pieces_append_slash, hpieces]
    rcases hcs with hcs | hcs <;> rw [hcs]
    · simp [hne]
    · -- the piece after a last slash is empty
      rw [Path.pieces_append_slash]
      simp [Path.pieces, hne]
  · refine decide_eq_false fun h => hslash (List.mem_of_getLast? ?_)
    rwa [hj, List.append_cons, List.getLast?_append_of_ne_nil _ hne] at h

/-- A name below a path is the last step of a walk along both. -/
theorem follow_join (hc : Char.ofNat 0 ∉ q.text.toList) (hnul : Char.ofNat 0 ∉ n.toList) :
    t.follow here (q.join n) keepLast =
      walk t keepLast maxLinks (if (steps q).1 then [] else here) false ((steps q).2.1 ++ [n]) := by
  obtain ⟨cs, hcs, hj⟩ := toList_join hq hn
  have hej : (q.join n).text ≠ "" := fun he => by simp [he] at hj
  have hcj : Char.ofNat 0 ∉ (q.join n).text.toList := by
    have hccs : Char.ofNat 0 ∉ cs := by
      rcases hcs with rfl | hcs
      · exact hc
      · exact fun h => hc (hcs ▸ List.mem_append_left _ h)
    rw [hj]
    simp [hccs, hnul]
  rw [follow_eq hej hcj, steps_join hq hn]

/-- Where a path leads to a free name, a name below that path is looked up below the free one. -/
theorem follow_join_of_vacant (hnul : Char.ofNat 0 ∉ n.toList) (hk : t.KeepsWays t') {x : String}
    (h : t.follow here q keepLast = .ok (.vacant p x)) :
    PlainName x ∧ ∃ links, ∀ keepLast',
      t'.follow here (q.join n) keepLast' = walk t' keepLast' links p false [x, n] := by
  obtain ⟨-, hc, hw⟩ := follow_eq_ok_iff.mp h
  obtain ⟨hx, links, hgo⟩ := walk_append_of_vacant hk hw
  refine ⟨hx, links, fun k => ?_⟩
  rw [follow_join hq hn hc hnul]
  exact hgo k false [n] (.inl (List.cons_ne_nil n []))

end Join

/-- A path to a free name leads to what stands there later, for as long as the way is kept. -/
theorem follow_of_vacant (hs : (steps q).2.2 = false) (hk : t.KeepsWays t') {x : String}
    (h : t.follow here q true = .ok (.vacant p x)) :
    t'.follow here q true = .ok
      (match t'.get? (p ++ [x]) with
      | none => .vacant p x
      | some e => .entry (p ++ [x]) e) := by
  obtain ⟨he, hc, hw⟩ := follow_eq_ok_iff.mp h
  obtain ⟨hx, links, hgo⟩ := walk_append_of_vacant hk hw
  have hgo := hgo true false [] (.inr ⟨rfl, hs, rfl, rfl⟩)
  rw [List.append_nil] at hgo
  rw [follow_eq he hc, hs, hgo]
  cases hget : t'.get? (p ++ [x]) with
  | none => exact (walk_none hx hget []).trans (if_pos rfl)
  | some e => exact walk_last hx hget (.inl rfl)

/-- Whether the last link is kept makes no difference to a path that does not lead to one. -/
theorem follow_follow
    (h : ∀ l target, t.follow here q true ≠ .ok (.entry l (.link target))) :
    t.follow here q = t.follow here q true := by
  by_cases he : q.text = ""
  · simp [follow, he]
  · by_cases hc : Char.ofNat 0 ∈ q.text.toList
    · simp [follow, he, hc]
    · simp only [follow_eq he hc] at h ⊢
      exact walk_follow h

theorem makeDirectory_cases (h : t.makeDirectory here q = .ok t') :
    ∃ parent name, t.follow here q = .ok (.vacant parent name) ∧
      t' = t.put (parent ++ [name]) .directory := by
  unfold makeDirectory at h
  cases hf : t.follow here q with
  | error f => rw [hf] at h; cases h
  | ok g =>
    rw [hf] at h
    cases g with
    | entry l e => cases h
    | vacant parent name => exact ⟨parent, name, rfl, (Except.ok.inj h).symm⟩

end Follow

end FileTree

end ListingPanel
