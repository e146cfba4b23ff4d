import ListingPanel.FileTree
import ListingPanel.Proofs.Association
import ListingPanel.Proofs.Text.Utf8

/-!
What has been written to a file is read from it. A walk to the file passes nothing that the writing
changes.
-/
namespace ListingPanel.FileTree

variable {t : FileTree} {l m : Location} {e : Entry}

theorem get?_put (hl : l ≠ []) : (t.put l e).get? m = if m = l then some e else t.get? m := by
  have hf : t.entries.filter (·.1 ≠ l) = t.entries.filter (·.1 != l) :=
    List.filter_congr fun x _ => by rw [Bool.eq_iff_iff]; simp
  unfold get? put
  dsimp only
  rw [hf, lookup_insert]
  by_cases h : m = l
  · simp [h, hl]
  · simp [h]

theorem put_put (t : FileTree) (l : Location) (e e' : Entry) :
    (t.put l e).put l e' = t.put l e' := by
  simp [put]

/-- A name that a walk looks up. -/
def PlainName (n : String) : Prop := n ≠ "." ∧ n ≠ ".." ∧ ¬ 255 < n.utf8ByteSize

instance (n : String) : Decidable (PlainName n) := inferInstanceAs (Decidable (_ ∧ _ ∧ _))

section Walk

variable {keepLast slash : Bool} {links : Nat} {at_ : Location} {n : String} {r : List String}

theorem walk_here :
    walk t keepLast links at_ slash ("." :: r) = walk t keepLast links at_ slash r := by
  rw [walk, if_pos rfl]

theorem walk_up :
    walk t keepLast links at_ slash (".." :: r) = walk t keepLast links at_.dropLast slash r := by
  rw [walk, if_neg (by decide), if_pos rfl]

theorem walk_directory (hn : PlainName n) (h : t.get? (at_ ++ [n]) = some .directory)
    (names : List String) :
    walk t keepLast links at_ slash (n :: names) =
      walk t keepLast links (at_ ++ [n]) slash names := by
  rw [walk, if_neg hn.1, if_neg hn.2.1, if_neg hn.2.2, h]

theorem walk_none (hn : PlainName n) (h : t.get? (at_ ++ [n]) = none) (names : List String) :
    walk t keepLast links at_ slash (n :: names) =
      if names = [] then .ok (.vacant at_ n) else .error .notFound := by
  rw [walk, if_neg hn.1, if_neg hn.2.1, if_neg hn.2.2, h]

theorem walk_link (hn : PlainName n) {target : Path} (h : t.get? (at_ ++ [n]) = some (.link target))
    (hkeep : ¬ (keepLast = true ∧ r = [] ∧ (!slash) = true)) (hlinks : links ≠ 0)
    {fromRoot inSlash : Bool} {names : List String}
    (hs : steps target = (fromRoot, names, inSlash)) :
    walk t keepLast links at_ slash (n :: r) =
      walk t keepLast (links - 1) (if fromRoot then [] else at_)
        (if r = [] then slash || inSlash else slash) (names ++ r) := by
  rw [walk, if_neg hn.1, if_neg hn.2.1, if_neg hn.2.2, h]
  dsimp only
  rw [if_neg hkeep, dif_neg hlinks, hs]

/-- The last name, with no slash after it, stands for what is there, unless that is a link to
follow. -/
theorem walk_last (hn : PlainName n) (h : t.get? (at_ ++ [n]) = some e)
    (he : keepLast = true ∨ ∀ target, e ≠ .link target) :
    walk t keepLast links at_ false [n] = .ok (.entry (at_ ++ [n]) e) := by
  rw [walk, if_neg hn.1, if_neg hn.2.1, if_neg hn.2.2, h]
  cases e with
  | directory =>
    dsimp only
    rw [walk]
  | link target =>
    rcases he with rfl | he
    · rfl
    · exact absurd rfl (he target)
  | _ => rfl

theorem walk_file (hn : PlainName n) {b : List UInt8} {x : Bool}
    (h : t.get? (at_ ++ [n]) = some (.file b x)) :
    walk t keepLast links at_ false [n] = .ok (.entry (at_ ++ [n]) (.file b x)) :=
  walk_last hn h (.inr fun _ => nofun)

end Walk

/-- The target of a walk is what is in the tree. -/
def Target.Fits (t : FileTree) : Target → Prop
  | .entry l e => e = .directory ∨ l ≠ [] ∧ t.get? l = some e
  | .vacant p n => t.get? (p ++ [n]) = none

theorem walk_fits {keepLast slash : Bool} {links : Nat} {at_ : Location} {names : List String}
    {g : Target} (h : walk t keepLast links at_ slash names = .ok g) : g.Fits t := by
  fun_induction walk t keepLast links at_ slash names with
  | case1 =>
    cases h
    exact .inl rfl
  | case2 _ _ _ _ ih | case3 _ _ _ _ _ ih => exact ih h
  | case7 _ _ _ _ _ _ _ _ _ ih => exact ih h
  | case10 _ _ _ _ _ _ _ _ _ _ _ _ _ _ _ _ ih => exact ih h
  | case5 _ _ _ _ _ _ _ hget =>
    cases h
    exact hget
  | case8 _ _ _ _ _ _ _ _ _ hget | case11 _ _ _ _ _ _ _ _ _ _ _ hget =>
    cases h
    exact .inr ⟨by simp, hget⟩
  | case4 | case6 | case9 | case12 => cases h

/-- Where text goes that is written to a target, if it is kept. -/
def Target.keeper? : Target → Option Location
  | .entry l (.file ..) => some l
  | .vacant p n => some (p ++ [n])
  | _ => none

theorem Target.Fits.keeper {g : Target} (h : g.Fits t) (hg : g.keeper? = some l) :
    l ≠ [] ∧ ∀ e, t.get? l = some e → ∃ b x, e = .file b x := by
  cases g with
  | vacant p n =>
    cases hg
    exact ⟨by simp, fun e he => nomatch h.symm.trans he⟩
  | entry m e =>
    cases e with
    | file b x =>
      cases hg
      rcases h with hd | ⟨hm, he⟩
      · cases hd
      · exact ⟨hm, fun e' he' => ⟨b, x, Option.some.inj (he'.symm.trans he)⟩⟩
    | _ => cases hg

/-- After a write, a walk to the keeper ends there, unless a directory is wanted. -/
theorem walk_put {keepLast slash : Bool} {links : Nat} {at_ : Location} {names : List String}
    {g : Target} (h : walk t keepLast links at_ slash names = .ok g) (hg : g.keeper? = some l)
    (b : List UInt8) (x : Bool) :
    walk (t.put l (.file b x)) keepLast links at_ slash names = .ok (.entry l (.file b x)) ∨
      walk (t.put l (.file b x)) keepLast links at_ slash names = .error .notDirectory := by
  obtain ⟨hl, hfile⟩ := (walk_fits h).keeper hg
  -- what the walk passes is no file
  have hother : ∀ m e, t.get? m = some e → (∀ b x, e ≠ .file b x) →
      (t.put l (.file b x)).get? m = some e := fun m e hm he => by
    have hne : m ≠ l := by
      rintro rfl
      obtain ⟨b, x, rfl⟩ := hfile e hm
      exact he b x rfl
    rw [get?_put hl, if_neg hne, hm]
  fun_induction walk t keepLast links at_ slash names with
  | case1 =>
    cases h
    cases hg
  | case2 links at_ slash r ih =>
    rw [walk_here]
    exact ih h
  | case3 links at_ slash r _ ih =>
    rw [walk_up]
    exact ih h
  | case5 links at_ slash n h1 h2 h3 hget =>
    cases h
    cases hg
    rw [walk, if_neg h1, if_neg h2, if_neg h3, get?_put hl, if_pos rfl]
    dsimp only
    split
    · exact .inl rfl
    · exact .inr rfl
  | case7 links at_ slash n r h1 h2 h3 hget ih =>
    rw [walk_directory ⟨h1, h2, h3⟩ (hother _ _ hget (by simp))]
    exact ih h
  | case10 links at_ slash n r h1 h2 h3 target hget hkeep hlinks fromRoot names inSlash hsteps ih =>
    rw [walk_link ⟨h1, h2, h3⟩ (hother _ _ hget (by simp)) hkeep hlinks hsteps]
    exact ih h
  | case8 =>
    cases h
    cases hg
  | case11 links at_ slash n r h1 h2 h3 e hdir hlink hget hlast =>
    cases h
    cases e with
    | file b' x' =>
      cases hg
      obtain ⟨rfl, hslash⟩ := hlast
      obtain rfl : slash = false := (Bool.not_eq_true' slash).mp hslash
      exact .inl (walk_file ⟨h1, h2, h3⟩ ((get?_put hl).trans (if_pos rfl)))
    | _ => cases hg
  | case4 | case6 | case9 | case12 => cases h

section Follow

variable {here : Location} {p : Path} {g : Target}

theorem follow_fits {keepLast : Bool} (h : t.follow here p keepLast = .ok g) : g.Fits t := by
  unfold follow at h
  split at h
  · cases h
  split at h
  · cases h
  · exact walk_fits h

theorem follow_put {keepLast : Bool} (h : t.follow here p keepLast = .ok g)
    (hg : g.keeper? = some l) (b : List UInt8) (x : Bool) :
    (t.put l (.file b x)).follow here p keepLast = .ok (.entry l (.file b x)) ∨
      (t.put l (.file b x)).follow here p keepLast = .error .notDirectory := by
  unfold follow at h ⊢
  split at h
  · cases h
  split at h
  · cases h
  · next hempty hnul =>
    rw [if_neg hempty, if_neg hnul]
    exact walk_put h hg b x

theorem append_put (hl : l ≠ []) (b bs : List UInt8) (x : Bool) :
    (t.put l (.file b x)).append l bs = t.put l (.file (b ++ bs) x) := by
  unfold append
  rw [get?_put hl, if_pos rfl]
  exact put_put ..

theorem openToWrite_cases {t' : FileTree} (h : t.openToWrite here p = .ok (l, t')) :
    ∃ g, t.follow here p = .ok g ∧
      ((∃ x, g.keeper? = some l ∧ t' = t.put l (.file [] x)) ∨
        ∃ e, g = .entry l e ∧ e ≠ .directory ∧ (∀ b x, e ≠ .file b x) ∧ t' = t) := by
  unfold openToWrite at h
  generalize steps p = st at h
  obtain ⟨fromRoot, names, slash⟩ := st
  dsimp only at h
  split at h
  · cases hw : walk t false maxLinks (if fromRoot = true then [] else here) true names.dropLast with
    | error f => rw [hw] at h; cases h
    | ok g => rw [hw] at h; cases h
  · cases hg : t.follow here p with
    | error f => rw [hg] at h; cases h
    | ok g =>
      rw [hg] at h
      refine ⟨g, rfl, ?_⟩
      cases g with
      | vacant p n =>
        cases h
        exact .inl ⟨false, rfl, rfl⟩
      | entry m e =>
        cases e with
        | file b x =>
          cases h
          exact .inl ⟨x, rfl, rfl⟩
        | directory => cases h
        | _ =>
          cases h
          exact .inr ⟨_, rfl, by simp, by simp, rfl⟩

/-- What is added to what has been opened makes all that is in a file, or goes to what holds
nothing. -/
theorem append_of_openToWrite {t' : FileTree} (h : t.openToWrite here p = .ok (l, t')) :
    ∃ g, t.follow here p = .ok g ∧
      ((∃ x, g.keeper? = some l ∧ ∀ bs, t'.append l bs = t.put l (.file bs x)) ∨
        ∃ e, g = .entry l e ∧ (∀ b x, e ≠ .file b x) ∧ ∀ bs, t'.append l bs = t) := by
  obtain ⟨g, hg, ⟨x, hk, rfl⟩ | ⟨e, rfl, hd, he, rfl⟩⟩ := openToWrite_cases h
  · refine ⟨g, hg, .inl ⟨x, hk, fun bs => ?_⟩⟩
    rw [append_put ((follow_fits hg).keeper hk).1, List.nil_append]
  · refine ⟨_, hg, .inr ⟨e, rfl, he, fun bs => ?_⟩⟩
    obtain ⟨-, hget⟩ := (follow_fits hg).resolve_left hd
    unfold append
    rw [hget]
    cases e with
    | file b x => exact absurd rfl (he b x)
    | _ => rfl

theorem write_cases {bs : List UInt8} {t' : FileTree} (h : t.write here p bs = .ok t') :
    ∃ g, t.follow here p = .ok g ∧
      ((∃ l x, g.keeper? = some l ∧ t' = t.put l (.file bs x)) ∨
        ∃ l e, g = .entry l e ∧ (∀ b x, e ≠ .file b x) ∧ t' = t) := by
  unfold write at h
  cases ho : t.openToWrite here p with
  | error f => rw [ho] at h; cases h
  | ok r =>
    obtain ⟨l, t₁⟩ := r
    rw [ho] at h
    obtain rfl : t₁.append l bs = t' := Except.ok.inj h
    obtain ⟨g, hg, ⟨x, hk, ha⟩ | ⟨e, rfl, he, ha⟩⟩ := append_of_openToWrite ho
    · exact ⟨g, hg, .inl ⟨l, x, hk, ha bs⟩⟩
    · exact ⟨_, hg, .inr ⟨l, e, rfl, he, ha bs⟩⟩

/-- A path that leads to a file or to a free name can be opened for writing, unless it ends in a
slash. -/
theorem openToWrite_of_follow (hs : (steps p).2.2 = false) (hg : t.follow here p = .ok g)
    (hk : g.keeper? = some l) :
    ∃ x, t.openToWrite here p = .ok (l, t.put l (.file [] x)) := by
  unfold openToWrite
  generalize steps p = st at hs
  obtain ⟨fromRoot, names, slash⟩ := st
  obtain rfl : slash = false := hs
  rw [hg]
  cases g with
  | vacant q n =>
    cases hk
    exact ⟨false, rfl⟩
  | entry m e =>
    cases e with
    | file b x =>
      cases hk
      exact ⟨x, rfl⟩
    | _ => cases hk

theorem write_of_follow (hs : (steps p).2.2 = false) (hg : t.follow here p = .ok g)
    (hk : g.keeper? = some l) (bs : List UInt8) :
    ∃ x, t.write here p bs = .ok (t.put l (.file bs x)) := by
  obtain ⟨x, ho⟩ := openToWrite_of_follow hs hg hk
  refine ⟨x, ?_⟩
  rw [write, ho]
  exact congrArg Except.ok (append_put ((follow_fits hg).keeper hk).1 [] bs x)

theorem follow_eq_walk {keepLast : Bool} {names : List String}
    (hs : steps p = (true, names, false))
    (hp : ¬ p.text.isEmpty = true ∧ ¬ p.text.toList.contains (Char.ofNat 0) = true) :
    t.follow here p keepLast = walk t keepLast maxLinks [] false names := by
  unfold follow
  rw [if_neg hp.1, if_neg hp.2, hs]
  rfl

/-- What has been written to a path is read from it, if the path leads to a file then. -/
theorem read_write {bs : List UInt8} {t' : FileTree} (h : t.write here p bs = .ok t')
    {b : List UInt8} {x : Bool} (hf : t'.find? here p = some (l, .file b x)) :
    t'.read here p = .ok bs := by
  unfold find? at hf
  obtain ⟨g, hg, ⟨m, y, hk, rfl⟩ | ⟨m, e, rfl, he, rfl⟩⟩ := write_cases h
  · rcases follow_put hg hk bs y with hp | hp
    · unfold read
      rw [hp]
      rfl
    · rw [hp] at hf
      cases hf
  · rw [hg] at hf
    cases hf
    exact absurd rfl (he b x)

theorem readText_of_read {s : String} (h : t.read here p = .ok (Text.Utf8.encode s)) :
    t.readText here p = .ok s := by
  unfold readText
  rw [h]
  change Except.bind (.ok (Text.Utf8.encode s)) _ = _
  dsimp only [Except.bind]
  rw [Text.Utf8.decode?_encode]
  rfl

end Follow

end ListingPanel.FileTree
