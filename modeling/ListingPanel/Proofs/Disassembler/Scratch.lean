import ListingPanel.Disassembler
import ListingPanel.Proofs.FileTree.Removal

/-!
The short-lived directory that a listing is made in. It takes a free name, holds what a run needs,
and leaves nothing behind where it was.
-/
namespace ListingPanel

open FileTree (steps)

namespace Machine

variable {m m₁ : Machine} {dir : Path}

/-! ### Short-lived directories -/

theorem ordinaryName_scratchName (k : Nat) : Path.OrdinaryName (scratchName k) := by
  have hlist : (scratchName k).toList =
      "bytesight-".toList ++ (Nat.toDigits 10 (k + 1000000)).drop 1 := by
    simp [scratchName]
  have hne : ∀ s : String, s.toList.head? ≠ some 'b' → scratchName k ≠ s := by
    rintro _ hs rfl
    rw [hlist] at hs
    exact hs rfl
  refine ⟨hne "" (by decide), hne "." (by decide), hne ".." (by decide), fun h => ?_⟩
  rw [hlist, List.mem_append] at h
  rcases h with h | h
  · exact absurd h (by decide)
  · have hdigit := Nat.isDigit_of_mem_toDigits (by decide) (by decide) (List.mem_of_mem_drop h)
    exact absurd hdigit (by decide)

/-- The path leads from the root to an ordinary name. -/
def Rooted (p : Path) : Prop :=
  ∃ names n, steps p = (true, names ++ [n], false) ∧ Path.OrdinaryName n

theorem isAbsolute_temporaryDirectory (m : Machine) : m.temporaryDirectory.isAbsolute = true := by
  unfold temporaryDirectory
  dsimp only
  by_cases h : m.environment.temporaryDirectory.isAbsolute = true
  · rw [if_pos h, h]
  · rw [if_neg h, Path.isAbsolute_join (Bool.eq_false_iff.mpr h)]
    simp [Path.isAbsolute, workingDirectory]

theorem text_temporaryDirectory_ne (m : Machine) : m.temporaryDirectory.text ≠ "" := fun h => by
  have habs := m.isAbsolute_temporaryDirectory
  rw [Path.isAbsolute, h] at habs
  exact absurd habs (by decide)

theorem rooted_scratch (m : Machine) (k : Nat) :
    Rooted (m.temporaryDirectory.join (scratchName k)) := by
  have hn := ordinaryName_scratchName k
  refine ⟨(steps m.temporaryDirectory).2.1, _, ?_, hn⟩
  rw [FileTree.steps_join m.text_temporaryDirectory_ne hn]
  exact congrArg (·, _) m.isAbsolute_temporaryDirectory

/-- The first name for a short-lived directory is taken, if it is free. -/
theorem freeScratch_of_vacant {d : Path} {parent : Location} {name : String}
    (h : m.files.follow m.directory (d.join (scratchName 0)) true = .ok (.vacant parent name))
    (entries : Nat) : m.freeScratch d entries = d.join (scratchName 0) := by
  rw [freeScratch, List.range_succ_eq_map, List.map_cons, List.find?_cons_of_pos]
  · rfl
  · rw [h]

theorem makeScratch_of_vacant {parent : Location} {name : String}
    (h : ∀ keepLast,
      m.files.follow m.directory (m.temporaryDirectory.join (scratchName 0)) keepLast =
        .ok (.vacant parent name)) :
    m.makeScratch = .ok (m.temporaryDirectory.join (scratchName 0),
      { m with files := m.files.put (parent ++ [name]) .directory }) := by
  unfold makeScratch FileTree.makeDirectory
  rw [freeScratch_of_vacant (h true)]
  dsimp only
  rw [h false]
  rfl

theorem freeScratch_cases (m : Machine) (d : Path) (entries : Nat) :
    (∃ k, m.freeScratch d entries = d.join (scratchName k) ∧
      ∀ l e, m.files.follow m.directory (d.join (scratchName k)) true ≠ .ok (.entry l e)) ∨
    m.freeScratch d entries = d ∧
      ∃ l e, m.files.follow m.directory (d.join (scratchName 0)) true = .ok (.entry l e) := by
  unfold freeScratch
  dsimp only
  generalize hfind : List.find? _ _ = found
  cases found with
  | some p =>
    have hmem := List.mem_of_find?_eq_some hfind
    obtain ⟨k, -, rfl⟩ := List.mem_map.mp hmem
    refine .inl ⟨k, Option.getD_some, fun l e hf => ?_⟩
    have hp := List.find?_some hfind
    rw [hf] at hp
    cases hp
  | none =>
    have hp := List.find?_eq_none.mp hfind (d.join (scratchName 0))
      (List.mem_map.mpr ⟨0, List.mem_range.mpr (Nat.succ_pos _), rfl⟩)
    refine .inr ⟨Option.getD_none, ?_⟩
    split at hp
    · next l e hf => exact ⟨l, e, hf⟩
    · exact absurd rfl hp

/-- A short-lived directory is made at a free name. -/
theorem makeScratch_cases (h : m.makeScratch = .ok (dir, m₁)) :
    Rooted dir ∧ ∃ parent name, m.files.follow m.directory dir true = .ok (.vacant parent name) ∧
      { m with files := m.files.put (parent ++ [name]) .directory } = m₁ := by
  unfold makeScratch at h
  dsimp only at h
  generalize hp : m.freeScratch _ _ = p at h
  cases hm : m.files.makeDirectory m.directory p with
  | error f => rw [hm] at h; cases h
  | ok t =>
    rw [hm] at h
    obtain ⟨rfl, rfl⟩ := Prod.mk.inj (Except.ok.inj h)
    obtain ⟨parent, name, hf, rfl⟩ := FileTree.makeDirectory_cases hm
    rcases m.freeScratch_cases m.temporaryDirectory m.files.entries.length with
      ⟨k, hk, hfree⟩ | ⟨hd, l, e, hf₀⟩
    · obtain rfl := hp.symm.trans hk
      refine ⟨m.rooted_scratch k, parent, name, ?_, rfl⟩
      exact (FileTree.follow_follow fun l target => hfree l (.link target)).symm.trans hf
    · -- below a name that is free, all names are
      obtain rfl := hp.symm.trans hd
      obtain ⟨hx, links, hgo⟩ := FileTree.follow_join_of_vacant m.text_temporaryDirectory_ne
        (ordinaryName_scratchName 0) (by decide +kernel) (FileTree.Keeps.refl _).ways hf
      have hnone : m.files.get? (parent ++ [name]) = none := FileTree.follow_fits hf
      rw [hgo, FileTree.walk_none hx hnone] at hf₀
      cases hf₀

/-- What an action leaves of a machine, whether it succeeds or fails. -/
def Leaves {α : Type} (x : EStateM FileFault Machine α) (m m' : Machine) : Prop :=
  (∃ a, x m = .ok a m') ∨ ∃ f, x m = .error f m'

section Write
variable {p : Path} {text : String} {m' : Machine}

/-- Nothing is written, or all that is written goes to what has been opened. -/
theorem Leaves.write_cases (h : Leaves (write p text) m m') :
    m = m' ∨ ∃ l files b, m.files.openToWrite m.directory p = .ok (l, files) ∧
      { m with files := files.append l b } = m' := by
  unfold Leaves write at h
  cases ho : m.files.openToWrite m.directory p with
  | error f =>
    simp only [ho] at h
    rcases h with ⟨_, h⟩ | ⟨_, h⟩ <;> cases h
    exact .inl rfl
  | ok r =>
    obtain ⟨l, files⟩ := r
    simp only [ho] at h
    split at h
    · rcases h with ⟨_, h⟩ | ⟨_, h⟩ <;> cases h
      exact .inr ⟨l, files, _, rfl, rfl⟩
    · rcases h with ⟨_, h⟩ | ⟨_, h⟩ <;> cases h
      exact .inl rfl
    · split_ifs at h <;> rcases h with ⟨_, h⟩ | ⟨_, h⟩ <;> cases h <;>
      exact .inr ⟨l, files, _, rfl, rfl⟩

theorem Leaves.write_keepsWays (h : Leaves (write p text) m m') :
    m'.directory = m.directory ∧ m.files.KeepsWays m'.files := by
  obtain rfl | ⟨l, files, b, ho, rfl⟩ := h.write_cases
  · exact ⟨rfl, fun _ _ _ => id⟩
  · refine ⟨rfl, ?_⟩
    dsimp only
    obtain ⟨g, hg, ⟨x, hk, ha⟩ | ⟨e, -, -, ha⟩⟩ := FileTree.append_of_openToWrite ho
    · rw [ha b]
      exact FileTree.put_keepsWays hg hk b x
    · rw [ha b]
      exact fun _ _ _ => id

/-- What is written to a free name is all in a new file. -/
theorem Leaves.write_of_vacant {parent : Location} {n : String}
    (hf : m.files.follow m.directory p = .ok (.vacant parent n))
    (h : Leaves (write p text) m m') :
    m = m' ∨ ∃ b x, { m with files := m.files.put (parent ++ [n]) (.file b x) } = m' := by
  obtain h | ⟨l, files, b, ho, rfl⟩ := h.write_cases
  · exact .inl h
  · obtain ⟨g, hg, hcases⟩ := FileTree.append_of_openToWrite ho
    cases hf.symm.trans hg
    obtain ⟨x, hk, ha⟩ | ⟨e, he, -⟩ := hcases
    · cases hk
      exact .inr ⟨b, x, by rw [ha b]⟩
    · cases he

/-- A free name with nothing wrong takes every text. -/
theorem write_of_vacant {parent : Location} {n : String} (hs : (steps p).2.2 = false)
    (hf : m.files.follow m.directory p = .ok (.vacant parent n))
    (hflaws : m.flaws.lookup (parent ++ [n]) = none) (text : String) :
    ∃ x, write p text m = .ok ()
      { m with files := m.files.put (parent ++ [n]) (.file (Text.Utf8.encode text) x) } := by
  obtain ⟨x, ho⟩ := FileTree.openToWrite_of_follow hs hf rfl
  have hl : parent ++ [n] ≠ [] := by simp
  refine ⟨x, ?_⟩
  unfold write
  rw [ho]
  dsimp only
  rw [hflaws]
  dsimp only
  rw [FileTree.append_put hl, List.nil_append]

end Write

/-! ### Files in a short-lived directory -/

/-- A name for a file in a directory. -/
structure FileName (n : String) : Prop where
  ordinary : Path.OrdinaryName n
  plain : FileTree.PlainName n
  noNul : Char.ofNat 0 ∉ n.toList

theorem fileName_snapshot : FileName "snapshot.py" :=
  ⟨by decide +kernel, by decide, by decide +kernel⟩

theorem fileName_helper : FileName "disassemble_helper" :=
  ⟨by decide +kernel, by decide, by decide +kernel⟩

/-- Nothing is lost, and nothing is new but at a location and below. -/
structure Grows (s : Location) (m m' : Machine) : Prop where
  files : { m' with files := m.files } = m
  keeps : m.files.Keeps m'.files
  erase : m'.files.erase s = m.files.erase s

variable {m' m₂ : Machine} {s : Location}

theorem Grows.refl (s : Location) (m : Machine) : Grows s m m :=
  ⟨rfl, FileTree.Keeps.refl _, rfl⟩

theorem Grows.trans (h : Grows s m m₁) (h' : Grows s m₁ m₂) : Grows s m m₂ where
  files := (congrArg (fun x : Machine => { x with files := m.files }) h'.files).trans h.files
  keeps := h.keeps.trans h'.keeps
  erase := h'.erase.trans h.erase

theorem Grows.directory (h : Grows s m m') : m'.directory = m.directory := by
  rw [← h.files]

theorem grows_put {l : Location} (hs : s <+: l) (hl : m.files.get? l = none) (e : Entry) :
    Grows s m { m with files := m.files.put l e } :=
  ⟨rfl, FileTree.keeps_put hl e, FileTree.erase_put hs⟩

/-- Where nothing stands below it, a short-lived directory is empty. -/
theorem fresh_of_makeScratch {parent : Location} {x : String}
    (hf : m.files.follow m.directory dir true = .ok (.vacant parent x))
    (hbelow : ∀ r, m.files.get? (parent ++ [x] ++ r) = none)
    (hm : m.makeScratch = .ok (dir, m₁)) :
    m₁.flaws = m.flaws ∧ Grows (parent ++ [x]) m m₁ ∧
      m₁.files.get? (parent ++ [x]) = some .directory ∧
      ∀ n, m₁.files.get? (parent ++ [x] ++ [n]) = none := by
  obtain ⟨-, parent', x', hf', rfl⟩ := makeScratch_cases hm
  cases hf.symm.trans hf'
  have hnone : m.files.get? (parent ++ [x]) = none := FileTree.follow_fits hf
  have hput : ∀ l, (m.files.put (parent ++ [x]) .directory).get? l =
      if l = parent ++ [x] then some .directory else m.files.get? l :=
    fun l => FileTree.get?_put (FileTree.ne_nil_of_get?_eq_none hnone)
  exact ⟨rfl, grows_put (List.prefix_refl _) hnone .directory, (hput _).trans (if_pos rfl),
    fun n => (hput _).trans ((if_neg (by simp)).trans (hbelow _))⟩

section Fresh
variable {parent : Location} {x n : String} {text : String}
  (hf : m.files.follow m.directory dir true = .ok (.vacant parent x))
  (hk : Grows (parent ++ [x]) m m₁) (hdir : m₁.files.get? (parent ++ [x]) = some .directory)
  (hn : FileName n) (hfree : m₁.files.get? (parent ++ [x] ++ [n]) = none)
include hf hk hdir hn hfree

/-- A free name in the directory is where its path leads. -/
theorem follow_of_fresh :
    m₁.files.follow m₁.directory (dir.join n) = .ok (.vacant (parent ++ [x]) n) := by
  have hne : dir.text ≠ "" := (FileTree.follow_eq_ok_iff.mp hf).1
  obtain ⟨hx, links, hgo⟩ :=
    FileTree.follow_join_of_vacant hne hn.ordinary hn.noNul hk.keeps.ways hf
  rw [hk.directory, hgo, FileTree.walk_directory hx hdir, FileTree.walk_none hn.plain hfree,
    if_pos rfl]

/-- What is written to it goes into the directory. -/
theorem Leaves.write_grows (h : Leaves (write (dir.join n) text) m₁ m') :
    Grows (parent ++ [x]) m₁ m' ∧
      ∀ l, l ≠ parent ++ [x] ++ [n] → m'.files.get? l = m₁.files.get? l := by
  obtain rfl | ⟨b, y, rfl⟩ := h.write_of_vacant (follow_of_fresh hf hk hdir hn hfree)
  · exact ⟨.refl _ _, fun _ _ => rfl⟩
  · refine ⟨grows_put (List.prefix_append ..) hfree _, fun l hl => ?_⟩
    exact (FileTree.get?_put (by simp)).trans (if_neg hl)

theorem write_of_fresh (hflaws : m₁.flaws.lookup (parent ++ [x] ++ [n]) = none) (text : String) :
    ∃ b, write (dir.join n) text m₁ = .ok ()
      { m₁ with files := m₁.files.put (parent ++ [x] ++ [n]) b } := by
  have hne : dir.text ≠ "" := (FileTree.follow_eq_ok_iff.mp hf).1
  obtain ⟨y, hw⟩ := write_of_vacant (by rw [FileTree.steps_join hne hn.ordinary])
    (follow_of_fresh hf hk hdir hn hfree) hflaws text
  exact ⟨_, hw⟩

end Fresh

end Machine

namespace Disassembler

open Machine (Leaves Grows write)

variable {d : Disassembler} {m m₁ m' : Machine} {source : String} {dir helper snapshot : Path}

/-! ### Filling a short-lived directory -/

theorem fill_eq : d.fill dir source m =
    match write (dir.join "snapshot.py") source m with
    | .error f m => .error f m
    | .ok _ m =>
      match d.helper with
      | .file p => .ok (p, dir.join "snapshot.py") m
      | .text script =>
        match write (dir.join "disassemble_helper") script m with
        | .error f m => .error f m
        | .ok _ m => .ok (dir.join "disassemble_helper", dir.join "snapshot.py") m := by
  have bind_eq : ∀ {α β : Type} (x : EStateM FileFault Machine α)
      (f : α → EStateM FileFault Machine β) (m : Machine), (x >>= f) m = match x m with
        | .error e m => .error e m
        | .ok a m => f a m := fun x f m => by
    change EStateM.bind x f m = _
    unfold EStateM.bind
    cases x m <;> rfl
  unfold fill
  rw [bind_eq]
  cases write (dir.join "snapshot.py") source m with
  | error f m => rfl
  | ok _ m =>
    cases d.helper with
    | file p => rfl
    | text script =>
      dsimp only
      rw [bind_eq]
      cases write (dir.join "disassemble_helper") script m <;> rfl

/-- What is left has been written to the snapshot, and then to the helper or to nothing else. -/
theorem leaves_fill (h : Leaves (d.fill dir source) m m') :
    ∃ m₁, Leaves (write (dir.join "snapshot.py") source) m m₁ ∧
      (m₁ = m' ∨ ∃ script, Leaves (write (dir.join "disassemble_helper") script) m₁ m') := by
  unfold Leaves at h
  rw [fill_eq] at h
  cases hs : write (dir.join "snapshot.py") source m with
  | error f m₁ =>
    rw [hs] at h
    rcases h with ⟨_, h⟩ | ⟨_, h⟩ <;> cases h
    exact ⟨m', .inr ⟨_, hs⟩, .inl rfl⟩
  | ok _ m₁ =>
    rw [hs] at h
    refine ⟨m₁, .inl ⟨_, hs⟩, ?_⟩
    cases hd : d.helper with
    | file p =>
      rw [hd] at h
      rcases h with ⟨_, h⟩ | ⟨_, h⟩ <;> cases h
      exact .inl rfl
    | text script =>
      rw [hd] at h
      dsimp only at h
      cases hh : write (dir.join "disassemble_helper") script m₁ with
      | error f m₂ =>
        rw [hh] at h
        rcases h with ⟨_, h⟩ | ⟨_, h⟩ <;> cases h
        exact .inr ⟨script, .inr ⟨_, hh⟩⟩
      | ok _ m₂ =>
        rw [hh] at h
        rcases h with ⟨_, h⟩ | ⟨_, h⟩ <;> cases h
        exact .inr ⟨script, .inl ⟨_, hh⟩⟩

/-- Whatever becomes of the files, the directory is there. -/
theorem find?_of_leaves_fill (hm : m.makeScratch = .ok (dir, m₁))
    (h : Leaves (d.fill dir source) m₁ m') :
    m'.directory = m.directory ∧
      ∃ s, m'.files.follow m.directory dir true = .ok (.entry s .directory) ∧
        m'.files.find? m'.directory dir = some (s, .directory) := by
  obtain ⟨⟨names, n, hsteps, -⟩, parent, name, hf, rfl⟩ := Machine.makeScratch_cases hm
  have hnone : m.files.get? (parent ++ [name]) = none := FileTree.follow_fits hf
  have hl := FileTree.ne_nil_of_get?_eq_none hnone
  obtain ⟨m₂, hs, hh⟩ := leaves_fill h
  obtain ⟨hd₂, hk₂⟩ := hs.write_keepsWays
  obtain ⟨hd, hk⟩ : m'.directory = m₂.directory ∧ m₂.files.KeepsWays m'.files := by
    obtain rfl | ⟨script, hh⟩ := hh
    · exact ⟨rfl, fun _ _ _ => id⟩
    · exact hh.write_keepsWays
  have hways := hk₂.trans hk
  have hdir := hways _ _ (.inl rfl) ((FileTree.get?_put hl).trans (if_pos rfl))
  have hfollow := FileTree.follow_of_vacant (by rw [hsteps])
    ((FileTree.keeps_put hnone .directory).ways.trans hways) hf
  rw [hdir] at hfollow
  refine ⟨hd.trans hd₂, _, hfollow, ?_⟩
  unfold FileTree.find?
  rw [hd.trans hd₂, FileTree.follow_follow (by rw [hfollow]; simp), hfollow]

section Fresh
variable {parent : Location} {x : String}
  (hf : m.files.follow m.directory dir true = .ok (.vacant parent x))
  (hbelow : ∀ r, m.files.get? (parent ++ [x] ++ r) = none)
include hf hbelow

/-- Where nothing stands below the directory, all that is written goes into it. -/
theorem grows_of_leaves_fill (hm : m.makeScratch = .ok (dir, m₁))
    (h : Leaves (d.fill dir source) m₁ m') : Grows (parent ++ [x]) m m' := by
  obtain ⟨-, hmade, hdir, hfree⟩ := Machine.fresh_of_makeScratch hf hbelow hm
  obtain ⟨m₂, hs, hh⟩ := leaves_fill h
  obtain ⟨hg₂, hsame⟩ := hs.write_grows hf hmade hdir Machine.fileName_snapshot (hfree _)
  obtain rfl | ⟨script, hh⟩ := hh
  · exact hmade.trans hg₂
  · have hfree₂ := (hsame (parent ++ [x] ++ ["disassemble_helper"]) (by simp)).trans (hfree _)
    obtain ⟨hg, -⟩ := hh.write_grows hf (hmade.trans hg₂) (hg₂.keeps _ _ hdir)
      Machine.fileName_helper hfree₂
    exact (hmade.trans hg₂).trans hg

/-- After the directory is removed, all is as it was. -/
theorem removeScratch_of_leaves_fill (hm : m.makeScratch = .ok (dir, m₁))
    (h : Leaves (d.fill dir source) m₁ m') : m'.removeScratch dir = m := by
  have hg := grows_of_leaves_fill hf hbelow hm h
  obtain ⟨hd, s, hfollow, -⟩ := find?_of_leaves_fill hm h
  obtain ⟨⟨names, n, hsteps, -⟩, -⟩ := Machine.makeScratch_cases hm
  obtain rfl : parent ++ [x] = s := by
    have hvacant := FileTree.follow_of_vacant (by rw [hsteps]) hg.keeps.ways hf
    rw [hvacant] at hfollow
    split at hfollow
    · cases hfollow
    · cases hfollow
      rfl
  have hnone : m.files.get? (parent ++ [x]) = none := FileTree.follow_fits hf
  have herase := FileTree.erase_eq_self (FileTree.ne_nil_of_get?_eq_none hnone) hbelow
  unfold Machine.removeScratch
  rw [← hd] at hfollow
  rw [hfollow]
  dsimp only
  rw [hg.erase, herase]
  exact hg.files

/-- With nothing wrong below the directory, all is made ready for a run. -/
theorem prepare_of_makeScratch (d : Disassembler) (source : String)
    (hflaws : ∀ r, m.flaws.lookup (parent ++ [x] ++ r) = none)
    (hm : m.makeScratch = .ok (dir, m₁)) :
    ∃ helper m', d.prepare source m = .ok (dir, helper, dir.join "snapshot.py") m' ∧
      Grows (parent ++ [x]) m m' := by
  obtain ⟨hsame, hmade, hdir, hfree⟩ := Machine.fresh_of_makeScratch hf hbelow hm
  rw [← hsame] at hflaws
  obtain ⟨b, hs⟩ := Machine.write_of_fresh hf hmade hdir Machine.fileName_snapshot (hfree _)
    (hflaws _) source
  have hgrows : ∀ helper m', d.fill dir source m₁ = .ok (helper, dir.join "snapshot.py") m' →
      ∃ helper m', d.prepare source m = .ok (dir, helper, dir.join "snapshot.py") m' ∧
        Grows (parent ++ [x]) m m' := fun helper m' h => by
    refine ⟨helper, m', ?_, grows_of_leaves_fill hf hbelow hm (.inl ⟨_, h⟩)⟩
    unfold prepare
    rw [hm]
    dsimp only
    rw [h]
  cases hd : d.helper with
  | file p =>
    apply hgrows p
    rw [fill_eq, hs, hd]
  | text script =>
    obtain ⟨hg₂, hget₂⟩ := Leaves.write_grows hf hmade hdir Machine.fileName_snapshot (hfree _)
      (.inl ⟨_, hs⟩)
    have hfree₂ := (hget₂ (parent ++ [x] ++ ["disassemble_helper"]) (by simp)).trans (hfree _)
    obtain ⟨c, hh⟩ := Machine.write_of_fresh hf (hmade.trans hg₂) (hg₂.keeps _ _ hdir)
      Machine.fileName_helper hfree₂ (hflaws _) script
    apply hgrows (dir.join "disassemble_helper")
    rw [fill_eq, hs, hd]
    dsimp only
    rw [hh]

end Fresh

/-! ### Getting ready for a run -/

/-- There is no directory; or it is there, and either cannot be filled and is removed, or is filled
and kept. -/
theorem prepare_cases (d : Disassembler) (m : Machine) (source : String) :
    (∃ f, m.makeScratch = .error f ∧ d.prepare source m = .error f m) ∨
    ∃ dir m₁, m.makeScratch = .ok (dir, m₁) ∧
      ((∃ f m', Leaves (d.fill dir source) m₁ m' ∧
        d.prepare source m = .error f (m'.removeScratch dir)) ∨
      ∃ helper snapshot m', d.fill dir source m₁ = .ok (helper, snapshot) m' ∧
        d.prepare source m = .ok (dir, helper, snapshot) m') := by
  unfold prepare
  cases hm : m.makeScratch with
  | error f => exact .inl ⟨f, rfl, rfl⟩
  | ok r =>
    obtain ⟨dir, m₁⟩ := r
    refine .inr ⟨dir, m₁, rfl, ?_⟩
    dsimp only
    cases hfill : d.fill dir source m₁ with
    | error f m' => exact .inl ⟨f, m', .inr ⟨f, hfill⟩, rfl⟩
    | ok r m' => exact .inr ⟨r.1, r.2, m', rfl, rfl⟩

theorem fill_of_prepare (h : d.prepare source m = .ok (dir, helper, snapshot) m') :
    ∃ m₁, m.makeScratch = .ok (dir, m₁) ∧ d.fill dir source m₁ = .ok (helper, snapshot) m' := by
  rcases d.prepare_cases m source with
    ⟨f, -, hp⟩ | ⟨dir', m₁, hm, ⟨f, m'', -, hp⟩ | ⟨helper', snapshot', m'', hfill, hp⟩⟩
  · cases h.symm.trans hp
  · cases h.symm.trans hp
  · cases h.symm.trans hp
    exact ⟨m₁, hm, hfill⟩

end Disassembler

end ListingPanel
