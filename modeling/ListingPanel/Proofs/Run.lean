import ListingPanel.Run
import Mathlib.Order.MinMax
import Mathlib.Tactic.SplitIfs

/-!
What is taken of a run, however late the program is with what it does: its output, if a look at the
run sees its end in time, both pipes can be read in time, and there are no error messages. Whatever
else a run does, it is given up.
-/
namespace ListingPanel

/-! ### Looks at a run -/

namespace Pace
variable (pace : Pace)

/-- When look `k` is due. -/
def due : Nat → Time
  | 0 => 0
  | k + 1 => due k + (pace.looks k).before + (pace.looks k).after + Run.lookInterval

/-- When look `k` is taken, if the run is still looked at then. -/
def look (k : Nat) : Time := pace.due k + (pace.looks k).before

/-- When the time is read after look `k`. -/
def reading (k : Nat) : Time := pace.look k + (pace.looks k).after

theorem due_succ (k : Nat) : pace.due (k + 1) = pace.reading k + Run.lookInterval := rfl

/-- No look fails, and the time is read right after each one. -/
def Prompt : Prop := pace.failing = none ∧ ∀ k, (pace.looks k).after = 0

/-- The program is never later than by `b`. -/
structure Within (b : Time) : Prop where
  looks : ∀ k, (pace.looks k).before ≤ b ∧ (pace.looks k).after ≤ b
  errors : pace.errors.before ≤ b ∧ pace.errors.after ≤ b
  output : pace.output.before ≤ b ∧ pace.output.after ≤ b

end Pace

namespace Run

variable {limit now t u b : Time} {pace : Pace} {ended : Option (Time × Nat)}

/-- Look `k` sees the run going on, and the time is not over. -/
structure Passed (limit : Time) (pace : Pace) (ended : Option (Time × Nat)) (k : Nat) : Prop where
  works : pace.failing ≠ some k
  goesOn : ∀ e ∈ ended, pace.look k < e.1
  early : pace.reading k ≤ limit

/-- Look `k` is the last one, and what it comes to: it sees the end of the run, or fails, or finds
the time over. -/
inductive Last (limit : Time) (pace : Pace) (ended : Option (Time × Nat)) (k : Nat) :
    Except Time Time → Prop where
  | seen (hw : pace.failing ≠ some k) (he : ∃ e ∈ ended, e.1 ≤ pace.look k) :
    Last limit pace ended k (.ok (pace.look k))
  | failed (hf : pace.failing = some k) : Last limit pace ended k (.error (pace.look k))
  | late (hw : pace.failing ≠ some k) (he : ∀ e ∈ ended, pace.look k < e.1)
    (hl : limit < pace.reading k) : Last limit pace ended k (.error (pace.reading k))

/-- What the looks at a run come to. -/
def Watched (limit : Time) (pace : Pace) (ended : Option (Time × Nat)) (r : Except Time Time) :
    Prop :=
  ∃ k, (∀ j < k, Passed limit pace ended j) ∧ Last limit pace ended k r

variable {r s : Except Time Time} {k : Nat}

theorem Last.not_passed (h : Last limit pace ended k r) : ¬ Passed limit pace ended k := by
  intro hp
  cases h with
  | seen _ he =>
    obtain ⟨e, hmem, hle⟩ := he
    exact (hp.goesOn e hmem).not_ge hle
  | failed hf => exact hp.works hf
  | late _ _ hl => exact hl.not_ge hp.early

theorem Last.unique (hr : Last limit pace ended k r) (hs : Last limit pace ended k s) : r = s := by
  have hnot : (∃ e ∈ ended, e.1 ≤ pace.look k) → ¬ ∀ e ∈ ended, pace.look k < e.1 :=
    fun ⟨e, he, hle⟩ hlt => (hlt e he).not_ge hle
  cases hr with
  | seen hw he =>
    cases hs with
    | seen => rfl
    | failed hf => exact absurd hf hw
    | late _ hlt => exact absurd hlt (hnot he)
  | failed hf =>
    cases hs with
    | failed => rfl
    | seen hw | late hw => exact absurd hf hw
  | late hw hlt =>
    cases hs with
    | late => rfl
    | failed hf => exact absurd hf hw
    | seen _ he => exact absurd hlt (hnot he)

theorem Watched.unique (hr : Watched limit pace ended r) (hs : Watched limit pace ended s) :
    r = s := by
  obtain ⟨j, hj, hrj⟩ := hr
  obtain ⟨k, hk, hsk⟩ := hs
  rcases lt_trichotomy j k with hlt | rfl | hlt
  · exact absurd (hk j hlt) hrj.not_passed
  · exact hrj.unique hsk
  · exact absurd (hj k hlt) hsk.not_passed

/-- On the looks that are left, where none before look `k` has been the last one. -/
theorem watched_watch (hk : ∀ j < k, Passed limit pace ended j) :
    Watched limit pace ended (watch limit pace ended k (pace.due k)) := by
  generalize hd : pace.due k = due
  fun_induction watch limit pace ended k due with
  | case1 k due look hf =>
    subst hd
    exact ⟨k, hk, .failed hf⟩
  | case2 k due look hf he =>
    subst hd
    obtain ⟨e, hmem, hle⟩ := (Option.any_eq_true _ _).mp he
    exact ⟨k, hk, .seen hf ⟨e, hmem, of_decide_eq_true hle⟩⟩
  | case3 k due look hf he now hl =>
    subst hd
    simp only [Option.any_eq_true, decide_eq_true_eq, not_exists, not_and, not_le] at he
    exact ⟨k, hk, .late hf he hl⟩
  | case4 k due look hf he now hl ih =>
    subst hd
    simp only [Option.any_eq_true, decide_eq_true_eq, not_exists, not_and, not_le] at he
    refine ih (fun j hj => ?_) rfl
    obtain hj | rfl := Nat.lt_succ_iff_lt_or_eq.mp hj
    · exact hk j hj
    · exact ⟨hf, he, not_lt.mp hl⟩

theorem watched_iff : Watched limit pace ended r ↔ watch limit pace ended 0 0 = r := by
  have h : Watched limit pace ended (watch limit pace ended 0 0) :=
    watched_watch fun j hj => absurd hj j.not_lt_zero
  exact ⟨fun hr => h.unique hr, fun hr => hr ▸ h⟩

/-- No run is looked at for ever. -/
theorem exists_watched (limit : Time) (pace : Pace) (ended : Option (Time × Nat)) :
    ∃ r, Watched limit pace ended r := ⟨_, watched_iff.mpr rfl⟩

/-- Prompt looks see every run end that ends before the limit is over. -/
theorem exists_seen {e : Time × Nat} (hp : pace.Prompt) (he : e.1 ≤ limit) :
    ∃ t, Watched limit pace (some e) (.ok t) := by
  obtain ⟨r, k, hk, hlast⟩ := exists_watched limit pace (some e)
  cases hlast with
  | seen hw h => exact ⟨_, k, hk, .seen hw h⟩
  | failed hf => exact nomatch hp.1.symm.trans hf
  | late _ hlt hl =>
    have hread : pace.reading k = pace.look k := by rw [Pace.reading, hp.2, Nat.add_zero]
    exact absurd (hlt e rfl) (hread ▸ he.trans_lt hl).not_gt

/-- A run that never ends by itself is not seen to end. -/
theorem Watched.ended_le (h : Watched limit pace ended (.ok t)) : ∃ e ∈ ended, e.1 ≤ t := by
  obtain ⟨k, -, hlast⟩ := h
  cases hlast with
  | seen _ he => exact he

/-- A look comes soon after the limit, if none before it has been the last one and the program is
not late. -/
theorem look_le_of_within (hb : pace.Within b) (hk : ∀ j < k, Passed limit pace ended j) :
    pace.look k ≤ limit + lookInterval + b := by
  cases k with
  | zero =>
    have hlook : pace.look 0 ≤ b := by
      rw [Pace.look, Pace.due, Nat.zero_add]
      exact (hb.looks 0).1
    exact hlook.trans (Nat.le_add_left ..)
  | succ k =>
    have hread := (hk k k.lt_succ_self).early
    rw [Pace.look, Pace.due_succ]
    exact Nat.add_le_add (Nat.add_le_add_right hread _) (hb.looks _).1

theorem Watched.ok_le (hb : pace.Within b) (h : Watched limit pace ended (.ok t)) :
    t ≤ limit + lookInterval + b := by
  obtain ⟨k, hk, hlast⟩ := h
  cases hlast with
  | seen => exact look_le_of_within hb hk

theorem Watched.error_le (hb : pace.Within b) (h : Watched limit pace ended (.error t)) :
    t ≤ limit + lookInterval + b + b := by
  obtain ⟨k, hk, hlast⟩ := h
  have hlook := look_le_of_within hb hk
  cases hlast with
  | failed => exact hlook.trans (Nat.le_add_right ..)
  | late => exact Nat.add_le_add hlook (hb.looks k).2

/-! ### Pipes -/

/-- A pipe that can be taken up from `now` on has been read at `t`, and what it has given. It has
been read before the limit is over, or before the time is over that each pipe is given. -/
def Drained (limit now : Time) (d : Delay) (p : Piped) (t : Time) (bytes : List UInt8) : Prop :=
  ∃ c, p.read? = some (c, bytes) ∧ t = max (now + d.before) c ∧
    c ≤ max limit (now + d.before + pipeGrace) + d.after

variable {d : Delay} {p : Piped} {bytes : List UInt8}

theorem collect_eq : collect limit now d p =
    match p.read? with
    | some (t, bytes) =>
      if t ≤ max limit (now + d.before + pipeGrace) + d.after then
        .ok (max (now + d.before) t, bytes)
      else .error (max limit (now + d.before + pipeGrace) + d.after)
    | none => .error (max limit (now + d.before + pipeGrace) + d.after) := by
  have hpatience : now + d.before + max (limit - (now + d.before)) pipeGrace + d.after =
      max limit (now + d.before + pipeGrace) + d.after := by
    unfold Time at *
    omega
  unfold collect
  dsimp only
  rewrite [hpatience]
  cases p.read? <;> rfl

theorem collect_eq_ok_iff :
    collect limit now d p = .ok (t, bytes) ↔ Drained limit now d p t bytes := by
  rw [collect_eq]
  constructor
  · intro h
    split at h
    · next c bytes' hread =>
      split_ifs at h with hc
      cases h
      exact ⟨c, hread, rfl, hc⟩
    · cases h
  · rintro ⟨c, hread, rfl, hc⟩
    rw [hread]
    exact if_pos hc

theorem exists_collect_error (h : ∀ t bytes, ¬ Drained limit now d p t bytes) :
    ∃ t, collect limit now d p = .error t := by
  cases hc : collect limit now d p with
  | error t => exact ⟨t, rfl⟩
  | ok r => exact absurd (collect_eq_ok_iff.mp hc) (h r.1 r.2)

/-- When an attempt to get something has come to its end. -/
def timeOf {α : Type} : Except Time (Time × α) → Time
  | .ok (t, _) => t
  | .error t => t

/-- A pipe that is taken up by `m` is not waited for much longer. -/
theorem timeOf_collect_le {m : Time} (hl : limit ≤ m) (hnow : now ≤ m)
    (hb : d.before ≤ b ∧ d.after ≤ b) :
    timeOf (collect limit now d p) ≤ m + pipeGrace + b + b := by
  have hpatience : max limit (now + d.before + pipeGrace) + d.after ≤ m + pipeGrace + b + b := by
    unfold Time at *
    omega
  rw [collect_eq]
  split
  · split_ifs with hc
    · refine max_le ?_ (hc.trans hpatience)
      unfold Time at *
      omega
    · exact hpatience
  · exact hpatience

/-! ### What a run delivers -/

variable {output errors : Piped} {o : List UInt8}

/-- A run is seen to end in time, its pipe for error messages is read in time and gives none, and
then the pipe for output is read in time. What that gives is delivered, whatever the status. -/
inductive Delivers (limit : Time) : Run → List UInt8 → Prop where
  | intro {pace : Pace} {ended : Option (Time × Nat)} {output errors : Piped} {t u v : Time}
    {o : List UInt8} (hw : Watched limit pace ended (.ok t))
    (he : Drained limit t pace.errors errors u []) (ho : Drained limit u pace.output output v o) :
    Delivers limit (.started pace ended output errors) o

/-- What is wrong with a run that delivers nothing. -/
inductive Fails (limit : Time) : Run → Prop where
  | refused : Fails limit .refused
  /-- A look at it fails, or still sees it go on, and then finds the time over. -/
  | unseen {pace : Pace} {ended : Option (Time × Nat)} {output errors : Piped} {t : Time}
    (hw : Watched limit pace ended (.error t)) : Fails limit (.started pace ended output errors)
  | errors {pace : Pace} {ended : Option (Time × Nat)} {output errors : Piped} {t u : Time}
    {bytes : List UInt8} (hw : Watched limit pace ended (.ok t))
    (he : Drained limit t pace.errors errors u bytes) (hne : bytes ≠ []) :
    Fails limit (.started pace ended output errors)
  | errorsHeld {pace : Pace} {ended : Option (Time × Nat)} {output errors : Piped} {t : Time}
    (hw : Watched limit pace ended (.ok t))
    (he : ∀ u bytes, ¬ Drained limit t pace.errors errors u bytes) :
    Fails limit (.started pace ended output errors)
  | outputHeld {pace : Pace} {ended : Option (Time × Nat)} {output errors : Piped} {t u : Time}
    (hw : Watched limit pace ended (.ok t)) (he : Drained limit t pace.errors errors u [])
    (ho : ∀ v bytes, ¬ Drained limit u pace.output output v bytes) :
    Fails limit (.started pace ended output errors)

theorem outcome_of_unseen (hw : Watched limit pace ended (.error t)) :
    (Run.started pace ended output errors).outcome limit = .error t := by
  unfold outcome
  dsimp only
  rw [watched_iff.mp hw]
  rfl

theorem outcome_of_seen (hw : Watched limit pace ended (.ok t)) :
    (Run.started pace ended output errors).outcome limit =
      (collect limit t pace.errors errors).bind fun (u, messages) =>
        if messages = [] then collect limit u pace.output output else .error u := by
  unfold outcome
  dsimp only
  rw [watched_iff.mp hw]
  rfl

theorem outcome_of_drained (hw : Watched limit pace ended (.ok t))
    (he : Drained limit t pace.errors errors u bytes) :
    (Run.started pace ended output errors).outcome limit =
      if bytes = [] then collect limit u pace.output output else .error u := by
  rw [outcome_of_seen hw, collect_eq_ok_iff.mpr he]
  rfl

theorem Delivers.outcome_eq {run : Run} (h : run.Delivers limit o) :
    ∃ t, run.outcome limit = .ok (t, o) := by
  obtain ⟨hw, he, ho⟩ := h
  rw [outcome_of_drained hw he, if_pos rfl]
  exact ⟨_, collect_eq_ok_iff.mpr ho⟩

theorem Fails.outcome_eq {run : Run} (h : run.Fails limit) :
    ∃ t, run.outcome limit = .error t := by
  cases h with
  | refused => exact ⟨0, rfl⟩
  | unseen hw => exact ⟨_, outcome_of_unseen hw⟩
  | errors hw he hne => exact ⟨_, (outcome_of_drained hw he).trans (if_neg hne)⟩
  | errorsHeld hw he =>
    obtain ⟨u, hu⟩ := exists_collect_error he
    rw [outcome_of_seen hw, hu]
    exact ⟨u, rfl⟩
  | outputHeld hw he ho =>
    rw [outcome_of_drained hw he, if_pos rfl]
    exact exists_collect_error ho

/-- If no read fails, all of the output is delivered. -/
theorem Delivers.eq_bytes (h : Delivers limit (.started pace ended output errors) o)
    (hb : output.broken = none) : o = output.bytes := by
  cases h with
  | intro _ _ ho =>
    obtain ⟨c, hc, -⟩ := ho
    rw [Piped.read?, hb, Option.map_eq_some_iff] at hc
    obtain ⟨_, -, h⟩ := hc
    cases h
    rfl

/-! ### Runs in time and runs that are too late -/

/-- A run delivers that ends before the limit is over, and whose pipes are read by then, if the
looks at it are prompt. -/
theorem delivers_of_le {e : Time × Nat} (hp : pace.Prompt) (he : e.1 ≤ limit) {c : Time}
    (hc : errors.read? = some (c, [])) (hcl : c ≤ limit) (hd : output.read? = some (t, o))
    (hdl : t ≤ limit) : Delivers limit (.started pace (some e) output errors) o := by
  have hin : ∀ {now m : Time} {d : Delay}, m ≤ limit →
      m ≤ max limit (now + d.before + pipeGrace) + d.after := fun hm =>
    (hm.trans (le_max_left ..)).trans (Nat.le_add_right ..)
  obtain ⟨u, hw⟩ := exists_seen hp he
  exact .intro hw ⟨c, hc, rfl, hin hcl⟩ ⟨t, hd, rfl, hin hdl⟩

/-- When a run has been dealt with. -/
def doneAt (limit : Time) (r : Run) : Time := timeOf (r.outcome limit)

/-- That is not much later than the limit, whatever the run does. -/
theorem doneAt_le_of_within (hb : pace.Within b) :
    (Run.started pace ended output errors).doneAt limit ≤
      limit + lookInterval + 2 * pipeGrace + 5 * b := by
  unfold doneAt
  obtain ⟨t | t, hw⟩ := exists_watched limit pace ended
  · rw [outcome_of_unseen hw]
    refine (hw.error_le hb).trans ?_
    unfold Time at *
    omega
  have ht := hw.ok_le hb
  have hl : limit ≤ limit + lookInterval + b := by
    unfold Time at *
    omega
  have hu : timeOf (collect limit t pace.errors errors) ≤ _ := timeOf_collect_le hl ht hb.errors
  rw [outcome_of_seen hw]
  cases he : collect limit t pace.errors errors with
  | error u =>
    rw [he] at hu
    refine hu.trans ?_
    unfold Time at *
    omega
  | ok r =>
    obtain ⟨u, messages⟩ := r
    rw [he] at hu
    have hm : limit ≤ limit + lookInterval + b + pipeGrace + b + b := by
      unfold Time at *
      omega
    change timeOf (if messages = [] then collect limit u pace.output output else .error u) ≤ _
    split_ifs
    · refine (timeOf_collect_le hm hu hb.output).trans ?_
      unfold Time at *
      omega
    · refine hu.trans ?_
      unfold Time at *
      omega

end Run

end ListingPanel
