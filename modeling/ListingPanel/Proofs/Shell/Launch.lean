import ListingPanel.Proofs.Run
import ListingPanel.Proofs.Shell.Execution
import ListingPanel.Shell.Launch

/-!
What programs deliver that are run by the shell: with nobody left in the background, all that they
have written, if they are seen to end and have not complained.
-/
namespace ListingPanel.Shell

open Run

variable {m : Machine} {program : Path} {args : List Path} {p : Process} {limit : Time}

/-- Looks at runs are as prompt as they can be, but for the first one. -/
theorem pace_prompt : pace.Prompt := ⟨rfl, fun _ => rfl⟩

theorem pace_within : pace.Within 100 where
  looks k := by
    refine ⟨?_, Nat.zero_le _⟩
    change (if k = 0 then 100 else 0) ≤ 100
    split_ifs
    exacts [le_rfl, Nat.zero_le _]
  errors := ⟨Nat.zero_le _, Nat.zero_le _⟩
  output := ⟨Nat.zero_le _, Nat.zero_le _⟩

/-- The process of a program when it is over. -/
def launched? (m : Machine) (program : Path) (args : List Path) : Option Process :=
  (starting? m program args).map fun run => run (newProcess m none)

theorem timely_launched (h : launched? m program args = some p) : p.Timely 0 0 := by
  have hnew : (newProcess m none).Timely 0 0 := ⟨le_rfl, rfl, nofun, nofun⟩
  obtain ⟨run, hrun, rfl⟩ := Option.map_eq_some_iff.mp h
  unfold starting? at hrun
  dsimp only at hrun
  split_ifs at hrun
  split at hrun <;> cases hrun
  · exact timely_runProgram hnew _ _
  · exact timely_perform depth _ hnew

theorem launch_refused (h : launched? m program args = none) :
    (launch m program args).1 = .refused := by
  have hrun := Option.map_eq_none_iff.mp h
  unfold launch
  rw [hrun]

theorem launch_started (h : launched? m program args = some p) :
    (launch m program args).1 =
      .started pace (if p.flow = .stuck then none else some (p.clock, p.status))
        (piped p outputPipe) (piped p errorPipe) := by
  obtain ⟨run, hrun, rfl⟩ := Option.map_eq_some_iff.mp h
  unfold launch
  rw [hrun]

/-- The pipes are left alone when the program ends. -/
theorem closing_le (h : launched? m program args = some p) (hj : p.world.jobs = []) (pipe : Nat) :
    p.noteHeld.world.closing pipe ≤ p.clock := by
  have hheld := (timely_launched h).noteHeld.held hj
  refine List.foldlRecOn (motive := (· ≤ p.clock)) _ max (Nat.zero_le _) fun t ht u hu => ?_
  obtain ⟨x, hx, rfl⟩ := List.mem_map.mp hu
  exact max_le ht ((hheld x (List.mem_filter.mp hx).1).trans (max_le (Nat.zero_le _) le_rfl))

theorem read?_piped (hf : p.flow ≠ .stuck) (pipe : Nat) :
    (piped p pipe).read? = some (p.noteHeld.world.closing pipe, (piped p pipe).bytes) := by
  change (piped p pipe).closed.map _ = _
  rw [piped, if_neg hf]
  rfl

/-- What the pipes give does not change any more when the program has been seen to end. -/
theorem drained_piped {now : Time} {d : Delay} (h : launched? m program args = some p)
    (hj : p.world.jobs = []) (hf : p.flow ≠ .stuck) (hnow : p.clock ≤ now) (pipe : Nat) :
    Drained limit now d (piped p pipe) (now + d.before) (piped p pipe).bytes := by
  have hle : p.noteHeld.world.closing pipe ≤ now + d.before :=
    (closing_le h hj pipe).trans (hnow.trans (Nat.le_add_right _ _))
  refine ⟨_, read?_piped hf pipe, (max_eq_left hle).symm, ?_⟩
  calc p.noteHeld.world.closing pipe
    _ ≤ now + d.before + pipeGrace := hle.trans (Nat.le_add_right _ _)
    _ ≤ max limit (now + d.before + pipeGrace) + d.after :=
      (le_max_right _ _).trans (Nat.le_add_right _ _)

variable {o : List UInt8}

/-- Nothing is delivered but all of the output of a program that ends by itself. -/
theorem seen_of_delivers_launch (h : launched? m program args = some p)
    (hd : (launch m program args).1.Delivers limit o) :
    p.flow ≠ .stuck ∧ (∃ t, Watched limit pace (some (p.clock, p.status)) (.ok t)) ∧
      (piped p errorPipe).bytes = [] ∧ o = (piped p outputPipe).bytes := by
  rw [launch_started h] at hd
  have ho := hd.eq_bytes rfl
  cases hd with
  | intro hw he _ =>
    split_ifs at hw with hf
    · obtain ⟨e, hmem, -⟩ := hw.ended_le
      cases hmem
    · obtain ⟨c, hc, -⟩ := he
      have hbytes := congrArg (Option.map Prod.snd) ((read?_piped hf errorPipe).symm.trans hc)
      exact ⟨hf, ⟨_, hw⟩, Option.some.inj hbytes, ho⟩

theorem delivers_launch_iff (h : launched? m program args = some p) (hj : p.world.jobs = []) :
    (launch m program args).1.Delivers limit o ↔
      p.flow ≠ .stuck ∧ (∃ t, Watched limit pace (some (p.clock, p.status)) (.ok t)) ∧
        (piped p errorPipe).bytes = [] ∧ o = (piped p outputPipe).bytes := by
  refine ⟨seen_of_delivers_launch h, ?_⟩
  rintro ⟨hf, ⟨t, hw⟩, herrors, rfl⟩
  obtain ⟨e, hmem, hle⟩ := hw.ended_le
  cases hmem
  rw [launch_started h, if_neg hf]
  exact .intro hw (herrors ▸ drained_piped h hj hf hle errorPipe)
    (drained_piped h hj hf (hle.trans (Nat.le_add_right _ _)) outputPipe)

/-- A program that ends before the limit is over is seen to end. -/
theorem delivers_launch_of_le (h : launched? m program args = some p) (hj : p.world.jobs = [])
    (hf : p.flow ≠ .stuck) (hle : p.clock ≤ limit) (herrors : (piped p errorPipe).bytes = []) :
    (launch m program args).1.Delivers limit (piped p outputPipe).bytes :=
  (delivers_launch_iff h hj).mpr ⟨hf, exists_seen pace_prompt hle, herrors, rfl⟩

/-- And so is one that ends soon after, but no other. -/
theorem clock_le_of_delivers_launch (h : launched? m program args = some p)
    (hd : (launch m program args).1.Delivers limit o) : p.clock ≤ limit + lookInterval + 100 := by
  obtain ⟨-, ⟨t, hw⟩, -⟩ := seen_of_delivers_launch h hd
  obtain ⟨e, hmem, hle⟩ := hw.ended_le
  cases hmem
  exact hle.trans (hw.ok_le pace_within)

/-- Whatever a program does, and even if it never ends, it is dealt with soon after the limit. -/
theorem doneAt_launch_le :
    (launch m program args).1.doneAt limit ≤ limit + lookInterval + 2 * pipeGrace + 500 := by
  cases h : launched? m program args with
  | none =>
    rw [launch_refused h]
    exact Nat.zero_le _
  | some p =>
    rw [launch_started h]
    exact doneAt_le_of_within pace_within

end ListingPanel.Shell
