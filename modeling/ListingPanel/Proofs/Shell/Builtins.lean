import ListingPanel.Proofs.Shell.Process
import ListingPanel.Shell.Builtins
import ListingPanel.Shell.Programs

/-!
The times of what programs and the commands of the shell itself do.
-/
namespace ListingPanel.Shell

variable {low high : Time} {p q : Process}

/-! ### Programs -/

theorem timely_catOne (h : p.Timely low high) (name : Bytes) : (catOne p name).Timely low high := by
  unfold catOne
  split
  · exact ((h.input 0).setInput 0 []).emit 1 _
  · split
    · dsimp only
      split_ifs
      · exact h
      · exact h.emit 1 _
      · exact ((h.emit 1 _).complain _).withStatus 1
    · exact (h.complain _).withStatus 1

theorem timely_removeOne (deep force : Bool) (h : p.Timely low high) (name : Bytes) :
    (removeOne deep force p name).Timely low high := by
  have hremove (files : FileTree) : ({ p with world := { p.world with files } }).Timely low high :=
    h.of_eq rfl rfl rfl rfl le_rfl
  have hfail (message : Bytes) : ((p.complain message).withStatus 1).Timely low high :=
    (h.complain message).withStatus 1
  unfold removeOne
  dsimp only
  split
  · split_ifs
    · split
      · exact hremove _
      · exact h
    · exact hfail _
  · exact hremove _
  · split_ifs
    exacts [h, hfail _]
  · split_ifs
    exacts [h, hfail _]
  · split_ifs
    exacts [h, hfail _]

theorem timely_runProgram (h : p.Timely low high) (program : Program) (args : List Bytes) :
    (runProgram program p args).Timely low high := by
  have hstart := h.spend startTime
  unfold runProgram
  dsimp only
  split_ifs
  · exact hstart
  · cases program with
    | cat => exact timely_foldl (fun q _ hq => timely_catOne hq _) (hstart.withStatus 0) _
    | sleep =>
      dsimp only [sleep]
      split_ifs
      · exact (hstart.complain _).withStatus 1
      · exact hstart.same rfl rfl
      · split
        · exact (hstart.complain _).withStatus 1
        · exact (hstart.spend _).withStatus 0
    | remove =>
      dsimp only [remove]
      split_ifs
      · exact hstart.withStatus 0
      · exact (hstart.complain _).withStatus 1
      · exact timely_foldl (fun q _ hq => timely_removeOne _ _ hq _) (hstart.withStatus 0) _
    | shell => exact hstart.withStatus 0
    | other => exact hstart.withStatus 0

/-! ### Builtins -/

theorem timely_output (h : p.Timely low high) (command : String) (bytes : Bytes) :
    (output command p bytes).Timely low high := by
  unfold output
  dsimp only
  split_ifs
  · exact h.withStatus 0
  · exact (h.emit 1 bytes).withStatus 0
  · exact ((h.emit 1 bytes).report _).withStatus 1

theorem timely_runPrintf (h : p.Timely low high) (args : List Bytes) :
    (runPrintf p args).Timely low high := by
  unfold runPrintf
  dsimp only
  split
  · exact (h.report _).withStatus 2
  · exact timely_foldl (fun q _ hq => (hq.report _).withStatus 1) (timely_output h _ _) _

theorem timely_runRead (h : p.Timely low high) (args : List Bytes) :
    (runRead p args).Timely low high := by
  unfold runRead
  dsimp only
  exact (timely_foldl (fun q _ hq => hq.set _ _) ((h.input 0).setInput 0 _) _).withStatus _

theorem timely_runKill (h : p.Timely low high) (args : List Bytes) :
    (runKill p args).Timely low high := by
  unfold runKill
  dsimp only
  refine .ite ((h.report _).withStatus 2) (timely_foldl (fun q id hq => ?_) h _)
  split
  · exact (hq.report _).withStatus 2
  · have hself : ({ q with atExit := none }).Timely low high := hq.same rfl rfl
    exact .ite (hq.withStatus 0) (.ite (.ite (hq.withStatus 0) (hself.exitWith _))
      (.ite (hq.kill _ _ _) ((hq.report _).withStatus 1)))

theorem timely_runWait (h : p.Timely low high) (args : List Bytes) :
    (runWait p args).Timely low high :=
  (h.spend _).withStatus _

theorem timely_enter (h : p.Timely low high) (l : Location) : (enter p l).Timely low high := by
  have hset := h.set "OLDPWD".toList (directoryName p.directory)
  have hmoved :
      ({ p.set "OLDPWD".toList (directoryName p.directory) with directory := l }).Timely low high :=
    hset.same rfl rfl
  exact (hmoved.set _ _).withStatus 0

theorem timely_runCd (h : p.Timely low high) (args : List Bytes) :
    (runCd p args).Timely low high := by
  unfold runCd
  dsimp only
  refine .ite (h.withStatus 0) ?_
  split
  · exact .ite (timely_output (timely_enter h _) _ _) (timely_enter h _)
  · exact (h.report _).withStatus 2

theorem timely_runSet (h : p.Timely low high) (args : List Bytes) :
    (runSet p args).Timely low high := by
  unfold runSet
  split
  · exact h.withStatus 0
  · exact h.same rfl rfl
  · refine .ite (.ite (h.same rfl rfl) ?_) (h.same rfl rfl)
    split
    all_goals exact h.same rfl rfl

theorem timely_assignAll (h : p.Timely low high) (args : List Bytes) (exporting : Bool) :
    (assignAll p args exporting).Timely low high := by
  refine (timely_foldl (fun q a hq => ?_) h args).withStatus 0
  dsimp only
  cases (splitAssignment a).2 with
  | some v => exact .ite ((hq.set _ v).same rfl rfl) (hq.set _ v)
  | none => exact .ite (hq.same rfl rfl) hq

theorem timely_runLocal (h : p.Timely low high) (args : List Bytes) :
    (runLocal p args).Timely low high := by
  refine timely_assignAll (timely_foldl (fun q a hq => ?_) h args) args false
  dsimp only
  split_ifs
  · exact hq
  · exact hq.same rfl rfl

theorem timely_runTrap (h : p.Timely low high) (args : List Bytes) :
    (runTrap p args).Timely low high := by
  unfold runTrap
  split
  · refine timely_foldl (fun q a hq => ?_) (h.withStatus 0) _
    dsimp only
    split_ifs
    · exact hq.same rfl rfl
    · exact hq.same rfl rfl
    · split
      · exact hq.same rfl rfl
      · exact hq
    · split
      · exact hq.same rfl rfl
      · exact hq
  · exact h.withStatus 0

theorem timely_runFind (h : p.Timely low high) (args : List Bytes) :
    (runFind p args).Timely low high := by
  refine timely_foldl (fun q a hq => .ite (timely_output hq _ _) ?_) h _
  split
  · exact timely_output hq _ _
  · exact hq.withStatus 127

theorem timely_statusArgument_error (h : p.Timely low high) {command : String} {args : List Bytes}
    (he : statusArgument command p args = .error q) : q.Timely low high := by
  unfold statusArgument at he
  split at he
  · cases he
  · split at he
    · cases he
    · cases he
      exact (h.report _).exitWith 2

theorem timely_leaveLoops (h : p.Timely low high) (flow : Nat → Flow) (count : Nat) :
    (leaveLoops flow p count).Timely low high :=
  .ite (h.withStatus 0) (h.same rfl rfl)

theorem timely_verdict (h : p.Timely low high) (v : Verdict) (message : Bytes → Bytes) :
    (match v with
      | .ok b => p.withStatus (if b then 0 else 1)
      | .error e => (p.report (message e)).withStatus 2).Timely low high := by
  cases v with
  | ok b => exact h.withStatus _
  | error e => exact (h.report _).withStatus 2

theorem timely_builtin {name : String} {f : Process → List Bytes → Process}
    (hf : builtin? name = some f) (h : p.Timely low high) (args : List Bytes) :
    (f p args).Timely low high := by
  unfold builtin? at hf
  split at hf <;> cases hf
  case h_11 => exact h.withStatus 1
  case h_12 => exact timely_runFind h args
  case h_13 => exact timely_output h _ _
  case h_14 => exact timely_runPrintf h args
  case h_15 => exact timely_runRead h args
  case h_16 =>
    dsimp only
    split
    · exact h.exitWith _
    next heq => exact timely_statusArgument_error h heq
  case h_17 =>
    dsimp only
    split
    · exact h.same rfl rfl
    next heq => exact timely_statusArgument_error h heq
  case h_18 => exact timely_leaveLoops h _ _
  case h_19 => exact timely_leaveLoops h _ _
  case h_20 => exact timely_runTrap h args
  case h_21 => exact timely_runKill h args
  case h_22 => exact timely_runWait h args
  case h_23 => exact timely_verdict h _ _
  case h_24 => exact .ite ((h.report _).withStatus 2) (timely_verdict h _ _)
  case h_25 => exact timely_runCd h args
  case h_26 => exact timely_output h _ _
  case h_27 => exact .ite ((h.report _).exitWith 2) (h.same rfl rfl)
  case h_28 => exact timely_runSet h args
  case h_29 =>
    have hunset (q : Process) (name : Bytes) (hq : q.Timely low high) :
        (q.unset name).Timely low high := hq.same rfl rfl
    exact (timely_foldl hunset h _).withStatus 0
  case h_30 => exact timely_assignAll h args true
  case h_31 => exact (timely_assignAll h args false).same rfl rfl
  case h_32 => exact timely_runLocal h args
  all_goals exact h.withStatus 0

end ListingPanel.Shell
