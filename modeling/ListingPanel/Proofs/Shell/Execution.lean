import ListingPanel.Proofs.Shell.Builtins
import ListingPanel.Shell.Execution

/-!
The times of what scripts do. One step of the shell does nothing in the past if what it leaves to
others does not, and so nothing that the shell does is in the past.
-/
namespace ListingPanel.Shell

variable {low high : Time} {p q child : Process} {capture : Capture}

/-! ### Redirections -/

/-- Of what a redirection leads to: the process that goes on, if there is one, and the one that is
left otherwise. -/
def Opened (low high : Time) (r : Option Process × Process) : Prop :=
  (∀ q ∈ r.1, q.Timely low high) ∧ r.2.Timely low high

theorem opened_some (hp : p.Timely low high) (hq : q.Timely low high) :
    Opened low high (some p, q) :=
  ⟨fun _ h => Option.mem_some_iff.mp h ▸ hp, hq⟩

theorem opened_none (h : p.Timely low high) : Opened low high (none, p) := ⟨nofun, h⟩

theorem Opened.ite {c : Prop} [Decidable c] {r s : Option Process × Process}
    (hr : Opened low high r) (hs : Opened low high s) : Opened low high (if c then r else s) := by
  split
  exacts [hr, hs]

theorem opened_redirect (hc : capture.Timely) (h : p.Timely low high) (d : Redirection) :
    Opened low high (redirect capture p d) := by
  unfold redirect
  extract_lets openFile toWrite
  have hfile (n : Nat) (w : Word) (o : FileTree → Path → Except FileFault (Channel × FileTree))
      (verb : String) : Opened low high (openFile p n w o verb) := by
    have hw := timely_expandText hc h w
    refine .ite (opened_none hw) (.ite (opened_some (hw.setChannel _ _) hw) ?_)
    split
    · refine opened_some (.setChannel ?_ _ _) hw
      exact hw.of_eq rfl rfl rfl rfl le_rfl
    · exact opened_none ((hw.report _).withStatus 2)
  cases d with
  | write n w => exact hfile n w _ _
  | append n w => exact hfile n w _ _
  | read n w =>
    have hw := timely_expandText hc h w
    refine .ite (opened_none hw) ?_
    split
    · exact opened_some ((hw.openStream _ _).setChannel _ _) (hw.openStream _ _)
    · exact opened_some ((hw.openStream _ _).setChannel _ _) (hw.openStream _ _)
    · exact opened_none ((hw.report _).withStatus 2)
  | text n w =>
    have hw := (timely_expandText hc h w).openStream (expandText capture p w).2 0
    dsimp only
    split
    · exact opened_some (hw.setChannel _ _) hw
    · exact opened_none hw
  | copy n w =>
    have hw := timely_expandText hc h w
    refine .ite (opened_none hw) (.ite (opened_some (hw.noteHeld.setChannel _ _) hw) ?_)
    split
    · split
      · exact opened_some (hw.setChannel _ _) hw
      · exact opened_none ((hw.report _).withStatus 2)
    · exact opened_none ((hw.report _).withStatus 2)

theorem opened_redirectAll (hc : capture.Timely) (h : p.Timely low high) (ds : List Redirection) :
    Opened low high (redirectAll capture p ds) := by
  induction ds generalizing p with
  | nil => exact opened_some h h
  | cons d ds ih =>
    have hd := opened_redirect hc h d
    unfold redirectAll
    dsimp only
    split
    next q _ heq =>
      rw [heq] at hd
      have hds := ih (hd.1 q rfl)
      split
      next heq =>
        rwa [heq] at hds
      next heq =>
        rw [heq] at hds
        exact opened_none (hds.2.same rfl rfl)
    next heq =>
      rw [heq] at hd
      exact opened_none (hd.2.same rfl rfl)

/-! ### Commands -/

theorem timely_freshShell (h : p.Timely low high) (name : Bytes) (args : List Bytes) :
    (freshShell p name args).Timely low high := h.same rfl rfl

theorem timely_afterBody (h : p.Timely low high) : (afterBody p).1.Timely low high := by
  unfold afterBody
  split
  · exact h
  · exact h.same rfl rfl
  · split
    all_goals exact h.same rfl rfl
  all_goals exact h

theorem timely_inLoop {step : Process → Process} (h : p.Timely low high)
    (hs : ∀ q, q.Timely low high → (step q).Timely low high) : (inLoop p step).Timely low high :=
  (hs { p with loops := p.loops + 1 } (h.same rfl rfl)).same rfl rfl

/-- From now on there is somebody in the background. -/
theorem timely_endJob (h : p.Timely low high) (hc : child.Timely low high) :
    (endJob p child).Timely low high :=
  ⟨h.clock, hc.noteHeld.horizon, nofun, nofun⟩

theorem timely_checkFailure (h : p.Timely low high) : (checkFailure p).Timely low high :=
  .ite (h.same rfl rfl) h

/-- Whatever the runner does is timely if it is given what is. -/
def Runner.Timely (go : Runner) : Prop :=
  ∀ {low high : Time} (t : Task) {p : Process}, p.Timely low high → (go t p).Timely low high

section

variable {go : Runner} {last : Bool}

theorem timely_captureBy (hg : go.Timely) : Capture.Timely (captureBy go) := by
  intro low high script p h
  have hchild := hg (.script { text := script, line := p.fresh.1.line })
    (h.fresh.fork.setChannel 1 (some (.pipe p.fresh.2)))
  exact (hchild.join p.fresh.1).of_eq rfl rfl rfl rfl (le_max_left _ _)

theorem timely_within {body : Process → Process} (hg : go.Timely) (h : p.Timely low high)
    (ds : List Redirection) (hb : ∀ q, q.Timely low high → (body q).Timely low high) :
    (within go p ds body).Timely low high := by
  have hds := opened_redirectAll (timely_captureBy hg) h ds
  refine .ite (hb p h) ?_
  split
  next heq =>
    rw [heq] at hds
    exact timely_checkFailure hds.2
  next q _ heq =>
    rw [heq] at hds
    exact (hb q (hds.1 q rfl)).same rfl rfl

theorem timely_runTested (hg : go.Timely) (h : p.Timely low high) (c : Command) :
    (runTested go c p).Timely low high := by
  have htesting : ({ p with testing := true }).Timely low high := h.same rfl rfl
  exact (hg (.command false c) htesting).same rfl rfl

theorem timely_runBackground (hg : go.Timely) (h : p.Timely low high) (body : Command) :
    (runBackground go p body).Timely low high := by
  refine timely_endJob h.fresh (hg _ (.setChannel ?_ _ _))
  exact h.of_eq rfl rfl rfl rfl (Nat.le_add_right _ _)

theorem timely_runCommand (hg : go.Timely) (h : p.Timely low high) (c : Command) :
    (runCommand go last c p).Timely low high := by
  have hcapture : Capture.Timely (captureBy go) := timely_captureBy hg
  refine .ite h ?_
  cases c with
  | nothing => exact h
  | simple line assignments words ds => exact hg _ (h.same rfl rfl)
  | sequence a b => exact hg _ (hg _ h)
  | both a b | either a b =>
    have ha := timely_runTested hg h a
    exact .ite (hg _ ha) ha
  | background body => exact timely_runBackground hg h body
  | subshell body ds =>
    have hds := opened_redirectAll hcapture h.fork ds
    dsimp only
    split
    next q heq =>
      rw [heq] at hds
      have hq : ({ q with status := 2 }).Timely low high := hds.2.same rfl rfl
      exact timely_checkFailure (hq.join p)
    next child _ heq =>
      rw [heq] at hds
      exact timely_checkFailure ((hg _ (hds.1 child rfl)).join p)
  | group body ds => exact timely_within hg h ds fun _ => hg _
  | branch condition yes no ds =>
    refine timely_within hg h ds fun q hq => ?_
    have hc := timely_runTested hg hq condition
    exact .ite hc (.ite (hg _ hc) (hg _ (hc.withStatus 0)))
  | loop untilTrue condition body ds =>
    exact timely_within hg h ds fun q hq => timely_inLoop hq fun _ => hg _
  | each name words body ds =>
    refine timely_within hg h ds fun q hq => ?_
    cases words with
    | none => exact timely_inLoop (hq.withStatus 0) fun _ => hg _
    | some ws =>
      exact timely_inLoop ((timely_expandFields hcapture hq ws).withStatus 0) fun _ => hg _
  | cases subject branches ds =>
    exact timely_within hg h ds fun q hq => hg _ (timely_expandText hcapture hq subject)
  | define name body => exact h.same rfl rfl
  | pipeline negated commands =>
    have htesting : ({ p with testing := p.testing || negated }).Timely low high :=
      h.same rfl rfl
    have hrun := hg (.piped none commands) htesting
    exact .ite (hrun.same rfl rfl)
      (timely_checkFailure (hrun.same rfl rfl))

theorem timely_runRound (hg : go.Timely) (h : p.Timely low high) (untilTrue : Bool)
    (condition body : Command) (status : Nat) :
    (runRound go untilTrue condition body status p).Timely low high := by
  have hc := timely_afterBody (timely_runTested hg h condition)
  unfold runRound
  split
  next heq =>
    rwa [heq] at hc
  next q heq =>
    rw [heq] at hc
    have hb := timely_afterBody (hg (.command false body) hc)
    refine .ite ?_ (hc.withStatus status)
    split
    next heq =>
      rwa [heq] at hb
    next heq =>
      rw [heq] at hb
      exact hg _ hb

theorem timely_runEach (hg : go.Timely) (h : p.Timely low high) (name : Bytes) (body : Command)
    (values : List Bytes) : (runEach go name body values p).Timely low high := by
  unfold runEach
  split
  · exact h
  next v vs =>
    have hb := timely_afterBody (hg (.command false body) (h.set name v))
    refine .ite h ?_
    split
    next heq =>
      rwa [heq] at hb
    next heq =>
      rw [heq] at hb
      exact hg _ hb

theorem timely_matchesAny (hc : capture.Timely) (h : p.Timely low high) (patterns : List Word)
    (text : Bytes) : (matchesAny capture p patterns text).1.Timely low high := by
  unfold matchesAny
  generalize false = found
  induction patterns generalizing p found with
  | nil => exact h
  | cons w ws ih =>
    cases found with
    | true => exact ih h true
    | false => exact ih (timely_expandWith hc nesting h w) _

theorem timely_runCases (hg : go.Timely) (h : p.Timely low high) (text : Bytes)
    (branches : List (List Word × Command)) :
    (runCases go last text branches p).Timely low high := by
  unfold runCases
  split
  · exact h.withStatus 0
  next patterns body branches =>
    have hm := timely_matchesAny (timely_captureBy hg) h patterns text
    exact .ite hm (.ite (hg _ (hm.withStatus 0)) (hg _ hm))

theorem timely_withInput (h : p.Timely low high) (input : Option (Bytes × Time)) :
    (withInput input p).Timely low high := by
  unfold withInput
  split
  · exact (h.openStream _ _).setChannel 0 _
  · exact h

theorem timely_runPiped (hg : go.Timely) (h : p.Timely low high) (input : Option (Bytes × Time))
    (commands : List Command) : (runPiped go input commands p).Timely low high := by
  unfold runPiped
  split
  · exact h
  · exact hg _ h
  next c i =>
    have hchild := hg (.command true c) (timely_withInput h.fork (some i))
    exact (hchild.join p).of_eq rfl rfl rfl rfl (le_max_left _ _)
  next _ c cs _ _ =>
    -- the rest of the pipeline starts before the first command has ended
    have hchild := hg (.command true c) ((timely_withInput h.fresh.fork input).setChannel 1
      (some (.pipe p.fresh.2)))
    have hq := h.fresh.adopt hchild
    refine (hg (.piped _ cs) ?_).advance rfl le_rfl
    exact .ite (hq.same rfl rfl) hq

theorem timely_runScript (hg : go.Timely) (h : p.Timely low high) (s : Source) :
    (runScript go s p).Timely low high := by
  unfold runScript
  refine .ite h ?_
  split
  next f _ =>
    have hline : ({ p with line := s.line }).Timely low high := h.same rfl rfl
    exact (hline.report _).exitWith 2
  next c rest _ =>
    have hq := hg (.command false c) h
    refine hg _ ?_
    split
    · exact hq.same rfl rfl
    · exact hq.same rfl rfl
    · exact hq

theorem timely_runNamed (hg : go.Timely) (h : p.Timely low high) (name : Bytes)
    (args : List Bytes) : (runNamed go name args p).Timely low high := by
  have hfail (message : Bytes) (status : Nat) :
      ((p.report message).withStatus status).Timely low high := (h.report message).withStatus status
  unfold runNamed
  split
  · exact hfail _ _
  · split
    · exact timely_runProgram h _ _
    · exact hg _ h
    · exact hg _ h
    · exact hfail _ _
    · exact hfail _ _

theorem timely_finish (hg : go.Timely) (h : p.Timely low high) : (finish go p).Timely low high := by
  have hq : (if p.flow = .exiting ∨ p.flow = .returning then { p with flow := .going }
      else p).Timely low high := .ite (h.same rfl rfl) h
  unfold finish
  dsimp only
  generalize (if p.flow = .exiting ∨ p.flow = .returning then { p with flow := .going } else p) = q
    at hq ⊢
  split
  next script _ =>
    have hbare : ({ q with atExit := none }).Timely low high := hq.same rfl rfl
    exact .ite ((hg (.script _) hbare).same rfl rfl) hq
  · exact hq

theorem timely_runShell (hg : go.Timely) (h : p.Timely low high) (args : List Bytes) :
    (runShell go args p).Timely low high := by
  have hp := h.spend startTime
  have hscript {q : Process} (s : Source) (name : Bytes) (args : List Bytes)
      (hq : q.Timely low high) :
      (finish go (go (.script s) (freshShell q name args))).Timely low high :=
    timely_finish hg (hg _ (timely_freshShell hq name args))
  unfold runShell
  dsimp only
  split
  · exact hscript _ _ _ hp
  · refine .ite (hg _ hp) ?_
    split
    · exact hscript _ _ _ hp
    · exact hp.withStatus 2
    · exact (hp.complain _).withStatus 2
  · exact hscript _ _ _ (hp.input 0)

theorem timely_assignIn (hg : go.Timely) (h : p.Timely low high)
    (assignments : List (Bytes × Word)) : (assignIn go assignments p).Timely low high :=
  timely_foldl (fun _ a hq => (timely_expandText (timely_captureBy hg) hq a.2).set a.1 _) h
    assignments

theorem timely_runFunction (hg : go.Timely) (h : p.Timely low high) (body : Command)
    (args : List Bytes) : (runFunction go body args p).Timely low high := by
  have hinside : ({ p with arguments := args, loops := 0, locals := [] }).Timely low high :=
    h.same rfl rfl
  have hr := hg (.command false body) hinside
  have hrestored := timely_foldl (f := fun r (a : Bytes × Option Bytes) => r.restore a.1 a.2)
    (fun q a hq => hq.same rfl rfl) hr
  unfold runFunction
  exact .ite ((hrestored _).same rfl rfl)
    ((hrestored _).same rfl rfl)

/-- Redirections take no time back. -/
theorem timely_runRedirected (hg : go.Timely) (hp : p.Timely low high) (hq : q.Timely p.clock high)
    (assignments : List (Bytes × Word)) (direct : Bool) (command : Bytes) (args : List Bytes) :
    (runRedirected go last assignments direct command args p q).Timely low high := by
  have hlow : q.Timely low high := { hq with clock := hp.clock.trans hq.clock }
  have hassign {r : Process} (hr : r.Timely low high) := timely_assignIn hg hr assignments
  have hrestore {r : Process} (hr : r.Timely low high) :
      ({ r with channels := p.channels }).Timely low high := hr.same rfl rfl
  have hexport {r : Process} {exported : List Bytes} {atExit : Option Bytes}
      (hr : r.Timely low high) : ({ r with exported, atExit }).Timely low high :=
    hr.same rfl rfl
  have hflow {c : Prop} [Decidable c] {r : Process} {flow : Flow} (hr : r.Timely low high) :
      (if c then { r with flow } else r).Timely low high :=
    .ite (hr.same rfl rfl) hr
  unfold runRedirected
  dsimp only
  split
  · split
    · exact (hassign hlow.noteHeld).withStatus 0
    · exact hflow (hg _ (hexport (hassign hlow.noteHeld)))
  · exact timely_checkFailure (hrestore (hg _ (hassign hlow)))
  · split
    · exact hrestore hlow
    · split
      · exact hrestore (hflow (hg _ (hassign hlow)))
      · exact (hlow.report _).exitWith 2
  · split
    · exact timely_checkFailure (hrestore (timely_runFunction hg (hassign hlow) _ args))
    · split
      next f hf =>
        have hf := timely_builtin hf (hassign hlow) args
        have hback := timely_foldl (f := fun r (a : Bytes × Word) => r.restore a.1 (q.get? a.1))
          (fun r a hr => hr.same rfl rfl) hf assignments
        exact timely_checkFailure (hrestore (.ite hf hback))
      · refine .ite (hg _ (hexport (hassign (hlow.hold hq.clock)))) ?_
        exact timely_checkFailure (hrestore ((hg _ (hexport (hassign hlow.fork))).join q))

theorem timely_runFields (hg : go.Timely) (h : p.Timely low high)
    (assignments : List (Bytes × Word)) (words : List Word) (ds : List Redirection)
    (fields : List Bytes) : (runFields go last assignments words ds fields p).Timely low high := by
  have hcapture : Capture.Timely (captureBy go) := timely_captureBy hg
  unfold runFields
  split
  · have hds := opened_redirectAll hcapture h ds
    split
    next heq =>
      rw [heq] at hds
      exact timely_checkFailure hds.2
    next q _ heq =>
      rw [heq] at hds
      have hq := hds.1 q rfl
      have hr {b : Process} (hb : b.Timely low high) :
          (assignIn go assignments { b with channels := p.channels }).Timely low high := by
        refine timely_assignIn hg ?_ assignments
        exact hb.same rfl rfl
      exact timely_checkFailure (.ite ((hr (.ite (hq.withStatus 0) hq)).withStatus 0)
        (hr (.ite (hq.withStatus 0) hq)))
  · have hds := opened_redirectAll hcapture { h with clock := le_rfl } ds
    split
    next q heq =>
      rw [heq] at hds
      have hq : q.Timely low high := { hds.2 with clock := h.clock.trans hds.2.clock }
      exact .ite (hq.exitWith 2) (timely_checkFailure (hq.withStatus 2))
    next q _ heq =>
      rw [heq] at hds
      exact timely_runRedirected hg h (hds.1 q rfl) _ _ _ _

theorem timely_runSimple (hg : go.Timely) (h : p.Timely low high)
    (assignments : List (Bytes × Word)) (words : List Word) (ds : List Redirection) :
    (runSimple go last assignments words ds p).Timely low high := by
  have hfields := timely_expandFields (timely_captureBy hg) (h.spend stepTime)
    words
  exact .ite hfields (timely_runFields hg (.ite (hfields.complain _) hfields) _ _ _ _)

theorem Runner.Timely.step (hg : go.Timely) : (step go).Timely := by
  intro low high t p h
  cases t with
  | command last c => exact timely_runCommand hg h c
  | simple last assignments words ds => exact timely_runSimple hg h assignments words ds
  | rounds untilTrue condition body status =>
    exact timely_runRound hg h untilTrue condition body status
  | each name body values => exact timely_runEach hg h name body values
  | cases last text branches => exact timely_runCases hg h text branches
  | piped input commands => exact timely_runPiped hg h input commands
  | script s => exact timely_runScript hg h s
  | program name args => exact timely_runNamed hg h name args
  | shell args => exact timely_runShell hg h args

end

theorem timely_perform (fuel : Nat) : (perform fuel).Timely := by
  induction fuel with
  | zero => exact fun _ _ h => h.same rfl rfl
  | succ fuel ih => exact ih.step

end ListingPanel.Shell
