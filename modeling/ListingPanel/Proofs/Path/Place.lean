import ListingPanel.Path

/-! Where components lead, and the place that they come to. -/
namespace ListingPanel.Path

/-! ### Walking along a path -/

/-- The directory that a component leads to. A directory is given by the names on its way from the
root, the last one first. The root has no parent, and a step up from it stays there. -/
def Component.lead (d : List String) : Component → List String
  | root => []
  | here => d
  | up => d.tail
  | name n => n :: d

/-- The directory that components lead to, one after another. -/
def walk (d : List String) (cs : List Component) : List String := cs.foldl Component.lead d

/-- How often a walk steps up from the root. -/
def overshoot (d : List String) : List Component → Nat
  | [] => 0
  | c :: cs => (if c = .up ∧ d = [] then 1 else 0) + overshoot (c.lead d) cs

/-- How often a path steps up from the root if it starts there. -/
def climbs (p : Path) : Nat := overshoot [] p.components

/-- Two paths lead to the same place, wherever they start. -/
def SamePlace (p q : Path) : Prop := ∀ d, walk d p.components = walk d q.components

/-! ### Places -/

/-- What a path comes to: it starts at the root or elsewhere, goes up, and then down by names, of
which the last one is the first here. -/
structure Place where
  rooted : Bool := false
  ups : Nat := 0
  names : List String := []
  deriving DecidableEq

namespace Place

def step (P : Place) : Component → Place
  | .root => { rooted := true }
  | .here => P
  | .up =>
    match P.names with
    | [] => { P with ups := P.ups + 1 }
    | _ :: names => { P with names }
  | .name n => { P with names := n :: P.names }

/-- The place that components come to. -/
def ofComponents (cs : List Component) : Place := cs.foldl step {}

/-- The components that say no more than the place, the last one first. -/
def reversed (P : Place) : List Component :=
  P.names.map .name ++ (List.replicate P.ups .up ++ if P.rooted then [.root] else [])

def components (P : Place) : List Component := P.reversed.reverse

/-- The directory reached from another one. -/
def target (P : Place) (d : List String) : List String :=
  P.names ++ if P.rooted then [] else d.drop P.ups

variable (P : Place)

theorem components_eq : P.components =
    (if P.rooted then [.root] else []) ++
      (List.replicate P.ups .up ++ P.names.reverse.map .name) := by
  have hr : ∀ b : Bool, (if b then [Component.root] else []).reverse =
      if b then [Component.root] else [] := fun b => by cases b <;> rfl
  unfold components reversed
  rw [List.reverse_append, List.reverse_append, List.reverse_replicate, ← List.map_reverse, hr,
    List.append_assoc]

theorem foldl_step_names (ns : List String) :
    (ns.map Component.name).foldl step P = { P with names := ns.reverse ++ P.names } := by
  induction ns generalizing P with
  | nil => rfl
  | cons n ns ih =>
    rw [List.map_cons, List.foldl_cons, ih]
    simp [step]

theorem foldl_step_ups (b : Bool) (j k : Nat) :
    (List.replicate k Component.up).foldl step ⟨b, j, []⟩ = ⟨b, j + k, []⟩ := by
  induction k generalizing j with
  | zero => rfl
  | succ k ih =>
    rw [List.replicate_succ, List.foldl_cons]
    change (List.replicate k Component.up).foldl step ⟨b, j + 1, []⟩ = _
    rw [ih, Nat.add_right_comm, Nat.add_assoc]

/-- The components of a place come to that place. -/
theorem ofComponents_components : ofComponents P.components = P := by
  have hb : (if P.rooted then [Component.root] else []).foldl step {} = ⟨P.rooted, 0, []⟩ := by
    cases P.rooted <;> rfl
  unfold ofComponents
  rw [components_eq, List.foldl_append, List.foldl_append, hb, foldl_step_ups, foldl_step_names]
  simp

/-- Taking one more component into the normal form is a step of the place. -/
theorem pushReversed_reversed {c : Component} (hc : c ≠ .root) :
    pushReversed P.reversed c = (P.step c).reversed := by
  obtain ⟨b, k, ns⟩ := P
  cases c with
  | root => exact absurd rfl hc
  | here => rfl
  | name n => unfold pushReversed; rfl
  | up =>
    cases ns with
    | cons n ns => rfl
    | nil =>
      -- no name is left to take back
      cases k with
      | succ k => rfl
      | zero => cases b <;> rfl

theorem foldl_pushReversed {cs : List Component} (hcs : .root ∉ cs) :
    cs.foldl pushReversed P.reversed = (cs.foldl step P).reversed := by
  induction cs generalizing P with
  | nil => rfl
  | cons c cs ih =>
    have hc : c ≠ .root := fun h => hcs (h ▸ List.mem_cons_self)
    rw [List.foldl_cons, List.foldl_cons, P.pushReversed_reversed hc]
    exact ih _ fun h => hcs (List.mem_cons_of_mem c h)

theorem lead_target (d : List String) (c : Component) :
    c.lead (P.target d) = (P.step c).target d := by
  obtain ⟨b, k, ns⟩ := P
  cases c with
  | root | here | name n => rfl
  | up =>
    cases ns with
    | cons n ns => rfl
    | nil => cases b <;> simp [Component.lead, step, target]

theorem walk_target (d : List String) (cs : List Component) :
    walk (P.target d) cs = (cs.foldl step P).target d := by
  induction cs generalizing P with
  | nil => rfl
  | cons c cs ih =>
    change walk (c.lead (P.target d)) cs = _
    rw [P.lead_target, ih]
    rfl

theorem walk_eq_target (d : List String) (cs : List Component) :
    walk d cs = (ofComponents cs).target d := walk_target {} d cs

/-- Away from the root component, the steps up that a place keeps are those that a walk from the
root takes at the root. -/
theorem overshoot_names {cs : List Component} (hcs : .root ∉ cs) :
    P.ups + overshoot P.names cs = (cs.foldl step P).ups := by
  induction cs generalizing P with
  | nil => rfl
  | cons c cs ih =>
    have hcs' : .root ∉ cs := fun h => hcs (List.mem_cons_of_mem c h)
    have hstep : P.ups + overshoot P.names (c :: cs) =
        (P.step c).ups + overshoot (P.step c).names cs := by
      obtain ⟨b, k, ns⟩ := P
      cases c with
      | root => exact absurd List.mem_cons_self hcs
      | here | name n => simp [overshoot, Component.lead, step]
      | up => cases ns <;> simp [overshoot, Component.lead, step, Nat.add_assoc]
    rw [hstep, ih _ hcs']
    rfl

variable {P} {Q : Place}

/-- A place is told by the directories that it leads to and by its steps up. -/
theorem eq_of_target (ht : ∀ d, P.target d = Q.target d) (hu : P.ups = Q.ups) : P = Q := by
  have hnames : P.names = Q.names := by simpa [target] using ht []
  have hrooted : P.rooted = Q.rooted := by
    -- a start that is deep enough tells where the path starts
    have hd := congrArg List.length (ht (List.replicate (P.ups + 1) ""))
    unfold target at hd
    rw [hnames, hu] at hd
    cases hP : P.rooted <;> cases hQ : Q.rooted <;> simp [hP, hQ] at hd ⊢
  obtain ⟨b, k, ns⟩ := P
  obtain ⟨c, l, ms⟩ := Q
  cases hnames
  cases hrooted
  cases hu
  rfl

/-- From elsewhere than the root, a path leads to other places if it steps up more or less often. -/
theorem ups_eq_of_target (ht : ∀ d, P.target d = Q.target d) (hP : P.rooted = false) :
    P.ups = Q.ups := by
  have hnames : P.names = Q.names := by simpa [target] using ht []
  have hd := congrArg List.length (ht (List.replicate (P.ups + Q.ups + 1) ""))
  unfold target at hd
  rw [hnames, hP] at hd
  cases hQ : Q.rooted <;> simp [hQ] at hd <;> omega

end Place

end ListingPanel.Path
