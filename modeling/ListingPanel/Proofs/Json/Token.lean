import ListingPanel.Json.Typed
import ListingPanel.Json.Value
import Mathlib.Data.List.TakeWhile

/-!
Runs of readers step by step, and the tokens that are read the same way everywhere: blanks and
words.
-/
namespace ListingPanel.Json

section Run

variable {α β : Type} {q : Reader α} {a : α} {cs ds : List Char}

theorem run_bind (h : q.run cs = .ok (a, ds)) (f : α → Reader β) :
    (q >>= f).run cs = (f a).run ds := by
  rw [StateT.run_bind, h]
  rfl

theorem run_map (h : q.run cs = .ok (a, ds)) (f : α → β) :
    (f <$> q).run cs = .ok (f a, ds) := by
  rw [StateT.run_map, h]
  rfl

theorem run_get (cs : List Char) : (get : Reader (List Char)).run cs = .ok (cs, cs) := rfl

theorem run_set (cs ds : List Char) : (set ds : Reader PUnit).run cs = .ok (⟨⟩, ds) := rfl

theorem run_advance (c : Char) (cs : List Char) : advance.run (c :: cs) = .ok ((), cs) := rfl

end Run

/-! ### Runs that give a result -/

section OfRun

variable {α β : Type} {q : Reader α} {f : α → Reader β} {b : β} {cs rest : List Char}

theorem of_run_bind (h : (q >>= f).run cs = .ok (b, rest)) :
    ∃ a ds, q.run cs = .ok (a, ds) ∧ (f a).run ds = .ok (b, rest) := by
  rw [StateT.run_bind] at h
  cases hq : q.run cs with
  | error e => rw [hq] at h; cases h
  | ok p => exact ⟨p.1, p.2, rfl, by rw [hq] at h; exact h⟩

theorem of_run_map {f : α → β} (h : (f <$> q).run cs = .ok (b, rest)) :
    ∃ a, q.run cs = .ok (a, rest) ∧ b = f a := by
  rw [StateT.run_map] at h
  cases hq : q.run cs with
  | error e => rw [hq] at h; cases h
  | ok p => rw [hq] at h; cases h; exact ⟨p.1, rfl, rfl⟩

/-- The reader gives no result of a kind. -/
def Avoids (q : Reader α) (P : α → Prop) : Prop :=
  ∀ cs a rest, q.run cs = .ok (a, rest) → ¬ P a

theorem avoids_pure {P : α → Prop} {a : α} (h : ¬ P a) : Avoids (pure a) P := by
  intro cs b rest hr
  cases hr
  exact h

theorem avoids_throw (e : Fault) (P : α → Prop) : Avoids (throw e) P := fun _ _ _ h => nomatch h

theorem Avoids.bind {P : β → Prop} (h : ∀ a, Avoids (f a) P) : Avoids (q >>= f) P := by
  intro cs b rest hr
  obtain ⟨a, ds, -, hf⟩ := of_run_bind hr
  exact h a ds b rest hf

theorem Avoids.ite {P : α → Prop} {q' : Reader α} {c : Prop} [Decidable c] (h : Avoids q P)
    (h' : Avoids q' P) : Avoids (if c then q else q') P := by
  split_ifs
  · exact h
  · exact h'

end OfRun

/-! ### Blanks -/

abbrev Blank (cs : List Char) : Prop := ∀ c ∈ cs, isSpace c = true

theorem blank_nil : Blank [] := List.forall_mem_nil _

theorem blank_append {sp sp' : List Char} (h : Blank sp) (h' : Blank sp') : Blank (sp ++ sp') :=
  List.forall_mem_append.mpr ⟨h, h'⟩

theorem dropWhile_blank {sp : List Char} (h : Blank sp) (cs : List Char) :
    (sp ++ cs).dropWhile isSpace = cs.dropWhile isSpace :=
  List.dropWhile_append_of_pos h

/-- Blanks are passed over up to a character that is none. -/
theorem run_peek {sp : List Char} (h : Blank sp) {c : Char} (hc : isSpace c = false)
    (cs : List Char) : peek.run (sp ++ c :: cs) = .ok (some c, c :: cs) := by
  have hd : (sp ++ c :: cs).dropWhile isSpace = c :: cs := by
    rw [dropWhile_blank h, List.dropWhile_cons_of_neg (by simp [hc])]
  change Except.ok
    (((sp ++ c :: cs).dropWhile isSpace).head?, (sp ++ c :: cs).dropWhile isSpace) = _
  rw [hd]
  rfl

theorem run_peek_cons {c : Char} (hc : isSpace c = false) (cs : List Char) :
    peek.run (c :: cs) = .ok (some c, c :: cs) :=
  run_peek blank_nil hc cs

theorem blank_singleton {c : Char} (h : isSpace c = true) : Blank [c] := by
  intro d hd
  rw [List.mem_singleton.mp hd, h]

theorem blank_newline (level : Nat) : Blank (newline level) := by
  intro c hc
  rcases List.mem_cons.mp hc with rfl | hc
  · rfl
  · rw [List.eq_of_mem_replicate hc]
    rfl

/-- Blanks before a look ahead are nothing to what is read then. -/
theorem run_peek_bind {β : Type} {sp : List Char} (h : Blank sp) (f : Option Char → Reader β)
    (cs : List Char) : (peek >>= f).run (sp ++ cs) = (peek >>= f).run cs := by
  have hrun : ∀ cs, (peek >>= f).run cs =
      (f (cs.dropWhile isSpace).head?).run (cs.dropWhile isSpace) := fun _ => rfl
  rw [hrun, hrun, dropWhile_blank h]

/-- A look ahead ends the text or passes over blanks up to a character. -/
theorem of_run_peek {β : Type} {f : Option Char → Reader β} {b : β} {cs rest : List Char}
    (h : (peek >>= f).run cs = .ok (b, rest)) :
    (f none).run [] = .ok (b, rest) ∨
    ∃ sp c r, Blank sp ∧ isSpace c = false ∧ cs = sp ++ c :: r ∧
      (f (some c)).run (c :: r) = .ok (b, rest) := by
  have hrun : (peek >>= f).run cs =
      (f (cs.dropWhile isSpace).head?).run (cs.dropWhile isSpace) := rfl
  rw [hrun] at h
  cases hd : cs.dropWhile isSpace with
  | nil =>
    rw [hd] at h
    exact Or.inl h
  | cons c r =>
    rw [hd] at h
    refine Or.inr ⟨cs.takeWhile isSpace, c, r, List.all_eq_true.mp List.all_takeWhile, ?_, ?_, h⟩
    · have hc := List.head?_dropWhile_not isSpace cs
      rw [hd] at hc
      simpa using hc
    · rw [← hd, List.takeWhile_append_dropWhile]

/-! ### Words -/

theorem run_word (w rest : List Char) : (word w).run (w ++ rest) = .ok ((), rest) := by
  induction w with
  | nil => rfl
  | cons c w ih =>
    rw [word, List.cons_append, run_bind (run_get _)]
    dsimp only
    rw [if_pos rfl, run_bind (run_set _ _), ih]

theorem of_run_word {w cs rest : List Char} (h : (word w).run cs = .ok ((), rest)) :
    cs = w ++ rest := by
  induction w generalizing cs with
  | nil => cases h; rfl
  | cons c w ih =>
    rw [word] at h
    obtain ⟨ds, _, hget, h⟩ := of_run_bind h
    cases hget
    cases cs with
    | nil => cases h
    | cons d r =>
      dsimp only at h
      split_ifs at h with hd
      · rw [hd, List.cons_append, ih h]
      · cases h

/-! ### What follows -/

/-- What comes after a value does not continue a number. -/
def Follows (cs : List Char) : Prop :=
  ∀ c r, cs = c :: r → c.isDigit = false ∧ c ≠ '.' ∧ c ≠ 'e' ∧ c ≠ 'E'

theorem follows_cons {c : Char} (h : c.isDigit = false ∧ c ≠ '.' ∧ c ≠ 'e' ∧ c ≠ 'E')
    (cs : List Char) : Follows (c :: cs) := by
  rintro c' r heq
  cases heq
  exact h

theorem follows_nil : Follows [] := fun _ _ h => nomatch h

theorem Follows.blank {cs sp : List Char} (h : Follows cs) (hs : Blank sp) :
    Follows (sp ++ cs) := by
  cases sp with
  | nil => exact h
  | cons c sp =>
    have hc := hs c List.mem_cons_self
    simp only [isSpace, Bool.or_eq_true, decide_eq_true_eq] at hc
    apply follows_cons
    rcases hc with ((rfl | rfl) | rfl) | rfl <;> decide

theorem Follows.digitAhead {cs : List Char} (h : Follows cs) : digitAhead cs = false := by
  cases cs with
  | nil => rfl
  | cons c r => exact (h c r rfl).1

end ListingPanel.Json
