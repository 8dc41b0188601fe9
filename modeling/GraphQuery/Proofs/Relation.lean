import GraphQuery.Failure

/-!
# Relations — computations that give the same answers from related states

An operation that may fail works on a state, and what it has changed before it fails stays changed.  Two such
operations are related if they give the same answers from related states and leave related states
(`Relates`).  The rules follow the steps of which operations are made:

- an answer that is there already, or a failure (`Relates.ofAnswer`);
- one operation after another (`Relates.bind`), of which the second may count on what the first one answers
  (`Relates.bind_of`);
- looking at the state (`Relates.read`), changing it (`Relates.change`) and replacing it (`Relates.replace`).

An operation keeps a property if it is related to itself by having it (`Relates.twice_iff`).
-/

namespace GraphQuery

variable {ε σ τ α β : Type} {R : σ → τ → Prop}

/-- Two operations give the same answers from related states, and leave related states. -/
def Relates (R : σ → τ → Prop) (x : ExceptT ε (StateM σ) α) (y : ExceptT ε (StateM τ) α) : Prop :=
  ∀ ⦃s t⦄, R s t → (x.run.run s).1 = (y.run.run t).1 ∧ R (x.run.run s).2 (y.run.run t).2

/-- Whatever an operation answers from a related state has a property. -/
def Answers (R : σ → τ → Prop) (x : ExceptT ε (StateM σ) α) (P : α → Prop) : Prop :=
  ∀ ⦃s t⦄, R s t → ∀ a, (x.run.run s).1 = .ok a → P a

/-- A state with a property, taken twice. -/
def Twice (P : σ → Prop) (s t : σ) : Prop := s = t ∧ P s

namespace Relates

theorem ofAnswer (answer : Except ε α) :
    Relates R (ExceptT.mk (pure answer)) (ExceptT.mk (pure answer)) := by
  intro s t h
  exact ⟨rfl, h⟩

theorem pure (a : α) :
    Relates R (Pure.pure a : ExceptT ε (StateM σ) α) (Pure.pure a : ExceptT ε (StateM τ) α) :=
  ofAnswer (.ok a)

theorem throw (e : ε) :
    Relates R (MonadExcept.throw e : ExceptT ε (StateM σ) α) (MonadExcept.throw e : ExceptT ε (StateM τ) α) :=
  ofAnswer (.error e)

theorem run_bind (x : ExceptT ε (StateM σ) α) (f : α → ExceptT ε (StateM σ) β) (s : σ) :
    (x >>= f).run.run s =
      match x.run.run s with
      | (.ok a, after) => (f a).run.run after
      | (.error e, after) => (.error e, after) := by
  simp only [ExceptT.run_bind, StateT.run_bind]
  rcases hx : x.run.run s with ⟨answer, after⟩
  cases answer with
  | ok a =>
      rfl
  | error e =>
      rfl

theorem bind_of {x : ExceptT ε (StateM σ) α} {y : ExceptT ε (StateM τ) α}
    {f : α → ExceptT ε (StateM σ) β} {g : α → ExceptT ε (StateM τ) β} {P : α → Prop}
    (hx : Relates R x y) (hanswer : Answers R x P) (hf : ∀ a, P a → Relates R (f a) (g a)) :
    Relates R (x >>= f) (y >>= g) := by
  intro s t h
  obtain ⟨hsame, hafter⟩ := hx h
  have hgood := hanswer h
  rw [run_bind, run_bind]
  rcases hrun : x.run.run s with ⟨answer, after⟩
  rcases hrun' : y.run.run t with ⟨answer', after'⟩
  rw [hrun] at hsame hafter hgood
  rw [hrun'] at hsame hafter
  subst hsame
  -- What fails skips the second operation on both sides, and has left related states all the same.
  cases answer with
  | ok a =>
      exact hf a (hgood a rfl) hafter
  | error e =>
      exact ⟨rfl, hafter⟩

theorem bind {x : ExceptT ε (StateM σ) α} {y : ExceptT ε (StateM τ) α}
    {f : α → ExceptT ε (StateM σ) β} {g : α → ExceptT ε (StateM τ) β}
    (hx : Relates R x y) (hf : ∀ a, Relates R (f a) (g a)) : Relates R (x >>= f) (y >>= g) :=
  hx.bind_of (P := fun _ => True) (fun _ _ _ _ _ => trivial) fun a _ => hf a

theorem map {x : ExceptT ε (StateM σ) α} {y : ExceptT ε (StateM τ) α} (hx : Relates R x y) (f : α → β) :
    Relates R (f <$> x) (f <$> y) := by
  rw [← bind_pure_comp, ← bind_pure_comp]
  exact hx.bind fun a => pure (f a)

/-- What goes on after looking at the states may count on their being related. -/
theorem read {f : σ → ExceptT ε (StateM σ) α} {g : τ → ExceptT ε (StateM τ) α}
    (h : ∀ s t, R s t → Relates R (f s) (g t)) : Relates R (get >>= f) (get >>= g) := by
  intro s t hst
  exact h s t hst hst

theorem change {f : σ → σ} {g : τ → τ} (h : ∀ s t, R s t → R (f s) (g t)) :
    Relates R (modify f : ExceptT ε (StateM σ) PUnit) (modify g : ExceptT ε (StateM τ) PUnit) := by
  intro s t hst
  exact ⟨rfl, h s t hst⟩

/-- States that are related may replace what there was. -/
theorem replace {s : σ} {t : τ} (h : R s t) :
    Relates R (set s : ExceptT ε (StateM σ) PUnit) (set t : ExceptT ε (StateM τ) PUnit) := by
  intro _ _ _
  exact ⟨rfl, h⟩

/-! ## Properties -/

variable {P : σ → Prop}

/-- An operation that is related to itself keeps a property of states. -/
theorem twice_iff {x : ExceptT ε (StateM σ) α} :
    Relates (Twice P) x x ↔ ∀ s, P s → P (x.run.run s).2 := by
  constructor
  · intro h s hs
    exact (h ⟨rfl, hs⟩).2.2
  · rintro h s _ ⟨rfl, hs⟩
    exact ⟨rfl, rfl, h s hs⟩

theorem readTwice {f : σ → ExceptT ε (StateM σ) α} (h : ∀ s, P s → Relates (Twice P) (f s) (f s)) :
    Relates (Twice P) (get >>= f) (get >>= f) := by
  refine read ?_
  rintro s _ ⟨rfl, hs⟩
  exact h s hs

end Relates
end GraphQuery
