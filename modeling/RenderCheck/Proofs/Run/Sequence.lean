import RenderCheck.Run

/-! # Computations one after the other

    A computation that may fail goes from one state to the next. What follows
    it starts where it ended, and nothing follows a failure. -/

namespace RenderCheck

/-- Results of computations can be told apart if values and errors can. -/
instance decidableEqExcept {ε α : Type} [DecidableEq ε] [DecidableEq α] :
    DecidableEq (Except ε α)
  | .ok a, .ok b => decidable_of_iff (a = b) ⟨congrArg Except.ok, Except.ok.inj⟩
  | .error a, .error b => decidable_of_iff (a = b) ⟨congrArg Except.error, Except.error.inj⟩
  | .ok _, .error _ => .isFalse fun h => nomatch h
  | .error _, .ok _ => .isFalse fun h => nomatch h

variable {ε σ α β : Type}

/-- What follows a computation that succeeds starts in the state it left. -/
theorem run_bind_of_ok {x : ExceptT ε (StateM σ) α} {s s' : σ} {a : α}
    (h : x.run.run s = (.ok a, s')) (f : α → ExceptT ε (StateM σ) β) :
    (x >>= f).run.run s = (f a).run.run s' := by
  simp only [ExceptT.run_bind, StateT.run_bind]
  rw [h]
  rfl

/-- A computation that has a result ends in a state. -/
theorem exists_run {x : ExceptT ε (StateM σ) α} {s : σ} {result : Except ε α}
    (h : (x.run.run s).1 = result) : ∃ s', x.run.run s = (result, s') :=
  ⟨_, Prod.ext h rfl⟩

/-- A failure is the end. -/
theorem run_bind_of_error {x : ExceptT ε (StateM σ) α} {s s' : σ} {e : ε}
    (h : x.run.run s = (.error e, s')) (f : α → ExceptT ε (StateM σ) β) :
    (x >>= f).run.run s = (.error e, s') := by
  simp only [ExceptT.run_bind, StateT.run_bind]
  rw [h]
  rfl

/-! ## What an action returns -/

section Actions

variable {μ : Type}

/-- Whatever an action returns, it has the property. -/
def Action.Yields (property : α → Prop) (action : Action μ α) : Prop :=
  ∀ machine a after, action.run.run machine = (.ok a, after) → property a

theorem Action.yields_pure {property : α → Prop} {a : α} (h : property a) :
    Yields property (pure a : Action μ α) := by
  rintro machine _ _ ⟨⟩
  exact h

/-- What comes last decides what is returned. -/
theorem Action.yields_bind {property : β → Prop} (action : Action μ α) {f : α → Action μ β}
    (h : ∀ a, Yields property (f a)) : Yields property (action >>= f) := by
  intro machine b after hrun
  rcases haction : action.run.run machine with ⟨result, between⟩
  cases result with
  | error error =>
    rw [run_bind_of_error haction] at hrun
    cases hrun
  | ok a =>
    rw [run_bind_of_ok haction] at hrun
    exact h a between b after hrun

end Actions

end RenderCheck
