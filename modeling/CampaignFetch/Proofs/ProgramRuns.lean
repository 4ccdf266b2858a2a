import CampaignFetch.Database.Program

/-!
# What programs ask and give

Two things that are said of a program without fixing what answers it: what a run asks
(`Program.asked`), and a property of everything that the program can give (`Program.Gives`).

Both go through sequences (`asked_bind`, `gives_bind`). For programs that can fail,
`Program.Ends` is a property for what they give and one for the faults.
-/

namespace CampaignFetch

/-- What a program asks. -/
inductive Question where
  | statement (s : Statement)
  | join (q : JoinQuery)

namespace Program

variable {α β ε ε' σ : Type}

/-! ## Questions -/

/-- The questions of a run, in order. -/
def asked (b : Backend σ) : Program α → σ → List Question
  | done _, _ => []
  | execute s next, state =>
    .statement s :: (next (b.execute s state).1).asked b (b.execute s state).2
  | join q next, state => .join q :: (next (b.join q state).1).asked b (b.join q state).2

theorem asked_bind (b : Backend σ) (p : Program α) (f : α → Program β) (state : σ) :
    (p.bind f).asked b state =
      p.asked b state ++ (f (p.run b state).1).asked b (p.run b state).2 := by
  induction p generalizing state with
  | done a => rfl
  | execute s next ih => exact congrArg (List.cons (.statement s)) (ih _ _)
  | join q next ih => exact congrArg (List.cons (.join q)) (ih _ _)

/-- Changing what a program gives changes nothing of what it asks. -/
theorem asked_map (b : Backend σ) (x : ExceptT ε Program α) (f : α → β) (state : σ) :
    (do return f (← x) : ExceptT ε Program β).run.asked b state = x.run.asked b state := by
  change (bind x.run _).asked b state = _
  rw [asked_bind]
  cases (x.run.run b state).1 <;> exact List.append_nil _

/-! ## What is given -/

/-- Whatever the answers are, what the program gives has the property. -/
def Gives (P : α → Prop) : Program α → Prop
  | done a => P a
  | execute _ next => ∀ reply, (next reply).Gives P
  | join _ next => ∀ reply, (next reply).Gives P

variable {P : α → Prop} {Q : β → Prop}

theorem Gives.run {p : Program α} (h : p.Gives P) (b : Backend σ) (state : σ) :
    P (p.run b state).1 := by
  induction p generalizing state with
  | done a => exact h
  | execute s next ih => exact ih _ (h _) _
  | join q next ih => exact ih _ (h _) _

theorem Gives.imp {P' : α → Prop} {p : Program α} (h : p.Gives P) (hImp : ∀ a, P a → P' a) :
    p.Gives P' := by
  induction p with
  | done a => exact hImp a h
  | execute s next ih => exact fun reply => ih reply (h reply)
  | join q next ih => exact fun reply => ih reply (h reply)

theorem gives_of_forall (h : ∀ a, P a) (p : Program α) : p.Gives P := by
  induction p with
  | done a => exact h a
  | execute s next ih => exact ih
  | join q next ih => exact ih

theorem Gives.bind {p : Program α} {f : α → Program β} (h : p.Gives fun a => (f a).Gives Q) :
    (p.bind f).Gives Q := by
  induction p with
  | done a => exact h
  | execute s next ih => exact fun reply => ih reply (h reply)
  | join q next ih => exact fun reply => ih reply (h reply)

/-! ## Programs that can fail -/

/-- Whatever the answers are, what the program gives has the one property and its faults have the
other. -/
def Ends (F : ε → Prop) (P : α → Prop) (p : ExceptT ε Program α) : Prop :=
  Gives (fun x => match x with
    | .ok a => P a
    | .error e => F e) p.run

variable {F : ε → Prop} {F' : ε' → Prop}

theorem ends_pure {a : α} (h : P a) : Ends F P (pure a) := h

theorem Ends.bind {p : ExceptT ε Program α} {f : α → ExceptT ε Program β} (h : Ends F P p)
    (hNext : ∀ a, P a → Ends F Q (f a)) : Ends F Q (p >>= f) := by
  refine Gives.bind (Gives.imp h fun x hx => ?_)
  cases x with
  | ok a => exact hNext a hx
  | error e => exact hx

theorem ends_adapt {f : ε → ε'} (h : ∀ e, F' (f e)) (p : ExceptT ε Program α) :
    Ends F' (fun _ => True) (ExceptT.adapt f p) := by
  refine Gives.bind (gives_of_forall (fun x => ?_) p.run)
  cases x with
  | ok a => trivial
  | error e => exact h e

end Program

end CampaignFetch
