import CampaignFetch.Fetch.JoinQuery

/-!
# Programs that ask a database

A program asks for statements to be executed and for joins to be fetched, one after the other, and
goes on with the answers. It is data: what it asks can be looked at without any database, and it can
be run against any `Backend`.

* `Program.run` runs a program, threading the state of the backend.
* `Program.run_bind` says that running a sequence is running its parts in order.
-/

namespace CampaignFetch

/-- The rows of a join, or why there are none. -/
abbrev JoinReply := Except DatabaseFault (List Row)

/-- A computation that asks a database. -/
inductive Program (α : Type) where
  | done (value : α)
  | execute (statement : Statement) (next : Reply → Program α)
  | join (query : JoinQuery) (next : JoinReply → Program α)

namespace Program

variable {α β : Type}

/-- Goes on with a further program. -/
def bind (p : Program α) (f : α → Program β) : Program β :=
  match p with
  | done a => f a
  | execute s next => execute s fun reply => (next reply).bind f
  | join q next => join q fun reply => (next reply).bind f

instance : Monad Program where
  pure := done
  bind := bind

def ask (s : Statement) : ExceptT DatabaseFault Program (List Cells) :=
  ExceptT.mk (execute s done)

def fetch (q : JoinQuery) : ExceptT DatabaseFault Program (List Row) :=
  ExceptT.mk (join q done)

end Program

/-- What answers the questions of a program, with a state of its own. -/
structure Backend (σ : Type) where
  execute : Statement → σ → Reply × σ
  join : JoinQuery → σ → JoinReply × σ

namespace Program

variable {α β σ : Type}

def run (b : Backend σ) : Program α → σ → α × σ
  | done a, state => (a, state)
  | execute s next, state =>
    let (reply, state) := b.execute s state
    (next reply).run b state
  | join q next, state =>
    let (reply, state) := b.join q state
    (next reply).run b state

@[simp] theorem run_done (b : Backend σ) (a : α) (state : σ) :
    (done a).run b state = (a, state) := rfl

theorem run_bind (b : Backend σ) (p : Program α) (f : α → Program β) (state : σ) :
    (p.bind f).run b state = (f (p.run b state).1).run b (p.run b state).2 := by
  induction p generalizing state with
  | done a => rfl
  | execute s next ih => exact ih _ _
  | join q next ih => exact ih _ _

end Program

end CampaignFetch
