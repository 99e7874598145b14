import DocSchema.Bootstrap.Error
import DocSchema.Store.Host

/-!
# DocSchema.Bootstrap.Task

Tasks that ask a store for one thing after another, and running them.

A task is the next request together with what to do for every possible result, so it can be run
alone, or one request at a time among the requests of others. Requests belong to declarations, and
the requests of one declaration together may take no longer than the time limit.
-/

namespace DocSchema

/-- A task that ends in an error or with a result. -/
inductive Task (α : Type) where
  | done (result : Except BootstrapError α)
  /-- Asks the store. The first request of a declaration carries its text, and the time of the
  declaration starts with it. -/
  | ask (starts : Option String) (request : Request) (next : request.Result → Task α)

namespace Task

/-- Goes on with the result of a task. -/
def bind {α β : Type} (t : Task α) (f : α → Task β) : Task β :=
  match t with
  | .done (.ok a) => f a
  | .done (.error e) => .done (.error e)
  | .ask starts request next => .ask starts request fun result => bind (next result) f

instance : Monad Task where
  pure a := .done (.ok a)
  bind := bind

/-- Ends a task. -/
def fail {α : Type} (e : BootstrapError) : Task α := .done (.error e)

/-- Asks the store, and ends the task when it fails. -/
def request (starts : Option String) (r : Request) : Task r.Answer :=
  .ask starts r fun result => .done (result.mapError .ofStore)

/-- Runs a task for every element, in order. -/
def each {α β : Type} (f : α → Task β) : List α → Task (List β)
  | [] => pure []
  | a :: as => do
    let b ← f a
    let bs ← each f as
    pure (b :: bs)

/-- The declaration at work and the time it has taken. -/
structure Timer where
  declaration : String
  spent : Nat
deriving DecidableEq, Repr

/-- The timer at a request. -/
def Timer.at (timer : Timer) : Option String → Timer
  | some declaration => ⟨declaration, 0⟩
  | none => timer

/-- Runs a task on a host to its end. A request that would take its declaration beyond the limit is
not answered, and ends the run. -/
def run {σ α : Type} (host : Host σ) (limit : Duration) :
    Task α → Timer → σ → Except BootstrapError α × σ
  | .done result, _, s => (result, s)
  | .ask starts request next, timer, s =>
    let timer := timer.at starts
    let spent := timer.spent + (host.delay s request).nanoseconds
    if limit.nanoseconds < spent then (.error (.timeout timer.declaration limit), s)
    else
      let (result, s) := host.answer s request
      run host limit (next result) { timer with spent } s

end Task

end DocSchema
