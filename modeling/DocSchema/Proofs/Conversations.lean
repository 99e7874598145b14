import DocSchema.Proofs.TaskRuns
import DocSchema.Proofs.Turns

/-!
# DocSchema.Proofs.Conversations

What a task and a store say to each other, whatever the store replies.

A conversation is a path through a task: its requests, each with a reply that a store may give, and
the result at the end. Every run whose requests are answered in time is one (`exists_notes_of_run`),
so what holds of all conversations holds on every store, also on one whose replies contradict each
other. The conversations of a task come apart as the task was put together: `Conversation.bind`
and `series_of_each`.
-/

namespace DocSchema

/-- Whether a call was answered with an error. -/
def Call.failed : Call → Bool
  | ⟨_, .ok _⟩ => false
  | ⟨_, .error _⟩ => true

namespace Host

variable {σ ε : Type}

/-- The host with a note of every request that it answers. -/
def noting (host : Host σ) (note : σ → Request → ε) : Host (σ × List ε) where
  delay s r := host.delay s.1 r
  answer s r := ((host.answer s.1 r).1, (host.answer s.1 r).2, s.2 ++ [note s.1 r])

/-- The next request as a call. -/
def call (host : Host σ) (s : σ) (r : Request) : Call := ⟨r, (host.answer s r).1⟩

end Host

namespace Task

variable {σ ε α β : Type}

/-! ## Conversations -/

/-- The ways in which a task may go: its calls, with whatever replies, and its result. -/
inductive Conversation : Task α → List Call → Except BootstrapError α → Prop where
  | done (result : Except BootstrapError α) : Conversation (.done result) [] result
  | ask {starts : Option String} {r : Request} {next : r.Result → Task α} (reply : r.Result)
      {calls : List Call} {result : Except BootstrapError α}
      (hnext : Conversation (next reply) calls result) :
      Conversation (.ask starts r next) (⟨r, reply⟩ :: calls) result

/-- A task that has ended says nothing. -/
theorem conversation_done {result result' : Except BootstrapError α} {calls : List Call}
    (h : (done result).Conversation calls result') : calls = [] ∧ result' = result := by
  cases h
  exact ⟨rfl, rfl⟩

/-- A request is the first call. -/
theorem conversation_ask {starts : Option String} {r : Request} {next : r.Result → Task α}
    {calls : List Call} {result : Except BootstrapError α}
    (h : (ask starts r next).Conversation calls result) :
    ∃ reply rest, calls = ⟨r, reply⟩ :: rest ∧ (next reply).Conversation rest result := by
  cases h with
  | ask reply hnext => exact ⟨reply, _, rfl, hnext⟩

/-- A conversation goes on with the result of the first part, unless that is an error. -/
theorem Conversation.bind {t : Task α} {f : α → Task β} {calls : List Call}
    {result : Except BootstrapError β} (h : (t >>= f).Conversation calls result) :
    (∃ a before after, calls = before ++ after ∧ t.Conversation before (.ok a) ∧
        (f a).Conversation after result) ∨
      ∃ e, result = .error e ∧ t.Conversation calls (.error e) := by
  change (t.bind f).Conversation calls result at h
  induction t generalizing calls with
  | done first =>
      cases first with
      | ok a => exact .inl ⟨a, [], calls, rfl, .done _, h⟩
      | error e =>
          obtain ⟨rfl, rfl⟩ := conversation_done h
          exact .inr ⟨e, rfl, .done _⟩
  | ask starts r next ih =>
      obtain ⟨reply, rest, rfl, hrest⟩ := conversation_ask h
      rcases ih reply hrest with ⟨a, before, after, rfl, hbefore, hafter⟩ | ⟨e, rfl, he⟩
      · exact .inl ⟨a, ⟨r, reply⟩ :: before, after, rfl, .ask reply hbefore, hafter⟩
      · exact .inr ⟨e, rfl, .ask reply he⟩

/-! ## Lists -/

/-- The calls for a list of elements, given those for each: one element after the other, up to the
first that ends in an error. -/
inductive Series (part : α → List Call → Except BootstrapError β → Prop) :
    List α → List Call → Except BootstrapError (List β) → Prop where
  | nil : Series part [] [] (.ok [])
  | stop {a : α} {as : List α} {calls : List Call} {e : BootstrapError}
      (ha : part a calls (.error e)) : Series part (a :: as) calls (.error e)
  | next {a : α} {as : List α} {before after : List Call} {b : β}
      {result : Except BootstrapError (List β)} (ha : part a before (.ok b))
      (has : Series part as after result) :
      Series part (a :: as) (before ++ after) (result.map (b :: ·))

/-- A list that ends without an error has gone through its first element, and then the others. -/
theorem Series.of_cons {part : α → List Call → Except BootstrapError β → Prop} {a : α}
    {as : List α} {calls : List Call} {bs : List β} (h : Series part (a :: as) calls (.ok bs)) :
    ∃ before after b rest, calls = before ++ after ∧ bs = b :: rest ∧ part a before (.ok b) ∧
      Series part as after (.ok rest) := by
  generalize hresult : Except.ok bs = result at h
  cases h with
  | stop ha => contradiction
  | @next _ _ before after b last ha has =>
      cases last with
      | error e => contradiction
      | ok rest => exact ⟨before, after, b, rest, rfl, Except.ok.inj hresult, ha, has⟩

/-- A task over a list goes from element to element. -/
theorem series_of_each {f : α → Task β} {part : α → List Call → Except BootstrapError β → Prop}
    (hf : ∀ a calls result, (f a).Conversation calls result → part a calls result)
    {as : List α} {calls : List Call} {result : Except BootstrapError (List β)}
    (h : (each f as).Conversation calls result) : Series part as calls result := by
  induction as generalizing calls result with
  | nil =>
      obtain ⟨rfl, rfl⟩ := conversation_done h
      exact .nil
  | cons a as ih =>
      rcases h.bind with ⟨b, before, rest, rfl, hfirst, hrest⟩ | ⟨e, rfl, he⟩
      · rcases hrest.bind with ⟨bs, after, last, rfl, hafter, hlast⟩ | ⟨e, rfl, he⟩
        · obtain ⟨rfl, rfl⟩ := conversation_done hlast
          rw [List.append_nil]
          exact .next (hf _ _ _ hfirst) (ih hafter)
        · exact .next (hf _ _ _ hfirst) (ih he)
      · exact .stop (hf _ _ _ he)

/-! ## Runs -/

/-- Whether no request of a run takes its declaration beyond the limit. -/
def InTime (host : Host σ) (limit : Duration) : Task α → Timer → σ → Prop
  | .done _, _, _ => True
  | .ask starts r next, timer, s =>
    (timer.at starts).spent + (host.delay s r).nanoseconds ≤ limit.nanoseconds ∧
      (next (host.answer s r).1).InTime host limit
        { timer.at starts with
          spent := (timer.at starts).spent + (host.delay s r).nanoseconds }
        (host.answer s r).2

instance decidableInTime (host : Host σ) (limit : Duration) :
    (t : Task α) → (timer : Timer) → (s : σ) → Decidable (t.InTime host limit timer s)
  | .done _, _, _ => isTrue trivial
  | .ask _ r next, _, s =>
    have := decidableInTime host limit (next (host.answer s r).1)
    inferInstanceAs (Decidable (_ ∧ _))

/-- Answers that take no time are in time. -/
theorem inTime_of_instant {host : Host σ} (h : ∀ s r, (host.delay s r).nanoseconds = 0)
    (limit : Duration) (t : Task α) {timer : Timer} (htimer : timer.spent = 0) (s : σ) :
    t.InTime host limit timer s := by
  induction t generalizing timer s with
  | done result => trivial
  | ask starts r next ih =>
      have hspent : (timer.at starts).spent + (host.delay s r).nanoseconds = 0 := by
        cases starts <;> simp [Timer.at, htimer, h]
      exact ⟨by omega, ih _ hspent _⟩

/-- The first part of a run that is answered in time is answered in time. -/
theorem InTime.of_bind {host : Host σ} {limit : Duration} {t : Task α} {f : α → Task β}
    {timer : Timer} {s : σ} (h : (t >>= f).InTime host limit timer s) :
    t.InTime host limit timer s := by
  change (t.bind f).InTime host limit timer s at h
  induction t generalizing timer s with
  | done result => trivial
  | ask starts r next ih => exact ⟨h.1, ih _ h.2⟩

/-- A run that is answered in time is a conversation, and is the same when it is noted down. -/
theorem exists_notes_of_run {host : Host σ} {limit : Duration} {t : Task α} {timer : Timer} {s : σ}
    (h : t.InTime host limit timer s) {note : σ → Request → ε} {call : ε → Call}
    (hcall : ∀ s r, call (note s r) = host.call s r) (log : List ε) :
    ∃ notes, t.run (host.noting note) limit timer (s, log) =
        ((t.run host limit timer s).1, (t.run host limit timer s).2, log ++ notes) ∧
      t.Conversation (notes.map call) (t.run host limit timer s).1 := by
  induction t generalizing timer s log with
  | done result => exact ⟨[], by rw [List.append_nil]; rfl, .done result⟩
  | ask starts r next ih =>
      obtain ⟨htime, hnext⟩ := h
      obtain ⟨notes, hrun, hnotes⟩ := ih _ hnext (log ++ [note s r])
      have hlate : ¬ limit.nanoseconds <
          (timer.at starts).spent + (host.delay s r).nanoseconds := by omega
      have hdelay : (host.noting note).delay (s, log) r = host.delay s r := rfl
      refine ⟨note s r :: notes, ?_, ?_⟩
      · rw [run_ask, hdelay, if_neg hlate, run_ask, if_neg hlate, List.append_cons]
        exact hrun
      · rw [run_ask, if_neg hlate, List.map_cons, hcall]
        exact .ask _ hnotes

end Task

end DocSchema
