import DocSchema.Proofs.OrderlyCalls
import DocSchema.Server.Session

/-!
# DocSchema.Proofs.Exchanges

What a session sends to a server and what the server replies, one exchange for each command.

A run on a session takes the replies in order, sends one command for each reply it takes, and
answers as its exchanges say: `Session.transcript_report`. What applying a schema asks of any store
it asks of a server too (`applied_in_order`).
-/

namespace DocSchema

namespace Server

/-- A request and what the server replied to its command. -/
structure Exchange where
  request : Request
  reply : Reply

/-- The exchange as a call, with the reply read as the result. -/
def Exchange.call (x : Exchange) : Call := ⟨x.request, result x.reply x.request⟩

namespace Session

variable {s s' : Session} {exchanges : List Exchange}

/-- The next command and its reply. -/
def exchange (s : Session) (r : Request) : Exchange := ⟨r, s.replies.head?.getD (emptyReply r)⟩

theorem ask_eq (s : Session) (r : Request) : s.ask r =
    (result (s.exchange r).reply r,
      { s with
        sent := s.sent ++ [command s.database (Int64.ofNat s.clock) r]
        replies := s.replies.tail }) := by
  obtain ⟨database, replies, sent, clock⟩ := s
  cases replies <;> rfl

/-- The exchanges of a command of the program. -/
def transcript (limit : Duration) (c : Bootstrap.Command) (schema : Schema) (s : Session) :
    List Exchange :=
  (Bootstrap.report (host.noting exchange) (fun x => x.1.clock) s.database limit c schema
    (s, [])).2.2

/-- Whether a session has gone on with these exchanges, each with the reply whose turn it was. -/
structure Transcript (s : Session) (exchanges : List Exchange) (s' : Session) : Prop where
  database : s'.database = s.database
  clock : s'.clock = s.clock
  sent : s'.sent = s.sent ++
    exchanges.map fun x => command s.database (Int64.ofNat s.clock) x.request
  replies : s'.replies = s.replies.drop exchanges.length
  replied : ∀ (k : Nat) (x : Exchange), exchanges[k]? = some x →
    x.reply = s.replies[k]?.getD (emptyReply x.request)

/-- Nothing has been said yet. -/
theorem Transcript.nil (s : Session) : s.Transcript [] s where
  database := rfl
  clock := rfl
  sent := (List.append_nil _).symm
  replies := rfl
  replied k x hx := by simp at hx

/-- A session goes on with one exchange for a request. -/
theorem Transcript.ask (h : s.Transcript exchanges s') (r : Request) :
    s.Transcript (exchanges ++ [s'.exchange r]) (s'.ask r).2 := by
  rw [ask_eq]
  refine ⟨h.database, h.clock, ?_, ?_, fun k x hx => ?_⟩
  · rw [h.sent, h.database, h.clock, List.map_append, List.append_assoc]
    rfl
  · rw [List.length_append, h.replies, List.tail_drop]
    rfl
  · rcases List.getElem?_eq_some_iff.1 hx with ⟨hk, rfl⟩
    rw [List.getElem_append]
    split
    · next hlt => exact h.replied k _ (List.getElem?_eq_getElem hlt)
    · next hge =>
        have hlast : k = exchanges.length := by
          rw [List.length_append, List.length_singleton] at hk
          omega
        rw [List.getElem_singleton, exchange, h.replies, List.head?_drop, hlast]

/-- No time is measured on a session. -/
theorem inTime_host {α : Type} (t : Task α) (limit : Duration) (s : Session) :
    t.InTime host limit .zero s :=
  Task.inTime_of_instant (fun _ _ => rfl) limit t rfl s

/-- A command answers as its exchanges say, and the session goes on with them. -/
theorem transcript_report (limit : Duration) (c : Bootstrap.Command) (schema : Schema)
    (s : Session) :
    s.Transcript (s.transcript limit c schema) (s.report limit c schema).2 ∧
      ∃ result make, (s.report limit c schema).1 = result.map make ∧
        (c.task schema).Conversation ((s.transcript limit c schema).map Exchange.call) result ∧
        ∀ outcomes, (make outcomes).outcomes = outcomes := by
  have hcall : ∀ s r, (exchange s r).call = host.call s r := fun s r =>
    congrArg (Call.mk r) (congrArg Prod.fst (ask_eq s r)).symm
  obtain ⟨notes, result, make, hrun, hresult, hnotes, hmake⟩ := Bootstrap.exists_notes_of_report c
    (inTime_host _ limit s) Exchange.call hcall (fun x => x.clock) s.database
  have htranscript : s.transcript limit c schema = notes := congrArg (fun x => x.2.2) hrun
  rw [htranscript]
  refine ⟨?_, result, make, hresult, hnotes, hmake⟩
  have hanswer : ∀ (x : Session × List Exchange) r, s.Transcript x.2 x.1 →
      s.Transcript ((host.noting exchange).answer x r).2.2
        ((host.noting exchange).answer x r).2.1 :=
    fun x r hx => hx.ask r
  have hend : s.Transcript ((c.task schema).run (host.noting exchange) limit .zero (s, [])).2.2
      ((c.task schema).run (host.noting exchange) limit .zero (s, [])).2.1 :=
    Task.run_invariant (P := fun x : Session × List Exchange => s.Transcript x.2 x.1) hanswer _
      .zero (.nil s)
  have hstate : ((c.task schema).run (host.noting exchange) limit .zero (s, [])).2 =
      ((s.report limit c schema).2, notes) := by
    rw [Bootstrap.report_eq] at hrun
    exact congrArg Prod.snd hrun
  rw [hstate] at hend
  exact hend

section

variable {schema : Schema} (limit : Duration) (hvalid : schema.validate = .ok ()) (s : Session)
include hvalid

/-- A server is asked in order, whatever it replies. -/
theorem applied_in_order : Bootstrap.AppliedInOrder schema
    ((s.transcript limit .apply schema).map Exchange.call) (s.report limit .apply schema).1 := by
  obtain ⟨-, result, make, hresult, hcalls, hmake⟩ := transcript_report limit .apply schema s
  rw [hresult]
  exact .of_calls (Bootstrap.applyCalls_of_conversation hvalid hcalls) hmake

/-- A schema that was applied was applied by its exchanges. -/
theorem applyCalls_of_report {r : Report} (h : (s.report limit .apply schema).1 = .ok r) :
    Bootstrap.ApplyCalls schema ((s.transcript limit .apply schema).map Exchange.call)
      (.ok r.outcomes) := by
  obtain ⟨-, result, make, hresult, hcalls, hmake⟩ := transcript_report limit .apply schema s
  rw [hresult] at h
  cases result with
  | error e => contradiction
  | ok outcomes =>
      obtain rfl := Except.ok.inj h
      rw [hmake]
      exact Bootstrap.applyCalls_of_conversation hvalid hcalls

end

end Session

end Server

end DocSchema
