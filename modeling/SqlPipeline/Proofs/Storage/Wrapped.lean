/-
  SqlPipeline/Proofs/Storage/Wrapped.lean
  =======================================
  **Errors of the driver leave in the words of the operation, those of closing apart.**

  An operation other than closing makes its calls until one is refused, and an error of the
  driver becomes the fault that the operation has for it (`Op.stopsAtRefusal`).  Closing passes
  the error on as it is, and so does a block that closes: it is the only way in which an error
  of the driver leaves a client unwrapped (`errorsWrapped`).  Executing a statement and
  fetching its rows are one call here; both stand under the same guard.
-/
import SqlPipeline.Proofs.Storage.Client

namespace SqlPipeline.Storage

open Connection

variable {δ α β : Type}

/-! ### Operations -/

/-- That a result is no error that the driver has given. -/
def Unraised (result : Except Fault α) : Prop :=
  ∀ message, result ≠ .error (.escaped (.driver message))

/-- What comes of calls that are made until one is refused, the latest first. -/
inductive Told : List Noted → Except Fault α → Prop
  | unrefused {sent : List Noted} {result : Except Fault α} (hsent : ∀ n ∈ sent, n.refusal = none)
      (hresult : Unraised result) : Told sent result
  | refused {call : Script.Received} {r : Refusal} {rest : List Noted} (what : String)
      (hrest : ∀ n ∈ rest, n.refusal = none) :
      Told (⟨call, some r⟩ :: rest) (.error (faultOf (failing what) r))

theorem faultOf_failing_ne_driver (what : String) (r : Refusal) (message : String) :
    faultOf (failing what) r ≠ .escaped (.driver message) := by
  cases r <;> nofun

theorem Told.unraised {sent : List Noted} {result : Except Fault α} (h : Told sent result) :
    Unraised result := by
  cases h with
  | unrefused _ hresult => exact hresult
  | refused what _ =>
    exact fun message heq => faultOf_failing_ne_driver what _ message (Except.error.inj heq)

/-- An error among the answers is the one that the operation fails with. -/
theorem Told.failing {sent : List Noted} {result : Except Fault α} (h : Told sent result)
    {n : Noted} (hn : n ∈ sent) {message : String} (hrefused : n.refusal = some (.error message)) :
    ∃ what, result = .error (failing what message) := by
  cases h with
  | unrefused hsent _ => rw [hsent n hn] at hrefused; cases hrefused
  | refused what hrest =>
    rcases List.mem_cons.1 hn with rfl | hn
    · cases hrefused
      exact ⟨what, rfl⟩
    · rw [hrest n hn] at hrefused
      cases hrefused

theorem Told.after {later sent : List Noted} {result : Except Fault α} (h : Told later result)
    (hsent : ∀ n ∈ sent, n.refusal = none) : Told (later ++ sent) result := by
  cases h with
  | unrefused hlater hresult =>
    exact .unrefused (fun n hn => (List.mem_append.1 hn).elim (hlater n) (hsent n)) hresult
  | refused what hrest =>
    exact .refused what fun n hn => (List.mem_append.1 hn).elim (hrest n) (hsent n)

/-- What an operation has failed with, the one that it was a part of fails with. -/
theorem Told.error {sent : List Noted} {fault : Fault}
    (h : Told sent (.error fault : Except Fault α)) :
    Told sent (.error fault : Except Fault β) := by
  cases h with
  | unrefused hsent hresult =>
    refine .unrefused hsent fun message heq => hresult message ?_
    cases heq
    rfl
  | refused what hrest => exact .refused what hrest

theorem Told.unrefused_of_ok {sent : List Noted} {a : α} (h : Told sent (.ok a)) :
    ∀ n ∈ sent, n.refusal = none := by
  cases h with
  | unrefused hsent _ => exact hsent

/-- That an operation stops at the first call that is refused, and wraps the error. -/
def StopsAtRefusal (x : Operation (δ × List Noted) α) : Prop :=
  ∀ c, ∃ sent, (perform x c).2.notes = sent ++ c.notes ∧ Told sent (perform x c).1

namespace StopsAtRefusal

theorem pure (a : α) : StopsAtRefusal (δ := δ) (Pure.pure a) :=
  fun _ => ⟨[], rfl, .unrefused nofun nofun⟩

theorem throw {fault : Fault} (h : ∀ message, fault ≠ .escaped (.driver message)) :
    StopsAtRefusal (δ := δ) (α := α) (MonadExcept.throw fault) :=
  fun _ => ⟨[], rfl, .unrefused nofun fun message heq => h message (Except.error.inj heq)⟩

theorem bind {x : Operation (δ × List Noted) α} {k : α → Operation (δ × List Noted) β}
    (hx : StopsAtRefusal x) (hk : ∀ a, StopsAtRefusal (k a)) : StopsAtRefusal (x >>= k) := by
  intro c
  obtain ⟨sent, hsent, htold⟩ := hx c
  rw [perform_bind]
  rcases hrun : perform x c with ⟨result, c'⟩
  rw [hrun] at hsent htold
  cases result with
  | error fault => exact ⟨sent, hsent, htold.error⟩
  | ok a =>
    obtain ⟨later, hlater, htold'⟩ := hk a c'
    refine ⟨later ++ sent, ?_, htold'.after htold.unrefused_of_ok⟩
    rw [hlater, hsent, List.append_assoc]

theorem callDriver (what : String) (received : Script.Received) (call : Call δ α) :
    StopsAtRefusal (Connection.callDriver (failing what) (noting received call)) := by
  intro c
  rcases hcall : call.run.run c.driver.1 with ⟨answer, x⟩
  cases answer with
  | ok a =>
    rw [perform_noting_of_ok hcall]
    exact ⟨[_], rfl, .unrefused (by simp) nofun⟩
  | error r =>
    rw [perform_noting_of_error hcall]
    exact ⟨[_], rfl, .refused what nofun⟩

theorem requireOpen : StopsAtRefusal (δ := δ) Connection.requireOpen := by
  intro c
  cases hopen : c.isOpen with
  | true =>
    rw [perform_requireOpen_of_open hopen]
    exact pure () c
  | false =>
    rw [perform_requireOpen_of_closed hopen]
    exact ⟨[], rfl, .unrefused nofun nofun⟩

theorem connect (d : Driver δ) : StopsAtRefusal (Connection.connect d.noting) := by
  intro c
  cases hopen : c.isOpen with
  | true =>
    rw [perform_connect_of_open hopen]
    exact pure () c
  | false =>
    rw [perform_connect_of_closed hopen]
    obtain ⟨r, x, hrun⟩ | ⟨r, x, y, hrun⟩ | ⟨x, y, hrun⟩ :=
      perform_opening_cases d c.path c.readOnly c
    · rw [hrun]
      exact ⟨[_], rfl, .refused _ nofun⟩
    · rw [hrun]
      exact ⟨[_, _], rfl, .refused _ (by simp)⟩
    · rw [hrun]
      exact ⟨[_, _], rfl, .unrefused (by simp) nofun⟩

theorem respected (d : Driver δ) :
    Respected (fun _ x _ => StopsAtRefusal x) d.noting d.noting where
  pure := pure
  throw := throw
  bind := bind
  requireOpen := requireOpen
  connect := connect d
  execute what _ _ := callDriver what _ _
  start := callDriver _ _ _
  commit := callDriver _ _ _
  rollback := callDriver _ _ _

end StopsAtRefusal

theorem Op.stopsAtRefusal (d : Driver δ) {op : Op} (hop : op ≠ .close) :
    StopsAtRefusal (op.operation d.noting) :=
  (StopsAtRefusal.respected d).op hop

/-! ### Clients -/

/-- A call that is refused otherwise than with an error, or a closing that is refused. -/
def Noted.disorderly : Noted → Bool
  | ⟨.plain .close, some _⟩ => true
  | ⟨_, some (.crash _)⟩ => true
  | _ => false

/-- That calls are refused with errors only, and closing never is. -/
def Orderly (sent : List Noted) : Prop :=
  ∀ n ∈ sent, n.disorderly = false

instance (sent : List Noted) : Decidable (Orderly sent) :=
  inferInstanceAs (Decidable (∀ n ∈ sent, n.disorderly = false))

theorem Orderly.error_of_refused {sent : List Noted} (h : Orderly sent) {n : Noted} (hn : n ∈ sent)
    (hrefused : n.refusal ≠ none) : ∃ message, n.refusal = some (.error message) := by
  have hn := h n hn
  obtain ⟨call, refusal⟩ := n
  rcases refusal with _ | ⟨message | message⟩
  · exact absurd rfl hrefused
  · exact ⟨message, rfl⟩
  · unfold Noted.disorderly at hn
    split at hn
    · cases hn
    · cases hn
    case _ hcrash => exact absurd rfl (hcrash call message)

theorem Orderly.later {later sent : List Noted} (h : Orderly (later ++ sent)) : Orderly later :=
  fun n hn => h n (List.mem_append_left _ hn)

theorem Orderly.earlier {later sent : List Noted} (h : Orderly (later ++ sent)) : Orderly sent :=
  fun n hn => h n (List.mem_append_right _ hn)

/-- That an error among the answers, be it the first or another, is what an operation has
    failed with. -/
def FailsWithRefusal (sent : List Noted) (result : Except Fault α) : Prop :=
  ∃ what message, result = .error (failing what message)
    ∧ ∃ n ∈ sent, n.refusal = some (.error message)

/-- What comes of the calls that a client makes; `strict` means that it does not go on after
    a failure. -/
structure Answered (strict : Bool) (sent : List Noted) (result : Except Fault α) : Prop where
  escapes : ∀ message, result = .error (.escaped (.driver message)) →
    ⟨.plain .close, some (.error message)⟩ ∈ sent
  wraps : strict = true → Orderly sent → ∀ n ∈ sent, n.refusal ≠ none →
    FailsWithRefusal sent result

theorem Told.answered {sent : List Noted} {result : Except Fault α} (h : Told sent result)
    (strict : Bool) : Answered strict sent result where
  escapes message hresult := absurd hresult (h.unraised message)
  wraps _ horderly n hn hrefused := by
    obtain ⟨message, hmessage⟩ := horderly.error_of_refused hn hrefused
    obtain ⟨what, hresult⟩ := h.failing hn hmessage
    exact ⟨what, message, hresult, n, hn, hmessage⟩

theorem FailsWithRefusal.mono {sent all : List Noted} {result : Except Fault α}
    (h : FailsWithRefusal sent result) (hsub : sent ⊆ all) : FailsWithRefusal all result := by
  obtain ⟨what, message, hresult, n, hn, hmessage⟩ := h
  exact ⟨what, message, hresult, n, hsub hn, hmessage⟩

theorem not_failsWithRefusal_ok {sent : List Noted} {a : α} : ¬ FailsWithRefusal sent (.ok a) := by
  rintro ⟨_, _, hresult, -⟩
  cases hresult

namespace Answered

variable {strict : Bool} {later sent : List Noted} {result : Except Fault α}

/-- After other calls that have all been granted, unless their refusal is hidden. -/
theorem after (h : Answered strict later result)
    (hsent : strict = true → Orderly (later ++ sent) → ∀ n ∈ sent, n.refusal ≠ none →
      FailsWithRefusal (later ++ sent) result) : Answered strict (later ++ sent) result := by
  constructor
  case escapes => exact fun message hfault => List.mem_append_left _ (h.escapes message hfault)
  case wraps =>
    intro hstrict horderly n hn hrefused
    rcases List.mem_append.1 hn with hn | hn
    · exact (h.wraps hstrict horderly.later n hn hrefused).mono (List.subset_append_left _ _)
    · exact hsent hstrict horderly n hn hrefused

/-- Before other calls that have all been granted. -/
theorem before (h : Answered strict sent result)
    (hlater : strict = true → Orderly later → ∀ n ∈ later, n.refusal = none) :
    Answered strict (later ++ sent) result := by
  constructor
  case escapes => exact fun message hfault => List.mem_append_right _ (h.escapes message hfault)
  case wraps =>
    intro hstrict horderly n hn hrefused
    rcases List.mem_append.1 hn with hn | hn
    · exact absurd (hlater hstrict horderly.later n hn) hrefused
    · exact (h.wraps hstrict horderly.earlier n hn hrefused).mono (List.subset_append_right _ _)

theorem granted_of_ok {a : α} (h : Answered strict sent (.ok a)) (hstrict : strict = true)
    (horderly : Orderly sent) : ∀ n ∈ sent, n.refusal = none := by
  intro n hn
  rcases hrefusal : n.refusal with _ | r
  · rfl
  · have hrefused : n.refusal ≠ none := hrefusal ▸ Option.some_ne_none r
    exact absurd (h.wraps hstrict horderly n hn hrefused) not_failsWithRefusal_ok

theorem error {fault : Fault} (h : Answered strict sent (.error fault : Except Fault α)) :
    Answered strict sent (.error fault : Except Fault β) := by
  constructor
  case escapes =>
    intro message hfault
    exact h.escapes message (congrArg Except.error (Except.error.inj hfault))
  case wraps =>
    intro hstrict horderly n hn hrefused
    obtain ⟨what, message, hfault, hsome⟩ := h.wraps hstrict horderly n hn hrefused
    exact ⟨what, message, congrArg Except.error (Except.error.inj hfault), hsome⟩

end Answered

/-- That the calls of an operation are answered by its result. -/
def Answers (strict : Bool) (x : Operation (δ × List Noted) α) : Prop :=
  ∀ c, ∃ sent, (perform x c).2.notes = sent ++ c.notes ∧ Answered strict sent (perform x c).1

/-- That an operation fails only where a call is refused. -/
def FailsIfRefused (x : Operation (δ × List Noted) α) : Prop :=
  ∀ c sent fault, (perform x c).2.notes = sent ++ c.notes → (perform x c).1 = .error fault →
    ∃ n ∈ sent, n.refusal ≠ none

theorem StopsAtRefusal.answers {x : Operation (δ × List Noted) α} (h : StopsAtRefusal x)
    (strict : Bool) : Answers strict x := by
  intro c
  obtain ⟨sent, hsent, htold⟩ := h c
  exact ⟨sent, hsent, htold.answered strict⟩

theorem failsIfRefused_callDriver (wrap : String → Fault) (received : Script.Received)
    (call : Call δ α) : FailsIfRefused (callDriver wrap (noting received call)) := by
  intro c sent fault hsent hfault
  rcases hcall : call.run.run c.driver.1 with ⟨answer, x⟩
  cases answer with
  | ok a =>
    rw [perform_noting_of_ok hcall] at hfault
    cases hfault
  | error r =>
    rw [perform_noting_of_error hcall, notes_after] at hsent
    obtain rfl : [_] = sent := List.append_cancel_right hsent
    exact ⟨_, List.mem_singleton_self _, nofun⟩

theorem failsIfRefused_close (d : Driver δ) : FailsIfRefused (close d.noting) := by
  intro c sent fault hsent hfault
  cases hopen : c.isOpen with
  | false =>
    rw [perform_close_of_closed hopen] at hfault
    cases hfault
  | true =>
    rw [perform_close_of_open hopen] at hsent hfault
    obtain ⟨r, x, hrun⟩ | ⟨x, hrun⟩ := perform_closing_cases d c
    · rw [hrun] at hsent
      obtain rfl : [_] = sent := List.append_cancel_right hsent
      exact ⟨_, List.mem_singleton_self _, nofun⟩
    · rw [hrun] at hfault
      cases hfault

namespace Answers

variable {strict : Bool}

theorem bind {x : Operation (δ × List Noted) α} {k : α → Operation (δ × List Noted) β}
    (hx : Answers strict x) (hk : ∀ a, Answers strict (k a)) : Answers strict (x >>= k) := by
  intro c
  obtain ⟨sent, hsent, hanswered⟩ := hx c
  rw [perform_bind]
  rcases hrun : perform x c with ⟨result, c'⟩
  rw [hrun] at hsent hanswered
  cases result with
  | error fault => exact ⟨sent, hsent, hanswered.error⟩
  | ok a =>
    obtain ⟨later, hlater, hanswered'⟩ := hk a c'
    refine ⟨later ++ sent, by rw [hlater, hsent, List.append_assoc], hanswered'.after ?_⟩
    intro hstrict horderly n hn hrefused
    exact absurd (hanswered.granted_of_ok hstrict horderly.earlier n hn) hrefused

/-- A failure of the ending hides that of the operation, so it has to come from the driver too. -/
theorem ended {x : Operation (δ × List Noted) α}
    {ending : Except Fault α → Operation (δ × List Noted) Unit} (hx : Answers strict x)
    (hend : ∀ result, Answers strict (ending result))
    (hfails : ∀ result, FailsIfRefused (ending result)) :
    Answers strict (Connection.ended x ending) := by
  intro c
  obtain ⟨sent, hsent, hanswered⟩ := hx c
  rw [perform_ended]
  rcases hrun : perform x c with ⟨result, c'⟩
  rw [hrun] at hsent hanswered
  obtain ⟨later, hlater, hanswered'⟩ := hend result c'
  have hfails := hfails result c' later
  rcases hrun' : perform (ending result) c' with ⟨endResult, c''⟩
  rw [hrun'] at hlater hanswered' hfails
  have hnotes : c''.notes = (later ++ sent) ++ c.notes := by
    rw [hlater, hsent, List.append_assoc]
  cases endResult with
  | ok _ => exact ⟨later ++ sent, hnotes, hanswered.before hanswered'.granted_of_ok⟩
  | error fault =>
    refine ⟨later ++ sent, hnotes, hanswered'.error.after fun hstrict horderly _ _ _ => ?_⟩
    obtain ⟨n, hn, hrefused⟩ := hfails fault hlater rfl
    exact (hanswered'.error.wraps hstrict horderly.later n hn hrefused).mono
      (List.subset_append_left _ _)

theorem settled {x : Operation (δ × List Noted) α} (h : Answers false x) :
    Answers false (Connection.settled x : Operation (δ × List Noted) (Except Fault α)) := by
  intro c
  obtain ⟨sent, hsent, -⟩ := h c
  exact ⟨sent, hsent, nofun, nofun⟩

theorem close (d : Driver δ) : Answers strict (Connection.close d.noting) := by
  intro c
  cases hopen : c.isOpen with
  | false =>
    rw [perform_close_of_closed hopen]
    exact ⟨[], rfl, nofun, nofun⟩
  | true =>
    rw [perform_close_of_open hopen]
    obtain ⟨r, x, hrun⟩ | ⟨x, hrun⟩ := perform_closing_cases d c
    · rw [hrun]
      refine ⟨[_], rfl, ?_, ?_⟩
      · intro message hfault
        cases r with
        | error _ =>
          cases hfault
          exact List.mem_singleton_self _
        | crash _ => cases hfault
      · intro _ horderly
        cases horderly _ (List.mem_singleton_self _)
    · rw [hrun]
      refine ⟨[_], rfl, nofun, fun _ _ n hn hrefused => ?_⟩
      rw [List.mem_singleton.1 hn] at hrefused
      exact absurd rfl hrefused

theorem transaction (d : Driver δ) {x : Operation (δ × List Noted) Unit} (h : Answers strict x) :
    Answers strict (Transaction.within d.noting id x) := by
  have hstop : StopsAtRefusal (Op.start.operation d.noting) := Op.stopsAtRefusal d nofun
  have hstart := hstop.answers strict
  rw [within_id]
  refine hstart.bind fun _ => h.ended (fun result => ?_) fun result => ?_
  · cases result with
    | ok _ => exact (StopsAtRefusal.callDriver _ _ _).answers strict
    | error _ => exact (StopsAtRefusal.callDriver _ _ _).answers strict
  · cases result with
    | ok _ => exact failsIfRefused_callDriver _ _ _
    | error _ => exact failsIfRefused_callDriver _ _ _

theorem respected (d : Driver δ) (strict : Bool) :
    RespectedByClients (fun _ x _ => Answers strict x) d.noting d.noting where
  pure a := (StopsAtRefusal.pure a).answers strict
  throw h := (StopsAtRefusal.throw h).answers strict
  bind := bind
  requireOpen := StopsAtRefusal.requireOpen.answers strict
  connect := (StopsAtRefusal.connect d).answers strict
  execute _ _ _ := (StopsAtRefusal.callDriver _ _ _).answers strict
  start := (StopsAtRefusal.callDriver _ _ _).answers strict
  commit := (StopsAtRefusal.callDriver _ _ _).answers strict
  rollback := (StopsAtRefusal.callDriver _ _ _).answers strict
  close := close d
  whileOpen h := ((StopsAtRefusal.connect d).answers strict).bind fun _ =>
    h.ended (fun _ => close d) fun _ => failsIfRefused_close d
  within := transaction d

end Answers

theorem Client.answers (d : Driver δ) (client : Client) :
    Answers (!client.goesOn) (client.operation d.noting) := by
  refine (Answers.respected d _).client client fun hgoesOn x _ hx => ?_
  rw [hgoesOn] at hx ⊢
  exact hx.settled

theorem perform_close_of_refused {d : Driver δ} {c : Connection (δ × List Noted)}
    (hopen : c.isOpen = true) {r : Refusal} {x : δ}
    (h : d.close.run.run c.driver.1 = (.error r, x)) :
    (perform (close d.noting) c).1
      = .error (faultOf (fun message => .escaped (.driver message)) r) := by
  rw [perform_close_of_open hopen]
  exact congrArg Prod.fst (perform_bind_of_error (perform_noting_of_error h))

/-- **An error that the driver raises at any call of an operation is wrapped in the words of the
    operation, except that closing passes it on.**  Of whatever a client does, an error that
    leaves unwrapped is one of closing; where none is, a client fails with a wrapped error as
    soon as a call is refused.  What notes are taken of makes no difference to it. -/
theorem errorsWrapped (d : Driver δ) (c : Connection (δ × List Noted)) :
    (∀ op : Op, op ≠ .close → ∃ sent, (perform (op.operation d.noting) c).2.notes = sent ++ c.notes
      ∧ ∀ n ∈ sent, ∀ message, n.refusal = some (.error message) →
        ∃ what, (perform (op.operation d.noting) c).1 = .error (failing what message))
    ∧ (∀ message x, c.isOpen = true → d.close.run.run c.driver.1 = (.error (.error message), x) →
      (perform (close d.noting) c).1 = .error (.escaped (.driver message)))
    ∧ ∀ client : Client,
      perform (client.operation d) c.forget = ((perform (client.operation d.noting) c).1,
        (perform (client.operation d.noting) c).2.forget)
      ∧ ∃ sent, (perform (client.operation d.noting) c).2.notes = sent ++ c.notes
        ∧ (∀ message, (perform (client.operation d.noting) c).1
            = .error (.escaped (.driver message)) → ⟨.plain .close, some (.error message)⟩ ∈ sent)
        ∧ (client.goesOn = false → Orderly sent → ∀ n ∈ sent, n.refusal ≠ none →
          FailsWithRefusal sent (perform (client.operation d.noting) c).1) := by
  refine ⟨fun op hop => ?_, fun message x hopen hclose => ?_, fun client => ?_⟩
  · obtain ⟨sent, hsent, htold⟩ := Op.stopsAtRefusal d hop c
    exact ⟨sent, hsent, fun n hn message hrefused => htold.failing hn hrefused⟩
  · exact perform_close_of_refused hopen hclose
  · obtain ⟨sent, hsent, hanswered⟩ := client.answers d c
    refine ⟨client.follows_noting d c, sent, hsent, hanswered.escapes, fun hstops => ?_⟩
    exact hanswered.wraps (by rw [hstops]; rfl)

/-- A database that refuses queries, and maybe to be closed. -/
def refusing (events : List Script.Event) : Script.State where
  rules := events.map fun event => ⟨event, "", none, .refuse (.error "disk full")⟩

/-- A connection that is open, before any notes are taken. -/
def justOpen (state : Script.State) : Connection (Script.State × List Noted) :=
  ⟨":memory:", false, true, (state, [])⟩

/-- A query that is refused, by itself and in a block, and a closing that is. -/
theorem errorsWrapped_query :
    (∃ what, (perform ((Op.query "SELECT 1" []).operation Script.driver.noting)
      (justOpen (refusing [.execute]))).1 = .error (failing what "disk full"))
    ∧ (perform (close Script.driver.noting) (justOpen (refusing [.close]))).1
      = .error (.escaped (.driver "disk full"))
    ∧ FailsWithRefusal
        (perform ((Client.during (.step (.query "SELECT 1" []))).operation Script.driver.noting)
          (justOpen (refusing [.execute]))).2.notes
        (perform ((Client.during (.step (.query "SELECT 1" []))).operation Script.driver.noting)
          (justOpen (refusing [.execute]))).1 := by
  obtain ⟨hops, -, hclients⟩ := errorsWrapped Script.driver (justOpen (refusing [.execute]))
  obtain ⟨-, hclosing, -⟩ := errorsWrapped Script.driver (justOpen (refusing [.close]))
  have hnone : (justOpen (refusing [.execute])).notes = [] := rfl
  refine ⟨?_, hclosing "disk full" _ rfl rfl, ?_⟩
  · obtain ⟨sent, hsent, hwrapped⟩ := hops (.query "SELECT 1" []) nofun
    have hrefused : ∃ n ∈ (perform ((Op.query "SELECT 1" []).operation Script.driver.noting)
        (justOpen (refusing [.execute]))).2.notes, n.refusal = some (.error "disk full") := by
      decide +kernel
    rw [hsent, hnone, List.append_nil] at hrefused
    obtain ⟨n, hn, hrefusal⟩ := hrefused
    exact hwrapped n hn "disk full" hrefusal
  · obtain ⟨-, sent, hsent, -, hfails⟩ := hclients (.during (.step (.query "SELECT 1" [])))
    rw [hnone, List.append_nil] at hsent
    have horderly : Orderly (perform ((Client.during (.step (.query "SELECT 1" []))).operation
        Script.driver.noting) (justOpen (refusing [.execute]))).2.notes := by decide +kernel
    have hrefused : ∃ n ∈ (perform ((Client.during (.step (.query "SELECT 1" []))).operation
        Script.driver.noting) (justOpen (refusing [.execute]))).2.notes, n.refusal ≠ none := by
      decide +kernel
    rw [hsent] at horderly hrefused ⊢
    obtain ⟨n, hn, hrefusal⟩ := hrefused
    exact hfails rfl horderly n hn hrefusal

/-- **Closing lets an error of the driver out,** and so does a block that closes. -/
theorem closing_escapes :
    (perform ((Client.andThen (.step .connect) (.step .close)).operation Script.driver.noting)
        (unused ":memory:" false (refusing [.close]))).1 = .error (.escaped (.driver "disk full"))
    ∧ (perform ((Client.during .nothing).operation Script.driver.noting)
        (unused ":memory:" false (refusing [.close]))).1 = .error (.escaped (.driver "disk full"))
    ∧ ∀ message, Fault.escaped (.driver "disk full") ≠ .storage message :=
  ⟨rfl, rfl, nofun⟩

end SqlPipeline.Storage
