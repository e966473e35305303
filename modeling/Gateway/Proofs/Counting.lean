import Gateway.Connections
import Gateway.Exchange.Host
import Mathlib.Data.List.Nodup

/-!
The count of connections. Whatever happens to connections in whatever order, the count is the number
of connections whose task is under way and, beside these, of the tasks that ended by a panic. So it is
exact as long as no asynchronous application panics, and afterwards too high for good.
-/
namespace Gateway

namespace ConnectionEvent

def isAccepted : ConnectionEvent → Bool
  | accepted .. => true
  | _ => false

def isEnded : ConnectionEvent → Bool
  | ended .. => true
  | _ => false

def isPanic : ConnectionEvent → Bool
  | ended _ how => how == .panicked
  | _ => false

end ConnectionEvent

/-- The event can come from the host. What panics in the task of a connection is the application, while
it answers a request. -/
def Host.MayCause (h : Host) : ConnectionEvent → Prop
  | .ended _ .panicked => ∃ a r text events, h.answer a r = .panicked text events
  | _ => True

namespace Connections

open ConnectionEvent (isAccepted isEnded isPanic)

/-- The events have led to the state, in any order in which tasks begin before they go on. -/
inductive After (h : Host) : List ConnectionEvent → Connections → Prop
  | nothing : After h [] {}
  | event {es c e} (hbefore : After h es c) (hadmits : c.admits e) (hcause : h.MayCause e) :
    After h (es ++ [e]) (c.step e)

/-- What the state says of the events that led to it: each task under way has its own number, those
accepted are under way or have ended, and the count exceeds those under way by the panics. -/
structure Accounts (es : List ConnectionEvent) (c : Connections) : Prop where
  nodup : (c.tasks.map Prod.fst).Nodup
  length_tasks : c.tasks.length + es.countP isEnded = es.countP isAccepted
  count_eq : c.count = c.tasks.length + es.countP isPanic

theorem isSome_lookup_iff {tasks : List (Nat × SocketAddress)} {task : Nat} :
    (tasks.lookup task).isSome ↔ task ∈ tasks.map Prod.fst := by
  rw [List.lookup_isSome_iff, List.mem_map]
  constructor
  · rintro ⟨t, ht, heq⟩
    exact ⟨t, ht, (eq_of_beq heq).symm⟩
  · rintro ⟨t, ht, rfl⟩
    exact ⟨t, ht, beq_self_eq_true t.1⟩

/-- Of tasks with different numbers, just one is left out with its number. -/
theorem length_filter_ne {tasks : List (Nat × SocketAddress)} (hnodup : (tasks.map Prod.fst).Nodup)
    {task : Nat} (hmem : task ∈ tasks.map Prod.fst) :
    (tasks.filter (·.1 != task)).length + 1 = tasks.length := by
  have hone : tasks.countP (·.1 == task) = 1 := by
    have hcount := List.count_eq_one_of_mem hnodup hmem
    rwa [List.count, List.countP_map] at hcount
  have hrest : (fun t : Nat × SocketAddress => decide ¬ (t.1 == task)) = (·.1 != task) := by
    funext t
    cases h : t.1 == task <;> simp [bne, h]
  have hall := List.length_eq_countP_add_countP (·.1 == task) (l := tasks)
  rw [hone, hrest, List.countP_eq_length_filter] at hall
  omega

theorem Accounts.step {es : List ConnectionEvent} {c : Connections} {e : ConnectionEvent}
    (h : c.Accounts es) (hadmits : c.admits e) : (c.step e).Accounts (es ++ [e]) := by
  obtain ⟨hnodup, htasks, hcount⟩ := h
  cases e with
  | accepted task peer =>
    have hnew : task ∉ c.tasks.map Prod.fst := by
      rw [← isSome_lookup_iff, Option.not_isSome_iff_eq_none]
      exact Option.isNone_iff_eq_none.1 hadmits
    refine ⟨List.nodup_cons.2 ⟨hnew, hnodup⟩, ?_, ?_⟩
    · simp [Connections.step, isAccepted, isEnded]
      omega
    · simp [Connections.step, isPanic]
      omega
  | dropped peer reason =>
    refine ⟨hnodup, ?_, ?_⟩
    · simpa [Connections.step, isAccepted, isEnded] using htasks
    · simpa [Connections.step, isPanic] using hcount
  | served task =>
    refine ⟨hnodup, ?_, ?_⟩
    · simpa [Connections.step, isAccepted, isEnded] using htasks
    · simpa [Connections.step, isPanic] using hcount
  | ended task how =>
    have hold := length_filter_ne hnodup (isSome_lookup_iff.1 hadmits)
    refine ⟨?_, ?_, ?_⟩
    · exact hnodup.sublist (List.filter_sublist.map Prod.fst)
    · simp [Connections.step, isAccepted, isEnded]
      omega
    · by_cases hhow : how = .panicked
      · simp [Connections.step, isPanic, hhow]
        omega
      · simp [Connections.step, isPanic, hhow]
        omega

theorem After.accounts {h : Host} {es : List ConnectionEvent} {c : Connections}
    (hafter : After h es c) : c.Accounts es := by
  induction hafter with
  | nothing => exact ⟨List.nodup_nil, rfl, rfl⟩
  | event _ hadmits _ ih => exact ih.step hadmits

/-! ## Panics -/

theorem answer_sync_ne_panicked {h : Host} {app : SyncApp} (happ : h.app = .sync app) (a : Arrival)
    (r : Http.Request) (text : String) (events : List Event) :
    h.answer a r ≠ .panicked text events := by
  have hexchange : h.exchange a r ≠ .panicked text events := by
    unfold Host.exchange Host.call CallEnd.sync
    rw [happ]
    split
    · simp
    · simp
    · dsimp only
      cases Produced.ofRun a.task (app (r.cgi a _)) <;> simp
  unfold Host.answer
  split
  · simp
  · exact hexchange

/-- A synchronous application is called apart from the tasks of connections, so none of them panics. -/
theorem After.no_panic {h : Host} {app : SyncApp} (happ : h.app = .sync app)
    {es : List ConnectionEvent} {c : Connections} (hafter : After h es c) :
    es.countP isPanic = 0 := by
  induction hafter with
  | nothing => rfl
  | @event es c e _ _ hcause ih =>
    have hno : isPanic e = false := by
      cases e with
      | ended task how =>
        cases how with
        | panicked =>
          obtain ⟨a, r, text, events, hpanicked⟩ := hcause
          exact absurd hpanicked (answer_sync_ne_panicked happ a r text events)
        | _ => rfl
      | _ => rfl
    simp [ih, hno]

/-! ## The count -/

/-- Whatever happens in whatever order, the count is that of the connections under way and of the panics. So
it is exact, and zero again after the last task, if and only if no task panicked. -/
theorem count_after {h : Host} {es : List ConnectionEvent} {c : Connections}
    (hafter : After h es c) :
    c.tasks.length + es.countP isEnded = es.countP isAccepted ∧
    c.count = c.tasks.length + es.countP isPanic ∧ 0 ≤ c.count ∧
    (c.count = c.tasks.length ↔ es.countP isPanic = 0) ∧
    (c.tasks = [] → (c.drainNotices = [] ↔ es.countP isPanic = 0)) ∧
    ((∃ app, h.app = .sync app) → c.count = c.tasks.length) := by
  obtain ⟨-, htasks, hcount⟩ := hafter.accounts
  refine ⟨htasks, hcount, ?_, ?_, ?_, ?_⟩
  · omega
  · omega
  · intro hnone
    rw [hnone, List.length_nil] at hcount
    have hzero : c.count ≤ 0 ↔ es.countP isPanic = 0 := by omega
    unfold drainNotices
    split
    · next hle => exact iff_of_true rfl (hzero.1 hle)
    · next hgt => exact iff_of_false (List.cons_ne_nil _ _) (mt hzero.2 hgt)
  · rintro ⟨app, happ⟩
    have hno := hafter.no_panic happ
    omega

/-- A host whose asynchronous application panics on each request. -/
def panicking : Host where
  app := .async fun _ => .panic "boom"
  maxBody := 0
  serverName := ""

def loopback (port : UInt16) : SocketAddress where
  ip := .v4 127 0 0 1
  port := port

theorem mayCause_panicking (task : Nat) : panicking.MayCause (.ended task .panicked) :=
  ⟨{ peer := loopback 1, host := loopback 2 }, { method := "GET", target := ⟨"/", none⟩ }, "boom", [],
    rfl⟩

/-- One of two connections fails and the other panics: the count stays at one when both are over. -/
theorem count_after_panic :
    let es := [.accepted 1 (loopback 1), .dropped (loopback 2) "reset", .accepted 2 (loopback 3),
      .served 1, .ended 1 (.failed "reset"), .ended 2 .panicked]
    let c : Connections := { tasks := [], count := 1 }
    After panicking es c ∧ c.tasks.length + es.countP isEnded = es.countP isAccepted ∧
      es.countP isPanic = 1 ∧ c.drainNotices ≠ [] := by
  intro es c
  have hfirst : After panicking [.accepted 1 (loopback 1)] _ := .event .nothing rfl trivial
  have hsecond := (hfirst.event (e := .dropped (loopback 2) "reset") rfl trivial).event
    (e := .accepted 2 (loopback 3)) rfl trivial
  have hended := (hsecond.event (e := .served 1) rfl trivial).event
    (e := .ended 1 (.failed "reset")) rfl trivial
  have hafter : After panicking es c := hended.event rfl (mayCause_panicking 2)
  have hmain := count_after hafter
  have hone : es.countP isPanic = 1 := rfl
  refine ⟨hafter, hmain.1, hone, fun hnone => ?_⟩
  have hzero := (hmain.2.2.2.2.1 rfl).1 hnone
  rw [hone] at hzero
  contradiction

/-- The count is not always that of the tasks under way. -/
theorem not_exact_of_panic :
    ¬ ∀ h es c, After h es c → c.count = c.tasks.length := by
  intro hall
  have hbefore : After panicking [.accepted 1 (loopback 1)] _ := .event .nothing rfl trivial
  have hafter := hbefore.event (e := .ended 1 .panicked) rfl (mayCause_panicking 1)
  have hcount := hall _ _ _ hafter
  contradiction

end Connections

end Gateway
