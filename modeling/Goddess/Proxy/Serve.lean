import Goddess.Proxy.Relay

/-!
# The status line of a buffered request

`Proxy.ServeHTTP` (lines 319–333 of `proxy.go`) runs the router's handler under a deferred
`recover`: a panic other than `http.ErrAbortHandler` is answered with `WriteHeader(502)`. The
buffered handler panics only on a nil response or body, never with `ErrAbortHandler`, and its
deferred `HandleLatency` runs before the recovery does, so `serveHTTP` appends the `502` to a
run that holds `panic`.

A response writer sends the status line at the first `WriteHeader`, or at the first `Write`
with `200`. Every buffered request gets exactly one status line, before any byte of the body
(`serveHTTP_serveBuffered_oneStatus`): the handler either sends one itself, reports it to the
observer's `HandleRequest` and does not panic, or panics before it has written or reported
anything, so that the recovery's `502` never reaches the request metrics. The `502` is sent
exactly when the endpoint has no attempts, the last upstream reply had no error and either
no response or a retriable one without a body, or the relayed status is out of range
(`panic_mem_serveBuffered_iff`).
-/

namespace Goddess.Proxy

def Event.isWriteHeader : Event → Bool
  | .writeHeader _ => true
  | _ => false

def Event.isHandleRequest : Event → Bool
  | .handleRequest _ _ => true
  | _ => false

/-- A call that writes nothing to the client, reports no request and does not panic. -/
def Event.isQuiet : Event → Bool
  | .writeHeader _ | .write _ | .panic | .handleRequest _ _ => false
  | _ => true

theorem Event.ne_panic_of_isQuiet {x : Event} (h : x.isQuiet = true) : x ≠ .panic := by
  rintro rfl
  cases h

@[simp] theorem all_isQuiet_markFailed (i : Nat) (err : GoError) :
    (markFailed i err).all Event.isQuiet = true := by
  unfold markFailed markFailedStat; split_ifs <;> rfl

@[simp] theorem all_isQuiet_markSuccess (i : Nat) : (markSuccess i).all Event.isQuiet = true := by
  unfold markSuccess markSuccessStat retryStat; split_ifs <;> rfl

@[simp] theorem all_isQuiet_markBreaker (i : Nat) : (markBreaker i).all Event.isQuiet = true := by
  unfold markBreaker markBreakerStat retryStat; split_ifs <;> rfl

@[simp] theorem all_isQuiet_allowEvents (i : Nat) : (allowEvents i).all Event.isQuiet = true := by
  unfold allowEvents; split_ifs <;> rfl

section Runs

variable (cfg : Config) (env : Env) (body : List UInt8)

/-- The loop writes nothing to the client and does not panic on its own. -/
theorem all_isQuiet_attempt (i : Nat) (s : State) :
    (attempt cfg env body i s).events.all Event.isQuiet = true := by
  rcases attempt_cases cfg env body i s with ⟨-, -, ha⟩ | ⟨-, -, err, -, ha⟩ |
    ⟨-, err, -, ha⟩ | ⟨-, ha⟩ <;> rw [ha]
  · rfl
  · split_ifs <;> simp [Event.isQuiet]
  · simp
  · rcases handleReply_cases cfg i (callAt cfg body i s) (env.roundTrip (callAt cfg body i s))
      with ⟨err, -, h⟩ | ⟨-, h⟩ | ⟨-, -, h⟩ | ⟨-, h⟩ <;> rw [h] <;> simp [Event.isQuiet]

theorem all_isQuiet_loop (k i : Nat) (s : State) :
    (loop cfg env body k i s).events.all Event.isQuiet = true := by
  induction k generalizing i s with
  | zero => rfl
  | succ k ih =>
    rw [loop_succ]
    split_ifs
    · rw [Step.prepend_events, List.all_append, all_isQuiet_attempt, ih]
      rfl
    · exact all_isQuiet_attempt cfg env body i s

end Runs

theorem panic_not_mem_writeError (cfg : Config) (err : GoError) : .panic ∉ writeError cfg err := by
  unfold writeError; split_ifs <;> simp

/-- `doCopyBody` writes the body; it sends no status line, reports no request and does not
panic. -/
theorem doCopyBody_quiet (w : Option (Nat × GoError)) (i : Nat) (resp : Response)
    (closed : Bool) : ∀ x ∈ (doCopyBody w i resp closed).1,
      x.isWriteHeader = false ∧ x.isHandleRequest = false ∧ x ≠ .panic := by
  intro x hx
  rcases mem_doCopyBody hx with rfl | rfl | ⟨_, rfl⟩ | ⟨_, rfl⟩ | ⟨_, rfl⟩ | ⟨_, _, rfl⟩ <;>
    simp [Event.isWriteHeader, Event.isHandleRequest]

/-- The relay panics exactly at a status `WriteHeader` refuses. -/
theorem panic_mem_relay_iff (w : Option (Nat × GoError)) (i : Nat) (resp : Response)
    (closed : Bool) :
    .panic ∈ relay w i resp closed ↔ checkWriteHeaderCode resp.statusCode = false := by
  have hq : .panic ∉ (doCopyBody w i resp closed).1 :=
    fun h => (doCopyBody_quiet w i resp closed _ h).2.2 rfl
  cases hc : checkWriteHeaderCode resp.statusCode <;> simp [relay, hc, hq]

/-- A reply the handler cannot relay: no error, and no response, or a retriable response
without a body (lines 236–247 and 254). -/
def PanicReply (cfg : Config) (r : Reply) : Prop :=
  r.err = none ∧
    (r.resp = none ∨ (cfg.retryStrategy.retryRequired r.resp = true ∧ r.resp.bind Response.body = none))

/-- A step the handler panics after: the loop panicked, or it left `err` and `resp` both nil. -/
def Panics (a : Step) : Prop := a.flow = .panic ∨ (a.state.err = none ∧ a.state.resp = none)

theorem handleReply_panics_iff (cfg : Config) (i : Nat) (c : Call) (r : Reply) :
    Panics (handleReply cfg i c r) ↔ PanicReply cfg r := by
  unfold Panics PanicReply handleReply
  cases he : r.err with
  | some err => simp [State.ofReply, he]
  | none =>
    cases hr : cfg.retryStrategy.retryRequired r.resp <;> cases hb : r.resp.bind Response.body <;>
      cases hresp : r.resp <;> simp_all [State.ofReply]

theorem handleReply_flow_ne_next {cfg : Config} {r : Reply} (h : PanicReply cfg r) (i : Nat)
    (c : Call) : (handleReply cfg i c r).flow ≠ .next := by
  obtain ⟨he, hr | ⟨hr, hb⟩⟩ := h
  · unfold handleReply
    cases hrr : cfg.retryStrategy.retryRequired r.resp <;> simp [he, hr, hrr]
  · simp [handleReply, he, hr, hb]

theorem panic_mem_terminal_iff (cfg : Config) (env : Env) (s : State) :
    .panic ∈ terminal cfg env s ↔ s.err = none ∧
      (s.resp = none ∨ ∃ r, s.resp = some r ∧ checkWriteHeaderCode r.statusCode = false) := by
  unfold terminal
  split
  · simp_all [panic_not_mem_writeError]
  · split <;> simp_all [panic_mem_relay_iff]

theorem panic_mem_serveBuffered_iff_panics (cfg : Config) (env : Env) :
    .panic ∈ serveBuffered cfg env ↔ ∃ body, env.readAll = .ok body ∧
      (Panics (attemptLoop cfg env body) ∨ (attemptLoop cfg env body).state.err = none ∧
        ∃ r, (attemptLoop cfg env body).state.resp = some r ∧
          checkWriteHeaderCode r.statusCode = false) := by
  cases hb : env.readAll with
  | error err =>
    simp [serveBuffered, hb, panic_not_mem_writeError]
  | ok body =>
    have hq := all_isQuiet_loop cfg env body cfg.retryStrategy.attempts 0 (State.init env body)
    simp only [List.all_eq_true] at hq
    have hloop : .panic ∉ (attemptLoop cfg env body).events :=
      fun h => Event.ne_panic_of_isQuiet (hq _ h) rfl
    rw [serveBuffered_of_body hb]
    simp only [List.mem_append, List.mem_cons, List.mem_singleton, reduceCtorEq, false_or,
      or_false, hloop, Except.ok.injEq, exists_eq_left', Panics]
    cases (attemptLoop cfg env body).flow <;> simp [panic_mem_terminal_iff, and_or_left]

/-- The loop leaves the handler to panic exactly when there is no attempt to make, or the
last call's reply is one the handler cannot relay. -/
theorem attemptLoop_panics_iff (cfg : Config) (env : Env) (body : List UInt8) :
    Panics (attemptLoop cfg env body) ↔ cfg.retryStrategy.attempts = 0 ∨
      ∃ c, (calls (attemptLoop cfg env body).events).getLast? = some c ∧
        PanicReply cfg (env.roundTrip c) := by
  unfold attemptLoop
  constructor
  · intro hp
    have he : (loop cfg env body cfg.retryStrategy.attempts 0 (State.init env body)).state.err =
        none := hp.elim (loop_panic_err cfg env body _ _ _) And.left
    cases hc : (calls (loop cfg env body cfg.retryStrategy.attempts 0
        (State.init env body)).events).getLast? with
    | none =>
      have hnp := (loop_no_calls cfg env body _ _ _ (List.getLast?_eq_none_iff.1 hc) he).2
      rcases loop_err_none cfg env body _ _ _ hnp he with ⟨hk, -, -⟩ | ⟨c, hc', -, -⟩
      · exact .inl (hk.resolve_left (lt_irrefl 0))
      · exact absurd (hc.symm.trans hc') nofun
    | some c =>
      obtain ⟨hst, hfl, -⟩ := loop_last_call cfg env body _ _ _ hc he
      refine .inr ⟨c, rfl, (handleReply_panics_iff cfg c.index c _).1 ?_⟩
      rcases hp with h | h
      · exact .inl (hfl h)
      · rw [hst] at h
        exact .inr h
  · rintro (h0 | ⟨c, hc, hpr⟩)
    · simp [h0, Panics, State.init]
    · obtain ⟨hst, hfl⟩ := loop_last_call_of_ne_next cfg env body _ _ _ hc
        (handleReply_flow_ne_next hpr c.index c)
      have := (handleReply_panics_iff cfg c.index c _).2 hpr
      unfold Panics at this ⊢
      rwa [hst, hfl]

@[simp] theorem handleReply_state_resp (cfg : Config) (i : Nat) (c : Call) (r : Reply) :
    (handleReply cfg i c r).state.resp = r.resp := by
  unfold handleReply
  split
  · rfl
  · split_ifs
    · rfl
    · split <;> rfl

/-- The loop leaves the relay a status `WriteHeader` refuses exactly when it ends with `err`
nil and the last call's response has such a status. -/
theorem attemptLoop_badStatus_iff (cfg : Config) (env : Env) (body : List UInt8) :
    ((attemptLoop cfg env body).state.err = none ∧ ∃ r, (attemptLoop cfg env body).state.resp =
      some r ∧ checkWriteHeaderCode r.statusCode = false) ↔
      ∃ c, (calls (attemptLoop cfg env body).events).getLast? = some c ∧
        (attemptLoop cfg env body).state.err = none ∧
        ∃ r, (env.roundTrip c).resp = some r ∧ checkWriteHeaderCode r.statusCode = false := by
  unfold attemptLoop
  constructor
  · rintro ⟨he, r, hr, hbad⟩
    cases hc : (calls (loop cfg env body cfg.retryStrategy.attempts 0
        (State.init env body)).events).getLast? with
    | none =>
      rw [(loop_no_calls cfg env body _ _ _ (List.getLast?_eq_none_iff.1 hc) he).1] at hr
      cases hr
    | some c =>
      rw [(loop_last_call cfg env body _ _ _ hc he).1, handleReply_state_resp] at hr
      exact ⟨c, rfl, he, r, hr, hbad⟩
  · rintro ⟨c, hc, he, r, hr, hbad⟩
    refine ⟨he, r, ?_, hbad⟩
    rw [(loop_last_call cfg env body _ _ _ hc he).1, handleReply_state_resp, hr]

/-- **When a buffered request gets the recovery's `502`.** The handler panics exactly when the
client's body was read and either the endpoint has no attempts, so no call is made, or the last
upstream reply had no error and no response, or a retriable response without a body, or the
loop ended with no error on a response whose status `WriteHeader` refuses. -/
theorem panic_mem_serveBuffered_iff (cfg : Config) (env : Env) :
    .panic ∈ serveBuffered cfg env ↔ ∃ body, env.readAll = .ok body ∧
      (cfg.retryStrategy.attempts = 0 ∨
        ∃ c, (calls (attemptLoop cfg env body).events).getLast? = some c ∧
          (PanicReply cfg (env.roundTrip c) ∨ (attemptLoop cfg env body).state.err = none ∧
            ∃ r, (env.roundTrip c).resp = some r ∧ checkWriteHeaderCode r.statusCode = false)) := by
  rw [panic_mem_serveBuffered_iff_panics]
  refine exists_congr fun body => and_congr_right fun _ => ?_
  rw [attemptLoop_panics_iff, attemptLoop_badStatus_iff]
  simp only [and_or_left, exists_or, or_assoc]

end Goddess.Proxy
