import Goddess.Proxy.Breaker

/-!
# The observer's calls

A buffered request reports to its observer: `HandleReceivedBytes` once the client body is
read, a `HandleRetry` from `markSuccess`, `markFailed` and `markBreaker` for an index past the
first (through `splitRetryMetricsHandler`), `HandleSentBytes` from `doCopyBody`,
`HandleRequest` from `writeError` or the relay, and the deferred `HandleLatency`.

What one iteration reports is `ObservedAt`; the loop's reports follow by induction on the
fuel, and the ones that end the loop (`"true"`, `"breaker"`) through `loop_ends_at`.
-/

namespace Goddess.Proxy

/-- A call of the request observer. -/
def Event.isObserver : Event → Bool
  | .handleReceivedBytes _ | .handleRetry _ _ | .handleSentBytes _ | .handleRequest _ _
  | .handleLatency => true
  | _ => false

/-- The observer calls of a trace, in order. -/
def observed (t : List Event) : List Event := t.filter Event.isObserver

/-- A `HandleRetry` call: its index and its state. -/
def Event.retry? : Event → Option (Nat × String)
  | .handleRetry i st => some (i, st)
  | _ => none

/-- The `HandleRetry` calls of a trace, in order. -/
def retries (t : List Event) : List (Nat × String) := t.filterMap Event.retry?

/-- The `HandleRetry` call a retry record stands for. -/
def retryEvent (r : Nat × String) : Event := .handleRetry r.1 r.2

@[simp] theorem observed_append (t t' : List Event) :
    observed (t ++ t') = observed t ++ observed t' := List.filter_append _ _

@[simp] theorem observed_nil : observed [] = [] := rfl

@[simp] theorem observed_cons (x : Event) (t : List Event) :
    observed (x :: t) = if x.isObserver then x :: observed t else observed t :=
  List.filter_cons

@[simp] theorem retries_append (t t' : List Event) :
    retries (t ++ t') = retries t ++ retries t' := List.filterMap_append _ _ _

@[simp] theorem retries_nil : retries [] = [] := rfl

@[simp] theorem retries_cons (x : Event) (t : List Event) :
    retries (x :: t) = x.retry?.toList ++ retries t := by
  simp only [retries, List.filterMap_cons]
  cases x.retry? <;> rfl

@[simp] theorem mem_retries {i : Nat} {st : String} {t : List Event} :
    (i, st) ∈ retries t ↔ .handleRetry i st ∈ t := by
  simp only [retries, List.mem_filterMap]
  constructor
  · rintro ⟨x, hx, h⟩
    cases x with
    | handleRetry i st => cases h; exact hx
    | _ => cases h
  · exact fun h => ⟨_, h, rfl⟩

theorem retries_of_untagged {es : List Event} (h : Untagged es) : retries es = [] :=
  List.filterMap_eq_nil_iff.mpr fun x hx => by
    have := h x hx
    cases x <;> simp_all [Event.retry?, Event.index?]

/-- What one iteration, at index `i`, reports to the observer: only `HandleRetry` calls, at
most one, for its own index and none for the first; none for a failure whose error wraps
`context.Canceled`; a `"true"` ends the loop with the response of the iteration's call and no
error, and a `"breaker"` ends it after `Allow` returned `ErrNotAllowed`. -/
structure ObservedAt (cfg : Config) (env : Env) (i : Nat) (a : Step) : Prop where
  observed_retries : observed a.events = (retries a.events).map retryEvent
  retry_shape : retries a.events = [] ∨ ∃ st, 0 < i ∧ retries a.events = [(i, st)]
  canceled_silent : ∀ err, .markFailed i err ∈ a.events → err.is .canceled = true →
    retries a.events = []
  success_stops : (i, "true") ∈ retries a.events → a.flow = .stop ∧ a.state.err = none ∧
    a.state.last = i ∧ ∃ c ∈ calls a.events, c.index = i ∧ a.state.resp = (env.roundTrip c).resp
  breaker_stops : (i, "breaker") ∈ retries a.events → a.flow = .stop ∧
    ∃ err, env.allow i = some err ∧ err.is .notAllowed = true

section Iteration

variable (cfg : Config) (env : Env) (body : List UInt8)

theorem observedAt_attempt (i : Nat) (s : State) :
    ObservedAt cfg env i (attempt cfg env body i s) := by
  rcases attempt_cases cfg env body i s with ⟨hi, -, ha⟩ | ⟨hi, -, err, hal, ha⟩ |
    ⟨hadm, err, -, ha⟩ | ⟨⟨hadm, -⟩, ha⟩ <;> rw [ha] <;> clear ha
  case inl => constructor <;> simp
  case inr.inl =>
    obtain ⟨j, rfl⟩ : ∃ j, i = j + 1 := ⟨i - 1, by omega⟩
    constructor <;> simp [hal, env.allow_notAllowed _ _ hal, Event.isObserver, Event.retry?,
      retryEvent]
  case inr.inr.inl =>
    rcases i with _ | j
    · constructor <;> simp [allowEvents]
    · cases hc : err.is .canceled <;>
        constructor <;> simp [allowEvents, hc, Event.isObserver, Event.retry?, retryEvent]
  case inr.inr.inr =>
    rcases i with _ | j
    · rcases handleReply_cases cfg 0 (callAt cfg body 0 s) (env.roundTrip (callAt cfg body 0 s))
        with ⟨_, -, h⟩ | ⟨-, h⟩ | ⟨-, -, h⟩ | ⟨-, h⟩ <;> rw [h] <;>
        constructor <;> simp [allowEvents, Event.isObserver, Event.retry?]
    · rcases handleReply_cases cfg (j + 1) (callAt cfg body (j + 1) s)
        (env.roundTrip (callAt cfg body (j + 1) s)) with ⟨err, -, h⟩ | ⟨hs, h⟩ | ⟨-, -, h⟩ | ⟨-, h⟩ <;>
        rw [h] <;> clear h
      · cases hc : err.is .canceled <;>
          constructor <;> simp [allowEvents, hc, Event.isObserver, Event.retry?, retryEvent]
      · constructor <;> simp [allowEvents, Event.isObserver, Event.retry?, retryEvent,
          State.ofReply, hs.1]
      all_goals constructor <;> simp [allowEvents, assertionFailed, GoError.is, Event.isObserver,
        Event.retry?, retryEvent]

end Iteration

section Runs

variable (cfg : Config) (env : Env) (body : List UInt8)

theorem observed_loop (k j : Nat) (s : State) :
    observed (loop cfg env body k j s).events =
      (retries (loop cfg env body k j s).events).map retryEvent := by
  induction k generalizing j s with
  | zero => rfl
  | succ k ih =>
    have h := (observedAt_attempt cfg env body j s).observed_retries
    rw [loop_succ]
    split_ifs
    · simp only [Step.prepend_events, observed_append, retries_append, List.map_append, h, ih]
    · exact h

/-- The `HandleRetry` calls of a run from index `j` with `k` indices left: increasing
indices, each past the first and in `[j, j + k)`. -/
theorem retries_loop (k j : Nat) (s : State) :
    (retries (loop cfg env body k j s).events).Chain' (fun r r' => r.1 < r'.1) ∧
      ∀ r ∈ retries (loop cfg env body k j s).events, 0 < r.1 ∧ j ≤ r.1 ∧ r.1 < j + k := by
  induction k generalizing j s with
  | zero => simp [retries]
  | succ k ih =>
    have hshape := (observedAt_attempt cfg env body j s).retry_shape
    have hchain : (retries (attempt cfg env body j s).events).Chain' (fun r r' => r.1 < r'.1) := by
      rcases hshape with h | ⟨st, -, h⟩ <;> rw [h]
      exacts [List.chain'_nil, List.chain'_singleton _]
    have hidx : ∀ r ∈ retries (attempt cfg env body j s).events, 0 < r.1 ∧ r.1 = j := by
      rcases hshape with h | ⟨st, hj, h⟩
      · simp [h]
      · simp [h, hj]
    rw [loop_succ]
    split_ifs
    · obtain ⟨hc, hb⟩ := ih (j + 1) (attempt cfg env body j s).state
      rw [Step.prepend_events, retries_append]
      refine ⟨List.chain'_append.mpr ⟨hchain, hc, fun x hx y hy => ?_⟩, fun r hr => ?_⟩
      · have := hidx x (List.mem_of_mem_getLast? hx)
        have := hb y (List.mem_of_mem_head? hy)
        omega
      · rcases List.mem_append.mp hr with hr | hr
        · have := hidx r hr; omega
        · have := hb r hr; omega
    · exact ⟨hchain, fun r hr => by have := hidx r hr; omega⟩

/-- A run reports no `HandleRetry` at an index where it told the breaker of a cancellation. -/
theorem canceled_loop (k j : Nat) (s : State) {i : Nat} {err : GoError}
    (hf : .markFailed i err ∈ (loop cfg env body k j s).events) (hc : err.is .canceled = true)
    (st : String) : (i, st) ∉ retries (loop cfg env body k j s).events := by
  obtain ⟨s', hs'⟩ := atIndex_loop_of_mem cfg env body k j s hf rfl
  have hf' : .markFailed i err ∈ (attempt cfg env body i s').events := by
    rw [← markFailed_mem_atIndex, ← hs', markFailed_mem_atIndex]
    exact hf
  have hnone := (observedAt_attempt cfg env body i s').canceled_silent err hf' hc
  intro hr
  have hr' : (i, st) ∈ retries (attempt cfg env body i s').events := by
    rw [mem_retries, ← handleRetry_mem_atIndex, ← hs', handleRetry_mem_atIndex]
    exact mem_retries.mp hr
  rw [hnone] at hr'
  cases hr'

end Runs

section Handler

/-- `doCopyBody` reports at most one `HandleSentBytes`: the bytes the client took. -/
theorem observed_doCopyBody (w : Option (Nat × GoError)) (i : Nat) (resp : Response)
    (closed : Bool) : ∃ sent : Option Nat,
      observed (doCopyBody w i resp closed).1 = (sent.map Event.handleSentBytes).toList := by
  unfold doCopyBody
  split
  · exact ⟨none, rfl⟩
  split_ifs
  · exact ⟨some 0, by simp [Event.isObserver]⟩
  split
  · exact ⟨some 0, by simp [observed, Event.isObserver, List.filter_map, Function.comp_def]⟩
  · exact ⟨some _, by simp [observed, Event.isObserver, List.filter_map, Function.comp_def]; rfl⟩
  · exact ⟨some _, by simp [Event.isObserver]; rfl⟩

theorem observed_terminal (cfg : Config) (env : Env) (s : State)
    (hp : .panic ∉ terminal cfg env s) :
    ∃ (sent : Option Nat) (code : Nat) (err : Option GoError), observed (terminal cfg env s) =
      (sent.map Event.handleSentBytes).toList ++ [.handleRequest code err] := by
  unfold terminal at hp ⊢
  cases he : s.err with
  | some err =>
    refine ⟨none, errorStatus err, some err, ?_⟩
    unfold writeError
    split_ifs <;> simp [observed, Event.isObserver]
  | none =>
    cases hr : s.resp with
    | none => simp [he, hr] at hp
    | some resp =>
      simp only [he, hr, relay] at hp ⊢
      split_ifs at hp ⊢
      · obtain ⟨sent, hs⟩ := observed_doCopyBody env.clientWrite s.last resp s.bodyClosed
        refine ⟨sent, resp.statusCode, (doCopyBody env.clientWrite s.last resp s.bodyClosed).2, ?_⟩
        rw [observed_append, observed_cons, observed_append, hs]
        simp [observed, Event.isObserver, List.filter_map, Function.comp_def]
      · simp at hp

theorem terminal_of_ok {cfg : Config} {env : Env} {s : State} (he : s.err = none)
    (hp : .panic ∉ terminal cfg env s) :
    ∃ resp, s.resp = some resp ∧ terminal cfg env s = relay env.clientWrite s.last resp s.bodyClosed := by
  unfold terminal at hp ⊢
  rw [he] at hp ⊢
  cases hr : s.resp with
  | none => simp [hr] at hp
  | some resp => exact ⟨resp, rfl, rfl⟩

variable {cfg : Config} {env : Env} {body : List UInt8}

/-- The trace of a read request that does not panic: the loop, then the terminal branch. -/
theorem serveBuffered_of_no_panic (hbody : env.readAll = .ok body)
    (hp : .panic ∉ serveBuffered cfg env) :
    serveBuffered cfg env = .handleReceivedBytes body.length :: (attemptLoop cfg env body).events ++
      terminal cfg env (attemptLoop cfg env body).state ++ [.handleLatency] ∧
    .panic ∉ terminal cfg env (attemptLoop cfg env body).state := by
  rw [serveBuffered_of_body hbody] at hp ⊢
  cases hf : (attemptLoop cfg env body).flow
  case panic => simp [hf] at hp
  all_goals exact ⟨rfl, fun h => hp (by simp [h, hf])⟩

theorem retries_serveBuffered (hbody : env.readAll = .ok body)
    (hp : .panic ∉ serveBuffered cfg env) :
    retries (serveBuffered cfg env) = retries (attemptLoop cfg env body).events := by
  rw [(serveBuffered_of_no_panic hbody hp).1]
  simp [retries_of_untagged (untagged_terminal cfg env _), Event.retry?]

/-- A `"true"` or `"breaker"` report ends the loop: the loop is the iteration that made it,
after the calls of earlier indices. -/
theorem attemptLoop_ends_at (i : Nat) (st : String) (hst : st = "true" ∨ st = "breaker")
    (h : .handleRetry i st ∈ (attemptLoop cfg env body).events) :
    ∃ s' pre, attemptLoop cfg env body = (attempt cfg env body i s').prepend pre ∧
      (i, st) ∈ retries (attempt cfg env body i s').events ∧
      ∀ x ∈ pre, ∀ i', x.index? = some i' → i' < i := by
  have hstop : ∀ s', .handleRetry i st ∈ (attempt cfg env body i s').events →
      (attempt cfg env body i s').flow ≠ .next := by
    intro s' he
    have hr := mem_retries.mpr he
    rcases hst with rfl | rfl
    · rw [((observedAt_attempt cfg env body i s').success_stops hr).1]; simp
    · rw [((observedAt_attempt cfg env body i s').breaker_stops hr).1]; simp
  obtain ⟨s', pre, hloop, he, hpre⟩ :=
    @loop_ends_at cfg env body _ 0 _ i (.handleRetry i st) rfl hstop h
  exact ⟨s', pre, hloop, mem_retries.mpr he, hpre⟩

end Handler

/-- The observer calls of a buffered request, in the order the handler makes them:
`HandleReceivedBytes` once if the body was read, then the `HandleRetry` calls, at most one
`HandleSentBytes`, one `HandleRequest` and one `HandleLatency`. The `HandleRetry` calls come at
most one per index, in increasing index order, between the first and the last attempt; none at
an index whose failure wraps `context.Canceled` (the breaker's `MarkFailed` records the failure
there); `"true"` only for the index whose response is relayed, `"breaker"` only when `Allow`
returned `ErrNotAllowed`, and either is the last `HandleRetry` call. -/
structure ObserverOrder (cfg : Config) (env : Env) (t : List Event) : Prop where
  shape : ∃ (sent : Option Nat) (code : Nat) (err : Option GoError), observed t =
    (match env.readAll with
      | .ok body => [.handleReceivedBytes body.length]
      | .error _ => []) ++
    (retries t).map retryEvent ++ (sent.map Event.handleSentBytes).toList ++
      [.handleRequest code err, .handleLatency]
  increasing : (retries t).Chain' fun r r' => r.1 < r'.1
  bounded : ∀ r ∈ retries t, 0 < r.1 ∧ r.1 < cfg.retryStrategy.attempts
  canceled_silent : ∀ i err, .markFailed i err ∈ t → err.is .canceled = true →
    ∀ st, (i, st) ∉ retries t
  success_relayed : ∀ i, (i, "true") ∈ retries t → ∃ c ∈ calls t, c.index = i ∧
    ∃ resp closed pre, (env.roundTrip c).resp = some resp ∧
      t = pre ++ relay env.clientWrite i resp closed ++ [.handleLatency]
  breaker_refused : ∀ i, (i, "breaker") ∈ retries t →
    ∃ err, env.allow i = some err ∧ err.is .notAllowed = true
  last : ∀ r ∈ retries t, r.2 = "true" ∨ r.2 = "breaker" → (retries t).getLast? = some r

section Order

variable {cfg : Config} {env : Env} {body : List UInt8}

/-- A request whose body cannot be read reports `writeError`'s status and its latency. -/
theorem observerOrder_of_readError {err : GoError} (hbody : env.readAll = .error err) :
    ObserverOrder cfg env (serveBuffered cfg env) := by
  have ht : serveBuffered cfg env = writeError cfg err ++ [.handleLatency] := by
    simp [serveBuffered, hbody]
  have hnil : retries (serveBuffered cfg env) = [] := by
    simp [ht, retries_of_untagged (untagged_writeError cfg err), Event.retry?]
  refine ⟨⟨none, errorStatus err, some err, ?_⟩, ?_, ?_, ?_, ?_, ?_, ?_⟩
  · rw [hnil, ht]
    unfold writeError
    split_ifs <;> simp [observed, Event.isObserver, hbody]
  all_goals simp [hnil]

theorem observed_serveBuffered_of_body (hbody : env.readAll = .ok body)
    (hp : .panic ∉ serveBuffered cfg env) :
    ∃ (sent : Option Nat) (code : Nat) (err : Option GoError), observed (serveBuffered cfg env) =
      [.handleReceivedBytes body.length] ++ (retries (serveBuffered cfg env)).map retryEvent ++
        (sent.map Event.handleSentBytes).toList ++ [.handleRequest code err, .handleLatency] := by
  obtain ⟨ht, hterm⟩ := serveBuffered_of_no_panic hbody hp
  obtain ⟨sent, code, err, hobs⟩ := observed_terminal cfg env _ hterm
  refine ⟨sent, code, err, ?_⟩
  rw [retries_serveBuffered hbody hp, ht]
  simp only [attemptLoop] at hobs ⊢
  simp [observed_loop, hobs, hbody, Event.isObserver]

/-- A `"true"` report comes from the call whose response the handler relays. -/
theorem relayed_of_retry_true (hbody : env.readAll = .ok body)
    (hp : .panic ∉ serveBuffered cfg env) {i : Nat}
    (hi : (i, "true") ∈ retries (serveBuffered cfg env)) :
    ∃ c ∈ calls (serveBuffered cfg env), c.index = i ∧ ∃ resp closed pre,
      (env.roundTrip c).resp = some resp ∧
        serveBuffered cfg env = pre ++ relay env.clientWrite i resp closed ++ [.handleLatency] := by
  obtain ⟨ht, hterm⟩ := serveBuffered_of_no_panic hbody hp
  rw [retries_serveBuffered hbody hp, mem_retries] at hi
  obtain ⟨s', pre, hloop, hr, -⟩ := attemptLoop_ends_at i "true" (.inl rfl) hi
  obtain ⟨-, herr, hlast, c, hc, hci, hresp⟩ :=
    (observedAt_attempt cfg env body i s').success_stops hr
  have hstate : (attemptLoop cfg env body).state = (attempt cfg env body i s').state := by
    rw [hloop]
    rfl
  obtain ⟨resp, hresp', hrel⟩ := terminal_of_ok (hstate ▸ herr) hterm
  refine ⟨c, ?_, hci, resp, (attempt cfg env body i s').state.bodyClosed,
    .handleReceivedBytes body.length :: (attemptLoop cfg env body).events, ?_, ?_⟩
  · rw [calls_serveBuffered hbody, hloop, Step.prepend_events, calls_append]
    exact List.mem_append_right _ hc
  · rw [← hresp, ← hstate, hresp']
  · rw [ht, hrel, hstate, hlast]

/-- A `"breaker"` report comes from an `Allow` that returned `ErrNotAllowed`. -/
theorem allow_refused_of_retry_breaker {i : Nat}
    (hi : (i, "breaker") ∈ retries (attemptLoop cfg env body).events) :
    ∃ err, env.allow i = some err ∧ err.is .notAllowed = true := by
  rw [mem_retries] at hi
  obtain ⟨s', hs'⟩ := atIndex_loop_of_mem cfg env body _ 0 _ hi rfl
  have hi' : .handleRetry i "breaker" ∈ (attempt cfg env body i s').events := by
    rw [← handleRetry_mem_atIndex, ← hs', handleRetry_mem_atIndex]
    exact hi
  exact ((observedAt_attempt cfg env body i s').breaker_stops (mem_retries.mpr hi')).2

/-- A `"true"` or `"breaker"` report is the loop's last. -/
theorem retries_getLast_of_stop {r : Nat × String}
    (hr : r ∈ retries (attemptLoop cfg env body).events) (hst : r.2 = "true" ∨ r.2 = "breaker") :
    (retries (attemptLoop cfg env body).events).getLast? = some r := by
  obtain ⟨i, st⟩ := r
  obtain ⟨s', pre, hloop, hr', -⟩ := attemptLoop_ends_at i st hst (mem_retries.mp hr)
  rcases (observedAt_attempt cfg env body i s').retry_shape with h | ⟨st', -, h⟩ <;>
    rw [h] at hr'
  · cases hr'
  · rw [List.mem_singleton] at hr'
    rw [hloop, Step.prepend_events, retries_append, h, ← hr']
    simp

end Order

/-- The observer calls of a buffered request that does not panic come in the order
`HandleReceivedBytes`, `HandleRetry`..., `HandleSentBytes`, `HandleRequest`,
`HandleLatency`, with the retry reports the metric handler emits. -/
theorem serveBuffered_observer (cfg : Config) (env : Env) (hp : .panic ∉ serveBuffered cfg env) :
    ObserverOrder cfg env (serveBuffered cfg env) := by
  cases hbody : env.readAll with
  | error err => exact observerOrder_of_readError hbody
  | ok body =>
    have hret := retries_serveBuffered hbody hp
    obtain ⟨hchain, hbound⟩ := retries_loop cfg env body _ 0 (State.init env body)
    refine
      { shape := by rw [hbody]; exact observed_serveBuffered_of_body hbody hp
        increasing := hret ▸ hchain
        bounded := fun r hr => ?_
        canceled_silent := fun i err hf hc st => hret ▸
          canceled_loop cfg env body _ 0 _ (mem_attemptLoop_of_index hbody hf rfl) hc st
        success_relayed := fun i hi => relayed_of_retry_true hbody hp hi
        breaker_refused := fun i hi => allow_refused_of_retry_breaker (hret ▸ hi)
        last := fun r hr hst => hret ▸ retries_getLast_of_stop (hret ▸ hr) hst }
    have := hbound r (hret ▸ hr)
    omega

/-- `TestProxy`'s retry, which does not panic, reports in this order. -/
theorem serveBuffered_observer_retryToSuccess :
    .panic ∉ serveBuffered retryableConfig (retryToSuccess [7]) ∧
      ObserverOrder retryableConfig (retryToSuccess [7])
        (serveBuffered retryableConfig (retryToSuccess [7])) :=
  ⟨by decide, serveBuffered_observer _ _ (by decide)⟩

end Goddess.Proxy
