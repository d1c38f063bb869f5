import Goddess.Proxy.Build

/-!
# The buffered handler of `buildEndpoint`

The handler `buildEndpoint` returns (lines 152–297 of `proxy.go`) for an endpoint with
`Stream = false`, as the list of the calls it makes to the world outside it: the observer,
the retry breaker, the transport chain, the response body and the response writer.

Everything the handler asks of the world is a field of `Env`. The retry feature flag, the
breaker's `Allow` and the overall context are consulted at most once per loop index, so
each is a function of the index; the transport chain is a function of the call it receives
and answers the response, the error, and what it left of the request body and of
`reqOpts.LastAttempt`. The attempt loop is a recursion on the number of indices left, one
`attempt` per iteration, and `Flow` says whether the iteration continues, breaks or panics
(a method call on a nil response or body).

Calls made inside the loop carry the index they were made at, and body events name the body
by the index of the call whose response it belongs to; these indices are not arguments of
the Go calls, they record where the calls happen. Timeouts, logging, flushing and the
selector's reply metadata are not modelled.
-/

namespace Goddess.Proxy

/-- What the transport chain receives: the loop index, the request body reader and
`reqOpts.LastAttempt` at the moment of the call. -/
structure Call where
  index : Nat
  body : Reader
  lastAttempt : Bool
  deriving DecidableEq, Repr

/-- What a `tripper.RoundTrip` call returns, with the request-side state it leaves. -/
structure Reply where
  resp : Option Response
  err : Option GoError
  body : Reader
  lastAttempt : Bool

/-- The calls the handler makes, in order: to the observer, to the retry breaker (`allow`
with the answer of `Allow()`, and `MarkSuccess`, `MarkFailed`), to the transport chain, to the
response body and the response writer, the selector's `reqOpts.DoneFunc` (`done`), and a
panic. -/
inductive Event where
  | handleReceivedBytes (n : Nat)
  | handleRetry (i : Nat) (state : String)
  | handleSentBytes (n : Nat)
  | handleRequest (statusCode : Nat) (err : Option GoError)
  | handleLatency
  | allow (i : Nat) (answer : Option GoError)
  | markSuccess (i : Nat)
  | markFailed (i : Nat) (err : GoError)
  | roundTrip (call : Call)
  | closeBody (i : Nat)
  | readBody (i : Nat)
  | setHeader (key : String) (value : List String)
  | writeHeader (statusCode : Nat)
  | write (bytes : List UInt8)
  | done (err : Option GoError)
  | panic
  deriving DecidableEq, Repr

/-- What the handler closes over from `buildEndpoint`, with kratos's `status.ToGRPCCode`, which
`writeError` calls. -/
structure Config where
  endpoint : Endpoint
  retryStrategy : RetryStrategy
  toGRPCCode : Nat → Nat

/-- What one request's handling reads from outside the handler: `io.ReadAll(req.Body)`, the
`LastAttempt` that `middleware.NewRequestOptions` sets, and at each loop index the answers of
`retryFeature.Enabled()`, `retryBreaker.Allow()` and `ctx.Err()`; the transport chain; and what
the response writer's `Write` does with the relayed body: take all of it (`none`), or report how
many bytes it took and an error (the client went away). The breaker is `sre.NewBreaker`
(line 136), whose `Allow` answers nil or `ErrNotAllowed` and nothing else. -/
structure Env where
  readAll : Except GoError (List UInt8)
  lastAttempt : Bool
  retryEnabled : Nat → Bool
  allow : Nat → Option GoError
  ctxErr : Nat → Option GoError
  roundTrip : Call → Reply
  clientWrite : Option (Nat × GoError)
  allow_notAllowed : ∀ i err, allow i = some err → err.is .notAllowed = true

/-- The `success` and `breaker` functions of `splitRetryMetricsHandler`. -/
def retryStat (state : String) (i : Nat) : List Event :=
  if i ≤ 0 then [] else [.handleRetry i state]

/-- The `success` function of `splitRetryMetricsHandler`. -/
def markSuccessStat (i : Nat) : List Event := retryStat "true" i

/-- The `breaker` function of `splitRetryMetricsHandler`. -/
def markBreakerStat (i : Nat) : List Event := retryStat "breaker" i

/-- The `failed` function of `splitRetryMetricsHandler`: it alone also skips a cancellation. -/
def markFailedStat (i : Nat) (err : GoError) : List Event :=
  if i ≤ 0 then [] else if err.is .canceled then [] else [.handleRetry i "false"]

/-- The `markSuccess` closure of `buildEndpoint`. -/
def markSuccess (i : Nat) : List Event :=
  markSuccessStat i ++ if i > 0 then [.markSuccess i] else []

/-- The `markFailed` closure of `buildEndpoint`. -/
def markFailed (i : Nat) (err : GoError) : List Event :=
  markFailedStat i err ++ if i > 0 then [.markFailed i err] else []

/-- The `markBreaker` closure of `buildEndpoint`. -/
def markBreaker (i : Nat) : List Event := markBreakerStat i

@[simp] theorem markSuccess_zero : markSuccess 0 = [] := rfl

@[simp] theorem markFailed_zero (err : GoError) : markFailed 0 err = [] := rfl

@[simp] theorem markSuccess_succ (j : Nat) :
    markSuccess (j + 1) = [.handleRetry (j + 1) "true", .markSuccess (j + 1)] := by
  simp [markSuccess, markSuccessStat, retryStat]

@[simp] theorem markFailed_succ (j : Nat) (err : GoError) :
    markFailed (j + 1) err = (if err.is .canceled then [] else [.handleRetry (j + 1) "false"]) ++
      [.markFailed (j + 1) err] := by
  simp [markFailed, markFailedStat]

@[simp] theorem markBreaker_succ (j : Nat) :
    markBreaker (j + 1) = [.handleRetry (j + 1) "breaker"] := by
  simp [markBreaker, markBreakerStat, retryStat]

/-- The error `markFailed` receives for a retriable response: `errors.New("assertion failed")`. -/
def assertionFailed : GoError := .text "assertion failed"

/-- The status `writeError` maps an error to. -/
def errorStatus (err : GoError) : Nat :=
  if err.is .canceled || err.error == "client disconnected" then 499
  else if err.is .deadlineExceeded then 504
  else 502

/-- Go's `writeError` (`error_handler.go`). -/
def writeError (cfg : Config) (err : GoError) : List Event :=
  .handleRequest (errorStatus err) (some err) ::
    if cfg.endpoint.protocol = .GRPC then
      [.setHeader "Content-Type" ["application/grpc"],
        .setHeader "Grpc-Status" [toString (cfg.toGRPCCode (errorStatus err))],
        .setHeader "Grpc-Message" [err.error], .writeHeader 200]
    else [.writeHeader (errorStatus err)]

/-- The Go variables the attempt loop reads and writes. `last` is the index of the call
that set `resp`, and `bodyClosed` whether `resp.Body` has been closed. -/
structure State where
  err : Option GoError
  resp : Option Response
  last : Nat
  bodyClosed : Bool
  lastAttempt : Bool
  body : Reader

/-- How a loop iteration ends. -/
inductive Flow where
  | next
  | stop
  | panic
  deriving DecidableEq, Repr

/-- One iteration, or a run of them: how it ends, the state it leaves, the calls it made. -/
structure Step where
  flow : Flow
  state : State
  events : List Event

/-- The step that made the calls `es` before those of `a`. -/
def Step.prepend (es : List Event) (a : Step) : Step := ⟨a.flow, a.state, es ++ a.events⟩

@[simp] theorem Step.prepend_flow (es : List Event) (a : Step) : (a.prepend es).flow = a.flow := rfl
@[simp] theorem Step.prepend_state (es : List Event) (a : Step) :
    (a.prepend es).state = a.state := rfl
@[simp] theorem Step.prepend_events (es : List Event) (a : Step) :
    (a.prepend es).events = es ++ a.events := rfl

@[simp] theorem Step.prepend_nil (a : Step) : a.prepend [] = a := rfl

theorem Step.prepend_prepend (es es' : List Event) (a : Step) :
    (a.prepend es').prepend es = a.prepend (es ++ es') := by
  simp [Step.prepend]

section Loop

variable (cfg : Config) (env : Env) (body : List UInt8)

/-- The call index `i` makes: a fresh reader over the client's bytes (line 233), and
`LastAttempt` set once `i + 1 >= attempts` (line 222). -/
def callAt (i : Nat) (s : State) : Call :=
  ⟨i, Reader.ofBytes body, s.lastAttempt || decide (cfg.retryStrategy.attempts ≤ i + 1)⟩

@[simp] theorem callAt_index (i : Nat) (s : State) : (callAt cfg body i s).index = i := rfl

/-- The state once the call at index `i` has returned `r`. -/
def State.ofReply (i : Nat) (r : Reply) : State := ⟨r.err, r.resp, i, false, r.lastAttempt, r.body⟩

/-- Lines 235–247: what the loop does with the reply `r` to the call at index `i`. -/
def handleReply (i : Nat) (call : Call) (r : Reply) : Step :=
  match r.err with
  | some err => ⟨.next, State.ofReply i r, .roundTrip call :: markFailed i err⟩
  | none =>
    if !cfg.retryStrategy.retryRequired r.resp then
      ⟨.stop, { State.ofReply i r with lastAttempt := true }, .roundTrip call :: markSuccess i⟩
    else
      match r.resp.bind Response.body with
      | some _ =>
        ⟨.next, { State.ofReply i r with bodyClosed := true },
          .roundTrip call :: (markFailed i assertionFailed ++ [.closeBody i])⟩
      | none => ⟨.panic, State.ofReply i r, .roundTrip call :: markFailed i assertionFailed⟩

/-- Lines 222–247: the attempt at index `i`, once it is past the retry gate. -/
def tryAttempt (i : Nat) (s : State) : Step :=
  match env.ctxErr i with
  | some err =>
    ⟨.stop, { s with err := some err, lastAttempt := (callAt cfg body i s).lastAttempt },
      markFailed i err⟩
  | none => handleReply cfg i (callAt cfg body i s) (env.roundTrip (callAt cfg body i s))

/-- One iteration of the attempt loop (lines 208–247). The breaker's own `err` is scoped to
its `if`, so a refusal leaves the loop's `err` as it was. -/
def attempt (i : Nat) (s : State) : Step :=
  if 0 < i then
    if !env.retryEnabled i then ⟨.stop, s, []⟩
    else
      match env.allow i with
      | some err =>
        ⟨.stop, s, .allow i (some err) ::
          if err.is .notAllowed then markBreaker i else markFailed i err⟩
      | none => (tryAttempt cfg env body i s).prepend [.allow i none]
  else tryAttempt cfg env body i s

/-- The attempt loop from index `i` with `k` indices left (`k = attempts - i`). -/
def loop : Nat → Nat → State → Step
  | 0, _, s => ⟨.next, s, []⟩
  | k + 1, i, s =>
    let a := attempt cfg env body i s
    match a.flow with
    | .next => (loop k (i + 1) a.state).prepend a.events
    | _ => a

@[simp] theorem loop_zero (i : Nat) (s : State) : loop cfg env body 0 i s = ⟨.next, s, []⟩ := rfl

theorem loop_succ (k i : Nat) (s : State) :
    loop cfg env body (k + 1) i s =
      if (attempt cfg env body i s).flow = .next then
        (loop cfg env body k (i + 1) (attempt cfg env body i s).state).prepend
          (attempt cfg env body i s).events
      else attempt cfg env body i s := by
  simp only [loop]
  split <;> simp_all

end Loop

/-- Go's `http.TrailerPrefix`. -/
def trailerPrefix : String := "Trailer:"

/-- The error a read of a closed `net/http` response body returns. -/
def errReadOnClosedResBody : GoError := .text "http: read on closed response body"

/-- Lines 270–294, `doCopyBody`, for the response of call `i`, given what the response
writer's `Write` does (`w`): its calls and its error. `io.Copy` makes no `Write` for an empty
body, and on a failed `Write` counts the bytes it reports taking, unless it reports more than it
was given. The deferred `resp.Body.Close()` comes last. -/
def doCopyBody (w : Option (Nat × GoError)) (i : Nat) (resp : Response) (closed : Bool) :
    List Event × Option GoError :=
  match resp.body with
  | none => ([], none)
  | some b =>
    if closed && !b.readableAfterClose then
      ([.readBody i, .handleSentBytes 0, .done (some errReadOnClosedResBody), .closeBody i],
        some errReadOnClosedResBody)
    else
      match b.content, w with
      | [], _ =>
        ([.readBody i, .handleSentBytes 0, .done none] ++
          resp.trailer.map (fun kv => .setHeader (trailerPrefix ++ kv.1) kv.2) ++ [.closeBody i],
          none)
      | content, none =>
        ([.readBody i, .write content, .handleSentBytes content.length, .done none] ++
          resp.trailer.map (fun kv => .setHeader (trailerPrefix ++ kv.1) kv.2) ++ [.closeBody i],
          none)
      | content, some (n, err) =>
        ([.readBody i, .write content,
          .handleSentBytes (if n ≤ content.length then n else 0), .done (some err), .closeBody i],
          some err)

/-- The calls `doCopyBody` makes: to the body, to the response writer's `Write` and header map
(the trailers), to the observer's `HandleSentBytes` and to `DoneFunc`. -/
theorem mem_doCopyBody {w : Option (Nat × GoError)} {i : Nat} {resp : Response} {closed : Bool}
    {x : Event} (hx : x ∈ (doCopyBody w i resp closed).1) :
    x = .readBody i ∨ x = .closeBody i ∨ (∃ b, x = .write b) ∨ (∃ n, x = .handleSentBytes n) ∨
      (∃ e, x = .done e) ∨ ∃ k v, x = .setHeader k v := by
  unfold doCopyBody at hx
  split at hx
  · cases hx
  split_ifs at hx
  · simp only [List.mem_cons, List.mem_singleton, List.not_mem_nil, or_false] at hx
    rcases hx with rfl | rfl | rfl | rfl <;> simp
  split at hx <;> simp only [List.mem_append, List.mem_cons, List.mem_map, List.not_mem_nil,
    or_false] at hx
  · rcases hx with ((rfl | rfl | rfl) | ⟨_, -, rfl⟩) | rfl <;> simp
  · rcases hx with ((rfl | rfl | rfl | rfl) | ⟨_, -, rfl⟩) | rfl <;> simp
  · rcases hx with rfl | rfl | rfl | rfl | rfl <;> simp

/-- Whether `net/http`'s `checkWriteHeaderCode` lets `WriteHeader(code)` through; it panics on
a code outside 100–999. -/
def checkWriteHeaderCode (code : Nat) : Bool := 100 ≤ code && code ≤ 999

/-- Lines 254–296: the relay of `resp`, the response of call `i`. `WriteHeader` panics on a
status `checkWriteHeaderCode` refuses, before any byte of the body is copied. -/
def relay (w : Option (Nat × GoError)) (i : Nat) (resp : Response) (closed : Bool) :
    List Event :=
  resp.header.map (fun kv => .setHeader kv.1 kv.2) ++
    if checkWriteHeaderCode resp.statusCode then
      .writeHeader resp.statusCode :: ((doCopyBody w i resp closed).1 ++
        [.handleRequest resp.statusCode (doCopyBody w i resp closed).2])
    else [.panic]

/-- Lines 249–296: what the handler does once the loop is left. A nil `resp` panics at
`resp.Header`. -/
def terminal (cfg : Config) (env : Env) (s : State) : List Event :=
  match s.err with
  | some err => writeError cfg err
  | none =>
    match s.resp with
    | none => [.panic]
    | some resp => relay env.clientWrite s.last resp s.bodyClosed

/-- The loop state after `io.ReadAll`: `err` nil, `resp` nil, `req.Body` read to its end. -/
def State.init (env : Env) (body : List UInt8) : State :=
  ⟨none, none, 0, false, env.lastAttempt, ⟨body, body.length⟩⟩

/-- The loop a request with client bytes `body` runs. -/
def attemptLoop (cfg : Config) (env : Env) (body : List UInt8) : Step :=
  loop cfg env body cfg.retryStrategy.attempts 0 (State.init env body)

/-- The handler for a buffered endpoint. The deferred `observer.HandleLatency` runs last,
also when the handler panics. -/
def serveBuffered (cfg : Config) (env : Env) : List Event :=
  match env.readAll with
  | .error err => writeError cfg err ++ [.handleLatency]
  | .ok body =>
    .handleReceivedBytes body.length :: (attemptLoop cfg env body).events ++
      (match (attemptLoop cfg env body).flow with
        | .panic => [.panic]
        | _ => terminal cfg env (attemptLoop cfg env body).state) ++ [.handleLatency]

theorem serveBuffered_of_body {cfg : Config} {env : Env} {body : List UInt8}
    (hbody : env.readAll = .ok body) :
    serveBuffered cfg env = .handleReceivedBytes body.length :: (attemptLoop cfg env body).events ++
      (match (attemptLoop cfg env body).flow with
        | .panic => [.panic]
        | _ => terminal cfg env (attemptLoop cfg env body).state) ++ [.handleLatency] := by
  unfold serveBuffered
  rw [hbody]

/-- The `/retryable` endpoint of `TestProxy`: three attempts, retried on a status in 500–504. -/
def retryableConfig : Config :=
  ⟨⟨.HTTP, "/retryable", "POST", "", false, []⟩,
    ⟨3, fun resp => resp.any fun r => decide (500 ≤ r.statusCode ∧ r.statusCode ≤ 504)⟩,
    fun _ => 2⟩

/-- The upstream of `TestProxy` for a request with body `b`: a 500 first, then a 200 whose
body echoes the request body. -/
def retryToSuccess (b : List UInt8) : Env where
  readAll := .ok b
  lastAttempt := false
  retryEnabled := fun _ => true
  allow := fun _ => none
  ctxErr := fun _ => none
  roundTrip := fun c =>
    ⟨some ⟨if c.index = 0 then 500 else 200, [], some ⟨c.body.rest, true⟩, []⟩, none, c.body,
      c.lastAttempt⟩
  clientWrite := none
  allow_notAllowed := nofun

/-- The run `TestProxy` checks: one retry, reported as `"true"`, and the echoed body relayed. -/
example : serveBuffered retryableConfig (retryToSuccess [7]) =
    [.handleReceivedBytes 1, .roundTrip ⟨0, ⟨[7], 0⟩, false⟩, .closeBody 0, .allow 1 none,
      .roundTrip ⟨1, ⟨[7], 0⟩, false⟩, .handleRetry 1 "true", .markSuccess 1, .writeHeader 200,
      .readBody 1, .write [7], .handleSentBytes 1, .done none, .closeBody 1,
      .handleRequest 200 none, .handleLatency] := by decide

end Goddess.Proxy
