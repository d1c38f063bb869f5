import Goddess.Proxy.Loop

/-!
# The relayed response

After the loop, with `err` nil, the handler relays `resp`, the response of the last call:
headers, status, then `doCopyBody`, whose deferred `resp.Body.Close()` closes the body.
For a retriable response the loop has already run `resp.Body.Close()` (line 246) before
moving on, so when the loop ends on such a response (the attempts run out, or the retry gate
or the breaker cuts it) the relay copies from a closed body and closes it a second time.

The run facts come from `loop_last_call`: the loop's final state and flow are those the
reply to its last call leaves.
-/

namespace Goddess.Proxy

/-- A reply with no error and a retriable response with a body: the loop closes the body
and goes on (lines 245–246). -/
def Closes (cfg : Config) (r : Reply) : Prop :=
  r.err = none ∧ cfg.retryStrategy.retryRequired r.resp = true ∧
    (r.resp.bind Response.body).isSome

instance (cfg : Config) (r : Reply) : Decidable (Closes cfg r) :=
  inferInstanceAs (Decidable (_ ∧ _ ∧ _))

theorem handleReply_of_closes {cfg : Config} {i : Nat} {c : Call} {r : Reply}
    (h : Closes cfg r) :
    handleReply cfg i c r = ⟨.next, { State.ofReply i r with bodyClosed := true },
      .roundTrip c :: (markFailed i assertionFailed ++ [.closeBody i])⟩ := by
  obtain ⟨he, hr, hb⟩ := h
  obtain ⟨b, hb⟩ := Option.isSome_iff_exists.mp hb
  simp [handleReply, he, hr, hb]

theorem Closes.resp_body {cfg : Config} {r : Reply} (h : Closes cfg r) :
    ∃ resp b, r.resp = some resp ∧ resp.body = some b := by
  obtain ⟨-, -, hb⟩ := h
  cases hr : r.resp with
  | none => simp [hr] at hb
  | some resp =>
    obtain ⟨b, hb⟩ := Option.isSome_iff_exists.mp (by simpa [hr] using hb)
    exact ⟨resp, b, rfl, hb⟩

/-- The relay of a response with a body and a status `WriteHeader` accepts closes it. -/
theorem closeBody_mem_relay {resp : Response} {b : Body} (hb : resp.body = some b)
    (hc : checkWriteHeaderCode resp.statusCode = true) (w : Option (Nat × GoError)) (i : Nat)
    (closed : Bool) : .closeBody i ∈ relay w i resp closed := by
  simp only [relay, hc, if_true, doCopyBody, hb]
  split_ifs
  · simp
  · split <;> simp

/-- The relay of a closed body that refuses reads writes nothing and, past `WriteHeader`,
reports the read error. -/
theorem relay_closed_unreadable {resp : Response} {b : Body} (hb : resp.body = some b)
    (hr : b.readableAfterClose = false) (w : Option (Nat × GoError)) (i : Nat) :
    (∀ bytes, .write bytes ∉ relay w i resp true) ∧
      (checkWriteHeaderCode resp.statusCode = true →
        .done (some errReadOnClosedResBody) ∈ relay w i resp true) := by
  unfold relay
  split_ifs with hc <;> simp_all [doCopyBody]

@[simp] theorem write_not_mem_markFailed (i : Nat) (err : GoError) (bytes : List UInt8) :
    .write bytes ∉ markFailed i err := by
  unfold markFailed markFailedStat; split_ifs <;> simp

@[simp] theorem write_not_mem_markSuccess (i : Nat) (bytes : List UInt8) :
    .write bytes ∉ markSuccess i := by
  unfold markSuccess markSuccessStat retryStat; split_ifs <;> simp

@[simp] theorem write_not_mem_markBreaker (i : Nat) (bytes : List UInt8) :
    .write bytes ∉ markBreaker i := by
  unfold markBreaker markBreakerStat retryStat; split_ifs <;> simp

@[simp] theorem write_not_mem_allowEvents (i : Nat) (bytes : List UInt8) :
    .write bytes ∉ allowEvents i := by
  unfold allowEvents; split_ifs <;> simp

section Cases

variable (cfg : Config) (env : Env) (body : List UInt8)

/-- The loop writes nothing to the client. -/
theorem write_not_mem_attempt (i : Nat) (s : State) (bytes : List UInt8) :
    .write bytes ∉ (attempt cfg env body i s).events := by
  rcases attempt_cases cfg env body i s with ⟨-, -, ha⟩ | ⟨-, -, err, -, ha⟩ |
    ⟨-, err, -, ha⟩ | ⟨-, ha⟩ <;> rw [ha]
  · simp
  · split_ifs <;> simp
  · simp
  · rcases handleReply_cases cfg i (callAt cfg body i s) (env.roundTrip (callAt cfg body i s))
      with ⟨err, -, h⟩ | ⟨-, h⟩ | ⟨-, -, h⟩ | ⟨-, h⟩ <;> rw [h] <;> simp

end Cases

section Runs

variable (cfg : Config) (env : Env) (body : List UInt8)

theorem write_not_mem_loop (k i : Nat) (s : State) (bytes : List UInt8) :
    .write bytes ∉ (loop cfg env body k i s).events := by
  induction k generalizing i s with
  | zero => simp
  | succ k ih =>
    rw [loop_succ]
    split_ifs
    · simp only [Step.prepend_events, List.mem_append, not_or]
      exact ⟨write_not_mem_attempt cfg env body i s bytes, ih _ _⟩
    · exact write_not_mem_attempt cfg env body i s bytes

end Runs

/-- A retriable response left when the loop ends is relayed after the loop closed its body.
Past `WriteHeader`, which panics on a status outside 100–999, the relay reads a closed body
and closes it a second time, and a body that serves no reads once closed reaches the client
with none of its bytes. -/
theorem serveBuffered_relays_closed_body (cfg : Config) (env : Env) (body : List UInt8)
    (c : Call) (hbody : env.readAll = .ok body)
    (hlast : (calls (attemptLoop cfg env body).events).getLast? = some c)
    (hcl : Closes cfg (env.roundTrip c))
    (he : (attemptLoop cfg env body).state.err = none) :
    ∃ resp b, (env.roundTrip c).resp = some resp ∧ resp.body = some b ∧
      serveBuffered cfg env = .handleReceivedBytes body.length ::
        (attemptLoop cfg env body).events ++ relay env.clientWrite c.index resp true ++
          [.handleLatency] ∧
      .closeBody c.index ∈ (attemptLoop cfg env body).events ∧
      (checkWriteHeaderCode resp.statusCode = true →
        2 ≤ (serveBuffered cfg env).count (.closeBody c.index) ∧
        (b.readableAfterClose = false →
          (∀ bytes, .write bytes ∉ serveBuffered cfg env) ∧
          .done (some errReadOnClosedResBody) ∈ serveBuffered cfg env)) := by
  obtain ⟨hst, hfl, pre, post, hev⟩ := loop_last_call cfg env body _ 0 _ hlast he
  rw [handleReply_of_closes hcl] at hst hfl hev
  obtain ⟨resp, b, hresp, hb⟩ := hcl.resp_body
  have hterm : serveBuffered cfg env = .handleReceivedBytes body.length ::
      (attemptLoop cfg env body).events ++ relay env.clientWrite c.index resp true ++
        [.handleLatency] := by
    have hs : (attemptLoop cfg env body).state =
        { State.ofReply c.index (env.roundTrip c) with bodyClosed := true } := hst
    rw [serveBuffered_of_body hbody]
    cases hf : (attemptLoop cfg env body).flow
    case panic => exact absurd (hfl hf) (by simp)
    all_goals simp [terminal, hs, State.ofReply, hcl.1, hresp]
  have hclosed : .closeBody c.index ∈ (attemptLoop cfg env body).events := by
    unfold attemptLoop
    simp [hev]
  refine ⟨resp, b, hresp, hb, hterm, hclosed, fun hc => ⟨?_, fun hr => ?_⟩⟩
  · rw [hterm, List.count_append, List.count_append, List.count_cons]
    have h1 := List.count_pos_iff.mpr hclosed
    have h2 := List.count_pos_iff.mpr (closeBody_mem_relay hb hc env.clientWrite c.index true)
    omega
  · obtain ⟨hw, hd⟩ := relay_closed_unreadable hb hr env.clientWrite c.index
    have hwl := write_not_mem_loop cfg env body cfg.retryStrategy.attempts 0 (State.init env body)
    rw [hterm]
    simp [hw, hd hc, attemptLoop, hwl]

/-- An upstream that answers every call with a 503 whose body, like a `net/http` body, serves
no reads once closed. -/
def alwaysUnavailable : Env where
  readAll := .ok [7]
  lastAttempt := false
  retryEnabled := fun _ => true
  allow := fun _ => none
  ctxErr := fun _ => none
  roundTrip := fun c => ⟨some ⟨503, [], some ⟨[5, 0, 3], false⟩, []⟩, none, c.body, c.lastAttempt⟩
  clientWrite := none
  allow_notAllowed := nofun

/-- With the three attempts of `retryableConfig`, the 503 of the third call is relayed after
the loop closed its body: the client gets the status without the body `[5, 0, 3]`, and the
body is closed twice. -/
theorem serveBuffered_relays_closed_body_unavailable :
    alwaysUnavailable.readAll = .ok [7] ∧
    (calls (attemptLoop retryableConfig alwaysUnavailable [7]).events).getLast? =
      some ⟨2, ⟨[7], 0⟩, true⟩ ∧
    Closes retryableConfig (alwaysUnavailable.roundTrip ⟨2, ⟨[7], 0⟩, true⟩) ∧
    (attemptLoop retryableConfig alwaysUnavailable [7]).state.err = none ∧
    ∃ resp b, (alwaysUnavailable.roundTrip ⟨2, ⟨[7], 0⟩, true⟩).resp = some resp ∧
      resp.body = some b ∧
      serveBuffered retryableConfig alwaysUnavailable = .handleReceivedBytes [7].length ::
        (attemptLoop retryableConfig alwaysUnavailable [7]).events ++
          relay alwaysUnavailable.clientWrite 2 resp true ++ [.handleLatency] ∧
      .closeBody 2 ∈ (attemptLoop retryableConfig alwaysUnavailable [7]).events ∧
      (checkWriteHeaderCode resp.statusCode = true →
        2 ≤ (serveBuffered retryableConfig alwaysUnavailable).count (.closeBody 2) ∧
        (b.readableAfterClose = false →
          (∀ bytes, .write bytes ∉ serveBuffered retryableConfig alwaysUnavailable) ∧
          .done (some errReadOnClosedResBody) ∈
            serveBuffered retryableConfig alwaysUnavailable)) :=
  ⟨rfl, by decide, by decide, by decide,
    serveBuffered_relays_closed_body retryableConfig alwaysUnavailable [7] ⟨2, ⟨[7], 0⟩, true⟩ rfl
      (by decide) (by decide) (by decide)⟩

/-- The run itself: every body is closed by the loop, and the relay of the last one reads it
after the close, sends no byte and closes it again. -/
example : serveBuffered retryableConfig alwaysUnavailable =
    [.handleReceivedBytes 1, .roundTrip ⟨0, ⟨[7], 0⟩, false⟩, .closeBody 0, .allow 1 none,
      .roundTrip ⟨1, ⟨[7], 0⟩, false⟩, .handleRetry 1 "false", .markFailed 1 assertionFailed,
      .closeBody 1, .allow 2 none, .roundTrip ⟨2, ⟨[7], 0⟩, true⟩, .handleRetry 2 "false",
      .markFailed 2 assertionFailed, .closeBody 2, .writeHeader 503, .readBody 2,
      .handleSentBytes 0, .done (some errReadOnClosedResBody), .closeBody 2,
      .handleRequest 503 (some errReadOnClosedResBody), .handleLatency] := by
  decide

end Goddess.Proxy
