import Goddess.Basic

/-!
# When a stream request's `OnFinish` hooks run

In stream mode the handler creates a `MetaStreamContext`. `wrapStreamRequestBody` wraps the
request body before the round trip; `wrapStreamResponseBody`, from `builtinStreamTripper`,
wraps the response body once the upstream has answered. Each wrap calls `RegisterBody`. The
first `Close` of a wrapped body (its `doneOnce`) calls `notifyBodyClosed`, and when that finds
`closedCount >= bodiesCount > 0` the `OnFinish` hooks run, at most once (`finishOnce`).

A trace is the order of the wraps and the closes; one `Close` is one step. The counters are
`int32` in Go and `Nat` here. `DoOnFinish`, which the handler defers, is not under `src/`.
-/

namespace Goddess.Middleware

/-- The fields of `MetaStreamContext` that decide when the hooks run; `finished` is whether
`finishOnce.Do` has run. -/
structure MetaStreamContext where
  bodiesCount : Nat
  closedCount : Nat
  finished : Bool
  deriving DecidableEq, Repr

/-- Go's `RegisterBody`. -/
def MetaStreamContext.registerBody (s : MetaStreamContext) : MetaStreamContext :=
  { s with bodiesCount := s.bodiesCount + 1 }

/-- Go's `notifyBodyClosed`: the context after the increment, and whether every body it
counts is closed. -/
def MetaStreamContext.notifyBodyClosed (s : MetaStreamContext) : MetaStreamContext × Bool :=
  ({ s with closedCount := s.closedCount + 1 },
    decide (s.bodiesCount ≤ s.closedCount + 1) && decide (0 < s.bodiesCount))

/-- A stream request: its context and the `doneOnce` of each wrapped body, in wrap order. -/
structure Stream where
  ctx : MetaStreamContext
  done : List Bool
  deriving DecidableEq, Repr

/-- A step of a stream request: a body is wrapped, or the `b`-th wrapped body is closed. -/
inductive StreamEvent where
  | wrap
  | close (b : Nat)
  deriving DecidableEq, Repr

/-- `WrapReadCloserBody` and `WrapReadWriteCloserBody`: `RegisterBody`, and a new body. -/
def Stream.wrap (st : Stream) : Stream := ⟨st.ctx.registerBody, st.done ++ [false]⟩

/-- `Close` of the `b`-th wrapped body (of either wrapper); the `Bool` says whether the
`OnFinish` hooks ran. A body already closed, or never wrapped, changes nothing. -/
def Stream.close (st : Stream) (b : Nat) : Stream × Bool :=
  if st.done.getD b true then (st, false)
  else if st.ctx.notifyBodyClosed.2 && !st.ctx.finished then
    (⟨{ st.ctx.notifyBodyClosed.1 with finished := true }, st.done.set b true⟩, true)
  else (⟨st.ctx.notifyBodyClosed.1, st.done.set b true⟩, false)

/-- One step; the `Bool` says whether the `OnFinish` hooks ran. -/
def Stream.step (st : Stream) : StreamEvent → Stream × Bool
  | .wrap => (st.wrap, false)
  | .close b => st.close b

/-- The positions, counted from `k`, of the steps of a trace at which the hooks ran. -/
def Stream.finishes : Stream → List StreamEvent → Nat → List Nat
  | _, [], _ => []
  | st, e :: es, k =>
    (if (st.step e).2 then [k] else []) ++ Stream.finishes (st.step e).1 es (k + 1)

@[simp] theorem Stream.step_wrap (st : Stream) : st.step .wrap = (st.wrap, false) := rfl

@[simp] theorem Stream.step_close (st : Stream) (b : Nat) : st.step (.close b) = st.close b := rfl

/-- `&middleware.MetaStreamContext{}`, with no body wrapped. -/
def Stream.init : Stream := ⟨⟨0, 0, false⟩, []⟩

/-- Once the hooks have run, a step runs them no more. -/
theorem Stream.step_of_finished {st : Stream} (h : st.ctx.finished = true) (e : StreamEvent) :
    (st.step e).1.ctx.finished = true ∧ (st.step e).2 = false := by
  cases e with
  | wrap => exact ⟨h, rfl⟩
  | close b =>
    rw [step_close, close]
    split_ifs <;> simp_all [MetaStreamContext.notifyBodyClosed]

theorem Stream.finishes_of_finished {st : Stream} (h : st.ctx.finished = true)
    (es : List StreamEvent) (k : Nat) : st.finishes es k = [] := by
  induction es generalizing st k with
  | nil => rfl
  | cons e es ih =>
    obtain ⟨hf, hn⟩ := step_of_finished h e
    simp [finishes, hn, ih hf]

/-- A request body wrapped and then closed runs the hooks at that close, whatever follows:
a response body wrapped later is not closed when they run, and they never run again. -/
theorem onFinish_at_request_close (rest : List StreamEvent) :
    Stream.init.finishes ([.wrap, .close 0] ++ rest) 0 = [1] := by
  have hstep : (Stream.init.wrap.close 0) =
      (⟨⟨1, 1, true⟩, [true]⟩, true) := rfl
  simp [Stream.finishes, Stream.step, hstep, Stream.finishes_of_finished]

/-- The state a trace leads to. -/
def Stream.run (st : Stream) (es : List StreamEvent) : Stream := es.foldl (fun st e => (st.step e).1) st

/-- The hooks have run once the trace is over exactly when they ran at one of its steps. -/
theorem Stream.step_finished (st : Stream) (e : StreamEvent) :
    (st.step e).1.ctx.finished = (st.ctx.finished || (st.step e).2) ∧
      ((st.step e).2 = true → st.ctx.finished = false) := by
  cases e with
  | wrap => simp [wrap, MetaStreamContext.registerBody]
  | close b =>
    rw [step_close, close]
    split_ifs <;> simp_all [MetaStreamContext.notifyBodyClosed]

theorem Stream.finishes_length (st : Stream) (es : List StreamEvent) (k : Nat) :
    (st.finishes es k).length + st.ctx.finished.toNat = (st.run es).ctx.finished.toNat := by
  induction es generalizing st k with
  | nil => simp [finishes, run]
  | cons e es ih =>
    obtain ⟨hf, hnew⟩ := st.step_finished e
    have := ih (st.step e).1 (k + 1)
    simp only [finishes, run, List.foldl_cons, List.length_append] at this ⊢
    rw [← this, hf]
    cases h : (st.step e).2 <;> cases hst : st.ctx.finished <;> simp_all [Nat.add_comm]

/-- The context counts the wrapped bodies and the closed ones, and until the hooks have run a
wrapped body is still open, or none is wrapped. -/
structure Stream.Counted (st : Stream) : Prop where
  bodies : st.ctx.bodiesCount = st.done.length
  closed : st.ctx.closedCount = st.done.countP id
  pending : st.ctx.finished = false →
    st.ctx.closedCount < st.ctx.bodiesCount ∨ st.ctx.bodiesCount = 0

theorem Stream.counted_init : Stream.init.Counted := ⟨rfl, rfl, fun _ => .inr rfl⟩

theorem Stream.counted_step {st : Stream} (h : st.Counted) (e : StreamEvent) :
    (st.step e).1.Counted := by
  obtain ⟨hb, hc, hp⟩ := h
  cases e with
  | wrap =>
    have hle : st.done.countP id ≤ st.done.length := List.countP_le_length _
    refine ⟨by simp [wrap, MetaStreamContext.registerBody, hb],
      by simp [wrap, MetaStreamContext.registerBody, hc], fun _ => .inl ?_⟩
    simp only [step_wrap, wrap, MetaStreamContext.registerBody]
    omega
  | close b =>
    rw [step_close, close]
    by_cases hd : st.done.getD b true = true
    · rw [if_pos hd]
      exact ⟨hb, hc, hp⟩
    rw [if_neg hd]
    have hget : st.done[b]? = some false := by
      rw [List.getD_eq_getElem?_getD] at hd
      cases hb' : st.done[b]? <;> simp_all
    have hset := countP_set_add id hget true
    simp only [id, Bool.toNat_false, Bool.toNat_true] at hset
    have hpos : 0 < st.done.length := Nat.lt_of_le_of_lt (Nat.zero_le _)
      (List.getElem?_eq_some_iff.1 hget).1
    have hcount : (st.done.set b true).countP id = st.ctx.closedCount + 1 := by omega
    split_ifs with hrun
    · exact ⟨by simp [MetaStreamContext.notifyBodyClosed, hb], hcount.symm, fun hf => by cases hf⟩
    · refine ⟨by simp [MetaStreamContext.notifyBodyClosed, hb], hcount.symm, fun hf => ?_⟩
      dsimp only [MetaStreamContext.notifyBodyClosed] at hf hrun ⊢
      simp only [hf, Bool.not_false, Bool.and_true, Bool.and_eq_true, decide_eq_true_eq,
        not_and, not_lt] at hrun
      omega

theorem Stream.counted_run {st : Stream} (h : st.Counted) (es : List StreamEvent) :
    (st.run es).Counted := by
  induction es generalizing st with
  | nil => exact h
  | cons e es ih => exact ih (counted_step h e)

/-- Once every wrapped body, and at least one, has been closed, the hooks have run, and run
once. -/
theorem onFinish_once_all_closed (es : List StreamEvent)
    (hclosed : ∀ d ∈ (Stream.init.run es).done, d = true) (hne : (Stream.init.run es).done ≠ []) :
    (Stream.init.finishes es 0).length = 1 := by
  have hlen := Stream.init.finishes_length es 0
  obtain ⟨hb, hc, hp⟩ := Stream.counted_run Stream.counted_init es
  have hall : (Stream.init.run es).done.countP id = (Stream.init.run es).done.length :=
    List.countP_eq_length.2 fun d hd => by simpa using hclosed d hd
  have hfin : (Stream.init.run es).ctx.finished = true := by
    cases hf : (Stream.init.run es).ctx.finished
    · have := List.length_pos.2 hne
      have := hp hf
      omega
    · rfl
  rw [hfin] at hlen
  simpa [Stream.init] using hlen

theorem onFinish_once_all_closed_request :
    (∀ d ∈ (Stream.init.run [.wrap, .close 0]).done, d = true) ∧
      (Stream.init.run [.wrap, .close 0]).done ≠ [] ∧
      (Stream.init.finishes [.wrap, .close 0] 0).length = 1 :=
  ⟨by decide, by decide, onFinish_once_all_closed _ (by decide) (by decide)⟩

/-- The order a stream request with a body allows when the transport closes the request body
as soon as it is sent: the hooks run at step 1, before the response body is wrapped (step 2)
and closed (step 3). -/
example : Stream.init.finishes [.wrap, .close 0, .wrap, .close 1] 0 = [1] := by decide

end Goddess.Middleware
