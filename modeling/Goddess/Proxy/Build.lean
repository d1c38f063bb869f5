import Goddess.Http

/-!
# Building an endpoint's transport

`buildMiddleware` walks the middleware entries from the last to the first and wraps the
transport with each entry the factory builds; an entry whose factory answers
`middleware.ErrNotFound` is skipped, any other error aborts. `buildEndpoint` asks the
client factory for the base transport, wraps it with `builtinStreamTripper` for a stream
endpoint, then with the endpoint's own middlewares, then with the gateway's.

A transport is any type `Tr`; a middleware is what `m.Process` does to a transport. The
client factory, the middleware factory, `prepareRetryStrategy` and `builtinStreamTripper`
are parameters: the first three are not under `src/`, and the stream tripper is modelled on
its own in `Goddess.Middleware.Stream`.

The law proved here is that the two `buildMiddleware` calls of `buildEndpoint` compose to
one call over the gateway's entries followed by the endpoint's, whatever the factory
answers, so the first global entry is the outermost wrapper.
-/

namespace Goddess.Proxy

variable {Tr : Type}

/-- The fields of `retryStrategy` the handler reads; `retryRequired` is the answer of
`judgeRetryRequired(retryStrategy.conditions, resp)`, where `none` is a nil `resp`. -/
structure RetryStrategy where
  attempts : Nat
  retryRequired : Option Response → Bool

/-- One iteration of the loop of `buildMiddleware`, for the entry `m`. -/
def wrapWith (middlewareFactory : Middleware → Except GoError (Tr → Tr)) (next : Tr)
    (m : Middleware) : Except GoError Tr :=
  match middlewareFactory m with
  | .error err => if err.is .notFound then .ok next else .error err
  | .ok process => .ok (process next)

/-- Go's `buildMiddleware`: `for i := len(ms) - 1; i >= 0; i--`. -/
def buildMiddleware (middlewareFactory : Middleware → Except GoError (Tr → Tr))
    (ms : List Middleware) (next : Tr) : Except GoError Tr :=
  ms.reverse.foldlM (wrapWith middlewareFactory) next

section Chain

variable (middlewareFactory : Middleware → Except GoError (Tr → Tr))

/-- The entries the factory builds, in declaration order; skipped and failed ones left out. -/
def built (ms : List Middleware) : List (Tr → Tr) :=
  ms.filterMap fun m => (middlewareFactory m).toOption

/-- The factory answers each entry with a middleware or with `middleware.ErrNotFound`. -/
def OnlyNotFound (ms : List Middleware) : Prop :=
  ∀ m ∈ ms, ∀ err, middlewareFactory m = .error err → err.is .notFound = true

@[simp] theorem buildMiddleware_nil (next : Tr) :
    buildMiddleware middlewareFactory [] next = .ok next := rfl

theorem buildMiddleware_cons (m : Middleware) (ms : List Middleware) (next : Tr) :
    buildMiddleware middlewareFactory (m :: ms) next =
      buildMiddleware middlewareFactory ms next >>= (wrapWith middlewareFactory · m) := by
  simp only [buildMiddleware, List.reverse_cons, List.foldlM_append, List.foldlM_cons,
    List.foldlM_nil, bind_pure]

/-- Wrapping with the endpoint's list, then the gateway's, is one walk over both lists. -/
theorem buildMiddleware_append (g es : List Middleware) (next : Tr) :
    buildMiddleware middlewareFactory (g ++ es) next =
      buildMiddleware middlewareFactory es next >>= buildMiddleware middlewareFactory g := by
  simp only [buildMiddleware, List.reverse_append, List.foldlM_append]
  rfl

/-- Without a failing entry the chain is `m1.Process(m2.Process(... mk.Process(next)))`. -/
theorem buildMiddleware_eq_chain (ms : List Middleware) (next : Tr)
    (h : OnlyNotFound middlewareFactory ms) :
    buildMiddleware middlewareFactory ms next =
      .ok ((built middlewareFactory ms).foldr (fun process t => process t) next) := by
  induction ms with
  | nil => rfl
  | cons m ms ih =>
    have hrest : OnlyNotFound middlewareFactory ms := fun m' hm => h m' (List.mem_cons_of_mem _ hm)
    rw [buildMiddleware_cons, ih hrest]
    cases hm : middlewareFactory m with
    | error err =>
      have hnf := h m (List.mem_cons_self _ _) err hm
      simp [wrapWith, built, hm, hnf, Except.toOption]
    | ok process => simp [wrapWith, built, hm, Except.toOption]

theorem wrapWith_error {next : Tr} {m : Middleware} {err : GoError}
    (hm : middlewareFactory m = .error err) (hnf : err.is .notFound = false) :
    wrapWith middlewareFactory next m = .error err := by
  simp [wrapWith, hm, hnf]

/-- An entry whose factory fails with another error makes the whole walk fail. -/
theorem buildMiddleware_fails (ms : List Middleware) (next : Tr) {m : Middleware} {err : GoError}
    (hmem : m ∈ ms) (hm : middlewareFactory m = .error err) (hnf : err.is .notFound = false) :
    ∃ err', buildMiddleware middlewareFactory ms next = .error err' := by
  induction ms with
  | nil => cases hmem
  | cons m' ms ih =>
    rw [buildMiddleware_cons]
    rcases List.mem_cons.mp hmem with rfl | hmem
    · cases hb : buildMiddleware middlewareFactory ms next with
      | error e => exact ⟨e, rfl⟩
      | ok t => exact ⟨err, by simp [wrapWith_error middlewareFactory hm hnf]⟩
    · obtain ⟨e, he⟩ := ih hmem
      exact ⟨e, by rw [he]; rfl⟩

end Chain

/-- What `buildEndpoint` hands to the endpoint's handler. -/
structure Built (Tr : Type) where
  tripper : Tr
  retryStrategy : RetryStrategy

/-- Effects on the clients and routers the proxy owns, in the order the code performs them: the
client factory creates a client, a client's `io.Closer` is closed, a router becomes the live
one (`p.router.Store` or `Swap`), and a router is passed to `tryCloseRouter`. -/
inductive Effect where
  | created (client : Nat)
  | closed (client : Nat)
  | stored (router : Nat)
  | retired (router : Nat)
  deriving DecidableEq, Repr

section Endpoint

variable (clientFactory : Endpoint → Except GoError Tr)
  (middlewareFactory : Middleware → Except GoError (Tr → Tr))
  (prepareRetryStrategy : Endpoint → Except GoError RetryStrategy)
  (builtinStreamTripper : Tr → Tr)

/-- Lines 119–133 of `buildEndpoint`, once the client factory has given `client`. -/
def assemble (e : Endpoint) (ms : List Middleware) (client : Tr) : Except GoError (Built Tr) := do
  let tripper := if e.stream then builtinStreamTripper client else client
  let tripper ← buildMiddleware middlewareFactory e.middlewares tripper
  let tripper ← buildMiddleware middlewareFactory ms tripper
  let retryStrategy ← prepareRetryStrategy e
  pure ⟨tripper, retryStrategy⟩

/-- Go's `buildEndpoint`. `fresh` names the client the factory creates; the deferred
`closeOnError` closes it when a later step fails. -/
def buildEndpoint (fresh : Nat) (e : Endpoint) (ms : List Middleware) :
    Except GoError (Built Tr) × List Effect :=
  match clientFactory e with
  | .error err => (.error err, [])
  | .ok client =>
    match assemble middlewareFactory prepareRetryStrategy builtinStreamTripper e ms client with
    | .error err => (.error err, [.created fresh, .closed fresh])
    | .ok b => (.ok b, [.created fresh])

/-- The three ways `buildEndpoint` ends: no client, a client closed again by the deferred
`closeOnError`, or a client handed over with the handler. -/
theorem buildEndpoint_cases (fresh : Nat) (e : Endpoint) (ms : List Middleware) :
    (∃ err, buildEndpoint clientFactory middlewareFactory prepareRetryStrategy builtinStreamTripper
      fresh e ms = (.error err, [])) ∨
    (∃ err, buildEndpoint clientFactory middlewareFactory prepareRetryStrategy builtinStreamTripper
      fresh e ms = (.error err, [.created fresh, .closed fresh])) ∨
    (∃ b, buildEndpoint clientFactory middlewareFactory prepareRetryStrategy builtinStreamTripper
      fresh e ms = (.ok b, [.created fresh])) := by
  unfold buildEndpoint
  split
  · exact .inl ⟨_, rfl⟩
  · split
    · exact .inr (.inl ⟨_, rfl⟩)
    · exact .inr (.inr ⟨_, rfl⟩)

/-- Whether `buildEndpoint` fails, and with what, does not depend on the name it gives the
client: it fails when the client factory or the assembly does. -/
theorem buildEndpoint_fst (fresh : Nat) (e : Endpoint) (ms : List Middleware) :
    (buildEndpoint clientFactory middlewareFactory prepareRetryStrategy builtinStreamTripper
      fresh e ms).1 =
      (clientFactory e >>= assemble middlewareFactory prepareRetryStrategy builtinStreamTripper e ms) := by
  unfold buildEndpoint
  split <;> rename_i h <;> rw [h]
  · rfl
  · split <;> simp_all

theorem buildEndpoint_of_client {fresh : Nat} {e : Endpoint} {ms : List Middleware} {client : Tr}
    (hc : clientFactory e = .ok client) :
    (buildEndpoint clientFactory middlewareFactory prepareRetryStrategy builtinStreamTripper
      fresh e ms).1 =
      assemble middlewareFactory prepareRetryStrategy builtinStreamTripper e ms client := by
  unfold buildEndpoint
  rw [hc]
  dsimp only
  split <;> simp_all

/-- The transport of a built endpoint is the gateway's entries then the endpoint's, in
declaration order, over the client (behind `builtinStreamTripper` for a stream endpoint);
an entry failing with an error other than `ErrNotFound` fails the build. -/
def TripperChain (fresh : Nat) (e : Endpoint) (ms : List Middleware) (client : Tr) : Prop :=
  let base := if e.stream then builtinStreamTripper client else client
  (buildMiddleware middlewareFactory e.middlewares base >>= buildMiddleware middlewareFactory ms =
    buildMiddleware middlewareFactory (ms ++ e.middlewares) base) ∧
  (OnlyNotFound middlewareFactory (ms ++ e.middlewares) →
    (buildEndpoint clientFactory middlewareFactory prepareRetryStrategy builtinStreamTripper
      fresh e ms).1 =
      (prepareRetryStrategy e).map fun rs =>
        ⟨(built middlewareFactory (ms ++ e.middlewares)).foldr (fun process t => process t) base,
          rs⟩) ∧
  (∀ m ∈ ms ++ e.middlewares, ∀ err, middlewareFactory m = .error err →
    err.is .notFound = false →
    ∃ err', (buildEndpoint clientFactory middlewareFactory prepareRetryStrategy
      builtinStreamTripper fresh e ms).1 = .error err')

theorem buildEndpoint_tripper_chain (fresh : Nat) (e : Endpoint) (ms : List Middleware)
    (client : Tr) (hc : clientFactory e = .ok client) :
    TripperChain clientFactory middlewareFactory prepareRetryStrategy builtinStreamTripper
      fresh e ms client := by
  unfold TripperChain
  intro base
  have hlaw := (buildMiddleware_append middlewareFactory ms e.middlewares base).symm
  have hasm : assemble middlewareFactory prepareRetryStrategy builtinStreamTripper e ms client =
      (buildMiddleware middlewareFactory (ms ++ e.middlewares) base >>= fun t =>
        (prepareRetryStrategy e).map fun rs => ⟨t, rs⟩) := by
    rw [← hlaw]
    simp only [assemble, bind_assoc, Except.map]
    rfl
  rw [buildEndpoint_of_client clientFactory middlewareFactory prepareRetryStrategy
    builtinStreamTripper hc, hasm]
  refine ⟨hlaw, fun h => ?_, fun m hm err herr hnf => ?_⟩
  · rw [buildMiddleware_eq_chain middlewareFactory _ _ h]
    rfl
  · obtain ⟨err', he⟩ := buildMiddleware_fails middlewareFactory _ base hm herr hnf
    exact ⟨err', by rw [he]; rfl⟩

/-- The `TestProxy` shape: one global `logging` entry over a plain HTTP endpoint. -/
theorem buildEndpoint_tripper_chain_logging :
    (fun _ => .ok 0 : Endpoint → Except GoError Nat) ⟨.HTTP, "/foo/bar", "GET", "", false, []⟩ =
        .ok 0 ∧
      TripperChain (fun _ => .ok 0) (fun _ => .ok (· + 1)) (fun _ => .ok ⟨1, fun _ => false⟩) id 0
        ⟨.HTTP, "/foo/bar", "GET", "", false, []⟩ [⟨"logging"⟩] 0 :=
  ⟨rfl, buildEndpoint_tripper_chain _ _ _ _ 0 _ _ 0 rfl⟩

end Endpoint

end Goddess.Proxy
