import Goddess.Proxy.Build
import Mathlib.Data.List.Count
import Mathlib.Data.List.Nodup

/-!
# Reloading the gateway configuration

`New` stores a `mux` router built with the proxy's two handlers. `Update` builds a new
router from a gateway configuration, endpoint by endpoint: `buildEndpoint`, then a
`defer closeOnError(closer, &retError)`, then `router.Handle`. The first error returns it,
and the deferred calls close the clients built so far; with no error the new router is
swapped in and the old one goes to `tryCloseRouter`.

Clients and routers are named by a counter the calls share. `router.Handle` is not under
`src/`; it is the parameter `handle`, which may refuse any route of any router. The new
router of `Update` is `mux.NewRouter` of the package's own `notFoundHandler` and
`methodNotAllowedHandler`, not of the proxy's.
-/

namespace Goddess.Proxy

/-- An `http.Handler` a router answers with when no route matches: the package's 404 and 405
handlers `http.HandlerFunc(notFoundHandler)` and `http.HandlerFunc(methodNotAllowedHandler)`,
or any other, told apart by a name. -/
inductive Handler where
  | notFoundHandler
  | methodNotAllowedHandler
  | custom (name : Nat)
  deriving DecidableEq, Repr

/-- A `mux` router: its name, the two handlers it was built with, and its routes. -/
structure Router where
  id : Nat
  notFoundHandler : Handler
  methodNotAllowedHandler : Handler
  routes : List Endpoint
  deriving DecidableEq, Repr

/-- `mux.NewRouter(notFoundHandler, methodNotAllowedHandler)`, with no route yet. -/
def newRouter (id : Nat) (notFound methodNotAllowed : Handler) : Router :=
  ⟨id, notFound, methodNotAllowed, []⟩

set_option linter.dupNamespace false in
/-- The fields of `Proxy` the modelled functions read; `router` is the `atomic.Value`,
empty until `New` stores a router. -/
structure Proxy where
  router : Option Router
  notFoundHandler : Handler
  methodNotAllowedHandler : Handler
  deriving DecidableEq, Repr

/-- Go's `proxy.Option`. `WithObservable` and `WithAttemptTimeoutContext` set fields that no
modelled function reads. -/
inductive ProxyOption where
  | withObservable
  | withNotFoundHandler (h : Handler)
  | withMethodNotAllowedHandler (h : Handler)
  | withAttemptTimeoutContext
  deriving DecidableEq, Repr

/-- What an option does to the proxy. -/
def ProxyOption.apply : ProxyOption → Proxy → Proxy
  | .withNotFoundHandler h, p => { p with notFoundHandler := h }
  | .withMethodNotAllowedHandler h, p => { p with methodNotAllowedHandler := h }
  | .withObservable, p | .withAttemptTimeoutContext, p => p

/-- Go's `New`: the defaults, the options in order, then the router named `id` is stored. -/
def new (opts : List ProxyOption) (id : Nat) : Proxy :=
  let p := opts.foldl (fun p opt => opt.apply p) ⟨none, .notFoundHandler, .methodNotAllowedHandler⟩
  { p with router := some (newRouter id p.notFoundHandler p.methodNotAllowedHandler) }

/-- Go's `tryCloseRouter`: a router is retired, an empty value is skipped. -/
def tryCloseRouter : Option Router → List Effect
  | none => []
  | some r => [.retired r.id]

/-- The state of the endpoint loop of `Update`: the next fresh name, the router being
filled, the clients of the `defer closeOnError` calls so far (last deferred first), and
the effects so far. -/
structure Building where
  next : Nat
  router : Router
  deferred : List Nat
  log : List Effect

/-- What a call of `Update` leaves: its result, the proxy, the next fresh name, its effects. -/
structure Updated where
  result : Except GoError Unit
  proxy : Proxy
  next : Nat
  effects : List Effect

section Update

variable {Tr : Type} (clientFactory : Endpoint → Except GoError Tr)
  (middlewareFactory : Middleware → Except GoError (Tr → Tr))
  (prepareRetryStrategy : Endpoint → Except GoError RetryStrategy)
  (builtinStreamTripper : Tr → Tr) (handle : Router → Endpoint → Option GoError)

/-- Lines 303–313: the loop over the endpoints left, and the error that ends it. -/
def buildRoutes (ms : List Middleware) : List Endpoint → Building → Option GoError × Building
  | [], b => (none, b)
  | e :: es, b =>
    match buildEndpoint clientFactory middlewareFactory prepareRetryStrategy builtinStreamTripper
        b.next e ms with
    | (.error err, effs) => (some err, { b with next := b.next + 1, log := b.log ++ effs })
    | (.ok _, effs) =>
      match handle b.router e with
      | some err =>
        (some err,
          { b with next := b.next + 1, deferred := b.next :: b.deferred, log := b.log ++ effs })
      | none =>
        buildRoutes ms es
          { next := b.next + 1, router := { b.router with routes := b.router.routes ++ [e] },
            deferred := b.next :: b.deferred, log := b.log ++ effs }

/-- Go's `Update`, for a proxy `p` and the next fresh name `next`, which names the new router.
On an error the deferred `closeOnError` calls close their clients, last deferred first. -/
def update (c : Gateway) (p : Proxy) (next : Nat) : Updated :=
  match buildRoutes clientFactory middlewareFactory prepareRetryStrategy builtinStreamTripper
      handle c.middlewares c.endpoints
      ⟨next + 1, newRouter next .notFoundHandler .methodNotAllowedHandler, [], []⟩ with
  | (some err, b) => ⟨.error err, p, b.next, b.log ++ b.deferred.map .closed⟩
  | (none, b) =>
    ⟨.ok (), { p with router := some b.router }, b.next,
      b.log ++ .stored b.router.id :: tryCloseRouter p.router⟩

/-- The endpoint loop hands out `k` consecutive names to the clients it keeps (and defers),
then, if a build fails after creating its client, one more to that client, which
`buildEndpoint` closes again. The router keeps its name and its handlers. -/
theorem buildRoutes_spec (ms : List Middleware) (es : List Endpoint) (b : Building) :
    ∃ k tail routes,
      (buildRoutes clientFactory middlewareFactory prepareRetryStrategy builtinStreamTripper
        handle ms es b).2.deferred = (List.range' b.next k).reverse ++ b.deferred ∧
      (buildRoutes clientFactory middlewareFactory prepareRetryStrategy builtinStreamTripper
        handle ms es b).2.log = b.log ++ (List.range' b.next k).map .created ++ tail ∧
      b.next + k ≤ (buildRoutes clientFactory middlewareFactory prepareRetryStrategy
        builtinStreamTripper handle ms es b).2.next ∧
      (tail = [] ∨ tail = [.created (b.next + k), .closed (b.next + k)]) ∧
      ((buildRoutes clientFactory middlewareFactory prepareRetryStrategy builtinStreamTripper
        handle ms es b).1 = none → tail = []) ∧
      (buildRoutes clientFactory middlewareFactory prepareRetryStrategy builtinStreamTripper
        handle ms es b).2.router = { b.router with routes := routes } := by
  induction es generalizing b with
  | nil => exact ⟨0, [], b.router.routes, by simp [buildRoutes]⟩
  | cons e es ih =>
    rcases buildEndpoint_cases clientFactory middlewareFactory prepareRetryStrategy
      builtinStreamTripper b.next e ms with ⟨err, h⟩ | ⟨err, h⟩ | ⟨bt, h⟩
    · exact ⟨0, [], b.router.routes, by simp [buildRoutes, h]⟩
    · exact ⟨0, [.created b.next, .closed b.next], b.router.routes, by simp [buildRoutes, h]⟩
    · cases hh : handle b.router e with
      | some err => exact ⟨1, [], b.router.routes, by simp [buildRoutes, h, hh]⟩
      | none =>
        obtain ⟨k, tail, routes, hd, hl, hn, ht, hnone, hr⟩ :=
          ih { next := b.next + 1, router := { b.router with routes := b.router.routes ++ [e] },
               deferred := b.next :: b.deferred, log := b.log ++ [.created b.next] }
        have hrange : List.range' b.next (k + 1) = b.next :: List.range' (b.next + 1) k := rfl
        refine ⟨k + 1, tail, routes, ?_, ?_, ?_, ?_, ?_, ?_⟩ <;>
          simp only [buildRoutes, h, hh] at hd hl hn ht hnone hr ⊢
        · simp [hd, hrange]
        · simp [hl, hrange]
        · omega
        · simpa [Nat.add_assoc, Nat.add_comm 1] using ht
        · exact hnone
        · exact hr

/-- The run of `Update`'s endpoint loop from its start: `update` is read through it. -/
theorem update_eq (c : Gateway) (p : Proxy) (next : Nat) :
    update clientFactory middlewareFactory prepareRetryStrategy builtinStreamTripper handle c p
      next =
      match buildRoutes clientFactory middlewareFactory prepareRetryStrategy builtinStreamTripper
        handle c.middlewares c.endpoints
        ⟨next + 1, newRouter next .notFoundHandler .methodNotAllowedHandler, [], []⟩ with
      | (some err, b) => ⟨.error err, p, b.next, b.log ++ b.deferred.map .closed⟩
      | (none, b) =>
        ⟨.ok (), { p with router := some b.router }, b.next,
          b.log ++ .stored b.router.id :: tryCloseRouter p.router⟩ := rfl

/-- The router `Update` fills, named `next`, once it has handled the routes `routes`. -/
def updateRouter (next : Nat) (routes : List Endpoint) : Router :=
  { newRouter next .notFoundHandler .methodNotAllowedHandler with routes := routes }

/-- The error that stops the loop of `Update` at endpoint `e` while its router is `r`: that of
`buildEndpoint`, or that of `router.Handle`; none when the loop goes past `e`. -/
def endpointError (ms : List Middleware) (r : Router) (e : Endpoint) : Option GoError :=
  match clientFactory e >>= assemble middlewareFactory prepareRetryStrategy builtinStreamTripper e ms with
  | .error err => some err
  | .ok _ => handle r e

/-- The loop gets past an endpoint exactly when it builds it and `router.Handle` takes it. -/
theorem buildRoutes_cons_of_endpointError_none (ms : List Middleware) {e : Endpoint}
    (es : List Endpoint) (b : Building) (h : endpointError clientFactory middlewareFactory
      prepareRetryStrategy builtinStreamTripper handle ms b.router e = none) :
    buildRoutes clientFactory middlewareFactory prepareRetryStrategy builtinStreamTripper handle
      ms (e :: es) b = buildRoutes clientFactory middlewareFactory prepareRetryStrategy
        builtinStreamTripper handle ms es
        { next := b.next + 1, router := { b.router with routes := b.router.routes ++ [e] },
          deferred := b.next :: b.deferred, log := b.log ++ [.created b.next] } := by
  have h1 := buildEndpoint_fst clientFactory middlewareFactory prepareRetryStrategy
    builtinStreamTripper b.next e ms
  unfold endpointError at h
  rcases buildEndpoint_cases clientFactory middlewareFactory prepareRetryStrategy
    builtinStreamTripper b.next e ms with ⟨err, hb⟩ | ⟨err, hb⟩ | ⟨bt, hb⟩ <;>
    rw [hb] at h1 <;> rw [← h1] at h <;> simp at h
  simp only [buildRoutes, hb, h]

theorem buildRoutes_of_endpointError_some (ms : List Middleware) {e : Endpoint} {err : GoError}
    (es : List Endpoint) (b : Building) (h : endpointError clientFactory middlewareFactory
      prepareRetryStrategy builtinStreamTripper handle ms b.router e = some err) :
    (buildRoutes clientFactory middlewareFactory prepareRetryStrategy builtinStreamTripper handle
      ms (e :: es) b).1 = some err := by
  have h1 := buildEndpoint_fst clientFactory middlewareFactory prepareRetryStrategy
    builtinStreamTripper b.next e ms
  unfold endpointError at h
  rcases buildEndpoint_cases clientFactory middlewareFactory prepareRetryStrategy
    builtinStreamTripper b.next e ms with ⟨err', hb⟩ | ⟨err', hb⟩ | ⟨bt, hb⟩ <;>
    rw [hb] at h1 <;> rw [← h1] at h <;> simp at h <;> simp [buildRoutes, hb, h]

/-- The loop stops with the error of the first endpoint it cannot get past. -/
theorem buildRoutes_of_first_error (ms : List Middleware) {e : Endpoint} {err : GoError}
    (post pre : List Endpoint) (b : Building)
    (hpre : ∀ pre' e' post', pre = pre' ++ e' :: post' →
      endpointError clientFactory middlewareFactory prepareRetryStrategy builtinStreamTripper
        handle ms { b.router with routes := b.router.routes ++ pre' } e' = none)
    (he : endpointError clientFactory middlewareFactory prepareRetryStrategy builtinStreamTripper
      handle ms { b.router with routes := b.router.routes ++ pre } e = some err) :
    (buildRoutes clientFactory middlewareFactory prepareRetryStrategy builtinStreamTripper handle
      ms (pre ++ e :: post) b).1 = some err := by
  induction pre generalizing b with
  | nil =>
    rw [List.append_nil] at he
    exact buildRoutes_of_endpointError_some clientFactory middlewareFactory prepareRetryStrategy
      builtinStreamTripper handle ms post b he
  | cons a pre ih =>
    have ha := hpre [] a pre rfl
    rw [List.append_nil] at ha
    rw [List.cons_append, buildRoutes_cons_of_endpointError_none clientFactory middlewareFactory
      prepareRetryStrategy builtinStreamTripper handle ms _ b ha]
    refine ih _ (fun pre' e' post' hp => ?_) ?_
    · simpa using hpre (a :: pre') e' post' (by rw [hp, List.cons_append])
    · simpa using he

/-- A loop that gets past every endpoint leaves them as the router's routes, in order. -/
theorem buildRoutes_routes (ms : List Middleware) (es : List Endpoint) (b : Building)
    (h : (buildRoutes clientFactory middlewareFactory prepareRetryStrategy builtinStreamTripper
      handle ms es b).1 = none) :
    (buildRoutes clientFactory middlewareFactory prepareRetryStrategy builtinStreamTripper
      handle ms es b).2.router.routes = b.router.routes ++ es := by
  induction es generalizing b with
  | nil => exact (List.append_nil _).symm
  | cons e es ih =>
    cases he : endpointError clientFactory middlewareFactory prepareRetryStrategy
      builtinStreamTripper handle ms b.router e with
    | some err =>
      rw [buildRoutes_of_endpointError_some clientFactory middlewareFactory prepareRetryStrategy
        builtinStreamTripper handle ms es b he] at h
      cases h
    | none =>
      rw [buildRoutes_cons_of_endpointError_none clientFactory middlewareFactory
        prepareRetryStrategy builtinStreamTripper handle ms es b he] at h ⊢
      rw [ih _ h]
      simp

end Update

/-- The clients of a failed call: the kept ones `R`, created then closed by the deferred
calls, and possibly one more, `n`, created and closed inside `buildEndpoint`. Each is closed
exactly once. -/
theorem count_closed_of_failed {R : List Nat} {n : Nat} {tail : List Effect} (hnd : R.Nodup)
    (hn : n ∉ R) (ht : tail = [] ∨ tail = [.created n, .closed n]) {id : Nat}
    (hid : .created id ∈ R.map Effect.created ++ tail ++ R.reverse.map Effect.closed) :
    (R.map Effect.created ++ tail ++ R.reverse.map Effect.closed).count (.closed id) = 1 := by
  have hR : (R.map Effect.created).count (.closed id) = 0 := List.count_eq_zero.mpr (by simp)
  have hC : (R.reverse.map Effect.closed).count (.closed id) = if id ∈ R then 1 else 0 := by
    rw [List.count_map_of_injective _ _ fun _ _ h => Effect.closed.inj h, List.count_reverse,
      List.count_eq_of_nodup hnd]
  rw [List.count_append, List.count_append, hR, hC]
  rcases ht with rfl | rfl
  · have hid : id ∈ R := by simpa using hid
    simp [hid]
  · simp only [List.mem_append, List.mem_map, Effect.created.injEq, exists_eq_right,
      List.mem_cons, List.mem_singleton, List.not_mem_nil, or_false, reduceCtorEq] at hid
    rcases hid with (hid | rfl) | ⟨_, _, h⟩
    · have hne : id ≠ n := fun h => hn (h ▸ hid)
      simp [hid, hne]
    · simp [hn]
    · cases h

/-- What one call of `Update` does to the proxy and to the clients and routers it owns. On an
error the live router stays; every client the call created is closed exactly once, no other is
closed, and no router is stored or retired. On success the new router, named `next`, is live;
no client is closed; and the call ends by storing it and passing the old router to
`tryCloseRouter`, once. -/
structure UpdateOutcome (p : Proxy) (next : Nat) (u : Updated) : Prop where
  failed : ∀ err, u.result = .error err → u.proxy = p ∧
    (∀ id, .created id ∈ u.effects → u.effects.count (.closed id) = 1) ∧
    (∀ id, .closed id ∈ u.effects → .created id ∈ u.effects) ∧
    ∀ id, .stored id ∉ u.effects ∧ .retired id ∉ u.effects
  succeeded : u.result = .ok () → (∃ r, u.proxy.router = some r ∧ r.id = next) ∧
    (∀ id, .closed id ∉ u.effects) ∧
    (∀ old, p.router = some old → u.effects.count (.retired old.id) = 1) ∧
    ∃ pre, u.effects = pre ++ .stored next :: tryCloseRouter p.router ∧
      ∀ x ∈ pre, ∃ id, x = .created id

section Contract

variable {Tr : Type} (clientFactory : Endpoint → Except GoError Tr)
  (middlewareFactory : Middleware → Except GoError (Tr → Tr))
  (prepareRetryStrategy : Endpoint → Except GoError RetryStrategy)
  (builtinStreamTripper : Tr → Tr) (handle : Router → Endpoint → Option GoError)

theorem update_outcome (c : Gateway) (p : Proxy) (next : Nat) :
    UpdateOutcome p next (update clientFactory middlewareFactory prepareRetryStrategy
      builtinStreamTripper handle c p next) := by
  obtain ⟨k, tail, routes, hd, hl, -, ht, hnone, hr⟩ := buildRoutes_spec clientFactory
    middlewareFactory prepareRetryStrategy builtinStreamTripper handle c.middlewares c.endpoints
    ⟨next + 1, newRouter next .notFoundHandler .methodNotAllowedHandler, [], []⟩
  rw [update_eq]
  generalize buildRoutes clientFactory middlewareFactory prepareRetryStrategy builtinStreamTripper
    handle c.middlewares c.endpoints
    ⟨next + 1, newRouter next .notFoundHandler .methodNotAllowedHandler, [], []⟩ = res
    at hd hl ht hnone hr
  obtain ⟨_ | err, b⟩ := res <;> simp only [List.append_nil, List.nil_append] at hd hl ht hnone hr ⊢
  · obtain rfl := hnone trivial
    have hid : b.router.id = next := by rw [hr]; rfl
    refine ⟨fun err h => (by cases h), fun _ => ⟨⟨b.router, rfl, hid⟩, ?_, ?_, b.log, ?_, ?_⟩⟩
    · intro id
      rw [hl]
      cases p.router <;> simp [tryCloseRouter]
    · intro old hold
      rw [hl, hold]
      simp [tryCloseRouter, List.count_eq_zero.mpr]
    · rw [hid]
    · intro x hx
      rw [hl, List.append_nil, List.mem_map] at hx
      obtain ⟨id, -, rfl⟩ := hx
      exact ⟨id, rfl⟩
  · have hn : next + 1 + k ∉ List.range' (next + 1) k := by simp [List.mem_range'_1]
    refine ⟨fun _ _ => ⟨rfl, fun id hid => ?_, fun id hid => ?_, fun id => ?_⟩, fun h => (by cases h)⟩
    · rw [hl, hd] at hid ⊢
      exact count_closed_of_failed (List.nodup_range' _ _) hn ht hid
    · rw [hl, hd] at hid ⊢
      rcases ht with rfl | rfl <;> simp at hid ⊢ <;> omega
    · rw [hl, hd]
      rcases ht with rfl | rfl <;> simp

theorem update_next (c : Gateway) (p : Proxy) (next : Nat) :
    next < (update clientFactory middlewareFactory prepareRetryStrategy builtinStreamTripper
      handle c p next).next := by
  obtain ⟨k, -, -, -, -, hn, -⟩ := buildRoutes_spec clientFactory middlewareFactory
    prepareRetryStrategy builtinStreamTripper handle c.middlewares c.endpoints
    ⟨next + 1, newRouter next .notFoundHandler .methodNotAllowedHandler, [], []⟩
  rw [update_eq]
  split <;> simp_all only <;> omega

/-- After a successful `Update` the live router answers unmatched paths and method mismatches
with the package's own `notFoundHandler` and `methodNotAllowedHandler`, while the proxy still
holds the handlers it was given. -/
theorem update_router_handlers (c : Gateway) (p : Proxy) (next : Nat)
    (h : (update clientFactory middlewareFactory prepareRetryStrategy builtinStreamTripper handle
      c p next).result = .ok ()) :
    ∃ r, (update clientFactory middlewareFactory prepareRetryStrategy builtinStreamTripper handle
        c p next).proxy.router = some r ∧
      r.notFoundHandler = .notFoundHandler ∧ r.methodNotAllowedHandler = .methodNotAllowedHandler ∧
      (update clientFactory middlewareFactory prepareRetryStrategy builtinStreamTripper handle
        c p next).proxy.notFoundHandler = p.notFoundHandler ∧
      (update clientFactory middlewareFactory prepareRetryStrategy builtinStreamTripper handle
        c p next).proxy.methodNotAllowedHandler = p.methodNotAllowedHandler := by
  obtain ⟨-, -, routes, -, -, -, -, -, hr⟩ := buildRoutes_spec clientFactory middlewareFactory
    prepareRetryStrategy builtinStreamTripper handle c.middlewares c.endpoints
    ⟨next + 1, newRouter next .notFoundHandler .methodNotAllowedHandler, [], []⟩
  rw [update_eq] at h ⊢
  generalize buildRoutes clientFactory middlewareFactory prepareRetryStrategy builtinStreamTripper
    handle c.middlewares c.endpoints
    ⟨next + 1, newRouter next .notFoundHandler .methodNotAllowedHandler, [], []⟩ = res at h hr
  obtain ⟨_ | err, b⟩ := res
  · exact ⟨b.router, rfl, by rw [hr]; rfl, by rw [hr]; rfl, rfl, rfl⟩
  · cases h

/-- The first endpoint the loop cannot get past decides the error `Update` returns. -/
theorem update_of_first_error (c : Gateway) (p : Proxy) (next : Nat) {pre post : List Endpoint}
    {e : Endpoint} {err : GoError} (hc : c.endpoints = pre ++ e :: post)
    (hpre : ∀ pre' e' post', pre = pre' ++ e' :: post' →
      endpointError clientFactory middlewareFactory prepareRetryStrategy builtinStreamTripper
        handle c.middlewares (updateRouter next pre') e' = none)
    (he : endpointError clientFactory middlewareFactory prepareRetryStrategy builtinStreamTripper
      handle c.middlewares (updateRouter next pre) e = some err) :
    (update clientFactory middlewareFactory prepareRetryStrategy builtinStreamTripper handle c p
      next).result = .error err := by
  have h := buildRoutes_of_first_error clientFactory middlewareFactory prepareRetryStrategy
    builtinStreamTripper handle c.middlewares post pre
    ⟨next + 1, newRouter next .notFoundHandler .methodNotAllowedHandler, [], []⟩ hpre he
  rw [update_eq, hc]
  generalize buildRoutes clientFactory middlewareFactory prepareRetryStrategy builtinStreamTripper
    handle c.middlewares (pre ++ e :: post)
    ⟨next + 1, newRouter next .notFoundHandler .methodNotAllowedHandler, [], []⟩ = res at h
  obtain ⟨r, b⟩ := res
  dsimp only at h
  subst h
  rfl

/-- A successful `Update` installs a router whose routes are the gateway's endpoints, in order. -/
theorem update_routes (c : Gateway) (p : Proxy) (next : Nat)
    (h : (update clientFactory middlewareFactory prepareRetryStrategy builtinStreamTripper handle
      c p next).result = .ok ()) :
    ∃ r, (update clientFactory middlewareFactory prepareRetryStrategy builtinStreamTripper handle
      c p next).proxy.router = some r ∧ r.routes = c.endpoints := by
  have hr := buildRoutes_routes clientFactory middlewareFactory prepareRetryStrategy
    builtinStreamTripper handle c.middlewares c.endpoints
    ⟨next + 1, newRouter next .notFoundHandler .methodNotAllowedHandler, [], []⟩
  rw [update_eq] at h ⊢
  generalize buildRoutes clientFactory middlewareFactory prepareRetryStrategy builtinStreamTripper
    handle c.middlewares c.endpoints
    ⟨next + 1, newRouter next .notFoundHandler .methodNotAllowedHandler, [], []⟩ = res at h hr
  obtain ⟨_ | err, b⟩ := res
  · exact ⟨b.router, rfl, hr rfl⟩
  · cases h

end Contract

/-- A proxy over a run of calls: the proxy, the next fresh name, and every effect so far. -/
structure World where
  proxy : Proxy
  next : Nat
  log : List Effect

/-- The world `New` starts: its router, named `id`, stored. -/
def started (opts : List ProxyOption) (id : Nat) : World := ⟨new opts id, id + 1, [.stored id]⟩

/-- The routers of a run: the live one was stored and is never retired; every other stored
router is retired exactly once, right after the router that replaced it was stored; and
router names are below the next fresh name. -/
structure RouterLog (w : World) : Prop where
  live : ∃ r, w.proxy.router = some r ∧ .stored r.id ∈ w.log ∧ .retired r.id ∉ w.log
  retired_once : ∀ id, .stored id ∈ w.log → (∀ r, w.proxy.router = some r → r.id ≠ id) →
    w.log.count (.retired id) = 1
  after_replaced : ∀ id, .retired id ∈ w.log → ∃ pre post id', w.log =
    pre ++ .stored id' :: .retired id :: post ∧ id' ≠ id ∧ .stored id ∈ pre
  fresh : ∀ id, .stored id ∈ w.log ∨ .retired id ∈ w.log → id < w.next

theorem routerLog_started (opts : List ProxyOption) (id : Nat) : RouterLog (started opts id) where
  live := ⟨_, rfl, by simp [started, new, newRouter], by simp [started]⟩
  retired_once id' h hne := absurd (by simpa [started] using h) (hne _ rfl).symm
  after_replaced id' h := by simp [started] at h
  fresh id' h := by simp [started] at h ⊢; omega

/-- A failed `Update` keeps the facts of the log: it only creates and closes clients. -/
theorem RouterLog.of_failed {w : World} (hw : RouterLog w) {u : Updated} {err : GoError}
    (ho : UpdateOutcome w.proxy w.next u) (hn : w.next < u.next)
    (hres : u.result = .error err) : RouterLog ⟨u.proxy, u.next, w.log ++ u.effects⟩ := by
  obtain ⟨hp, -, -, hnone⟩ := ho.failed err hres
  have hc : ∀ id, (w.log ++ u.effects).count (.retired id) = w.log.count (.retired id) := by
    intro id
    rw [List.count_append, List.count_eq_zero.mpr (hnone id).2, Nat.add_zero]
  refine ⟨?_, ?_, ?_, ?_⟩ <;> simp only [hp, hc, List.mem_append, hnone, or_false]
  · exact hw.live
  · exact hw.retired_once
  · intro id h
    obtain ⟨pre, post, id', he, hne, hpre⟩ := hw.after_replaced id h
    exact ⟨pre, post ++ u.effects, id', by simp [he], hne, hpre⟩
  · intro id h
    have := hw.fresh id h
    omega

/-- A successful `Update` stores its router, named after the log's fresh name, and retires the
router it replaces, once. -/
theorem RouterLog.of_succeeded {w : World} (hw : RouterLog w) {u : Updated}
    (ho : UpdateOutcome w.proxy w.next u) (hn : w.next < u.next)
    (hres : u.result = .ok ()) : RouterLog ⟨u.proxy, u.next, w.log ++ u.effects⟩ := by
  obtain ⟨old, hold, hstored, hunret⟩ := hw.live
  have hold_lt : old.id < w.next := hw.fresh _ (.inl hstored)
  obtain ⟨⟨r, hr, hrid⟩, -, -, pre, heff, hpre⟩ := ho.succeeded hres
  rw [hold] at heff
  simp only [tryCloseRouter] at heff
  have hps : ∀ id, .stored id ∉ pre := fun id h => by obtain ⟨_, h⟩ := hpre _ h; cases h
  have hpr : ∀ id, .retired id ∉ pre := fun id h => by obtain ⟨_, h⟩ := hpre _ h; cases h
  have hne : old.id ≠ w.next := by omega
  have hmem_s : ∀ id, .stored id ∈ w.log ++ u.effects ↔ .stored id ∈ w.log ∨ id = w.next := by
    intro id
    simp [heff, hps]
  have hmem_r : ∀ id, .retired id ∈ w.log ++ u.effects ↔ .retired id ∈ w.log ∨ id = old.id := by
    intro id
    simp [heff, hpr]
  have hcount : ∀ id, (w.log ++ u.effects).count (.retired id) =
      w.log.count (.retired id) + if id = old.id then 1 else 0 := by
    intro id
    rw [heff, List.count_append, List.count_append, List.count_eq_zero.mpr (hpr id)]
    by_cases hio : id = old.id <;> simp [hio, eq_comm]
  refine ⟨⟨r, hr, (hmem_s _).2 (.inr hrid), ?_⟩, fun id hs hlive => ?_, fun id hrt => ?_,
    fun id h => ?_⟩ <;> dsimp only at *
  · rw [hmem_r, hrid]
    rintro (h | h)
    · exact lt_irrefl _ (hw.fresh _ (.inr h))
    · exact hne h.symm
  · have hid : id ≠ w.next := fun h => hlive r hr (hrid.trans h.symm)
    rw [hmem_s] at hs
    rw [hcount]
    rcases hs with hs | rfl
    · by_cases hio : id = old.id
      · subst hio
        simp [List.count_eq_zero.mpr hunret]
      · have hl : ∀ r', w.proxy.router = some r' → r'.id ≠ id := by
          intro r' h'
          rw [hold] at h'
          cases h'
          exact Ne.symm hio
        rw [hw.retired_once id hs hl, if_neg hio]
    · exact absurd rfl hid
  · rw [hmem_r] at hrt
    rcases hrt with hrt | rfl
    · obtain ⟨pre', post, id', he, hne', hpre'⟩ := hw.after_replaced id hrt
      exact ⟨pre', post ++ u.effects, id', by simp [he], hne', hpre'⟩
    · exact ⟨w.log ++ pre, [], w.next, by simp [heff], hne.symm, by simp [hstored]⟩
  · rw [hmem_s, hmem_r] at h
    rcases h with (h | rfl) | (h | rfl)
    · have := hw.fresh id (.inl h)
      omega
    · exact hn
    · have := hw.fresh id (.inr h)
      omega
    · omega

section Runs

variable {Tr : Type} (clientFactory : Endpoint → Except GoError Tr)
  (middlewareFactory : Middleware → Except GoError (Tr → Tr))
  (prepareRetryStrategy : Endpoint → Except GoError RetryStrategy)
  (builtinStreamTripper : Tr → Tr) (handle : Router → Endpoint → Option GoError)

/-- One call of `Update` on a world. -/
def reload (w : World) (c : Gateway) : World :=
  let u := update clientFactory middlewareFactory prepareRetryStrategy builtinStreamTripper handle
    c w.proxy w.next
  ⟨u.proxy, u.next, w.log ++ u.effects⟩

/-- Calls of `Update` with the configurations `cs`, in order. -/
def reloads (cs : List Gateway) (w : World) : World :=
  cs.foldl (reload clientFactory middlewareFactory prepareRetryStrategy builtinStreamTripper handle) w

theorem routerLog_reload {w : World} (hw : RouterLog w) (c : Gateway) :
    RouterLog (reload clientFactory middlewareFactory prepareRetryStrategy builtinStreamTripper
      handle w c) := by
  have ho := update_outcome clientFactory middlewareFactory prepareRetryStrategy
    builtinStreamTripper handle c w.proxy w.next
  have hn := update_next clientFactory middlewareFactory prepareRetryStrategy
    builtinStreamTripper handle c w.proxy w.next
  unfold reload
  generalize update clientFactory middlewareFactory prepareRetryStrategy builtinStreamTripper
    handle c w.proxy w.next = u at ho hn
  cases hres : u.result with
  | error err => exact hw.of_failed ho hn hres
  | ok _ => exact hw.of_succeeded ho hn hres

theorem routerLog_reloads (cs : List Gateway) {w : World} (hw : RouterLog w) :
    RouterLog (reloads clientFactory middlewareFactory prepareRetryStrategy builtinStreamTripper
      handle cs w) := by
  induction cs generalizing w with
  | nil => exact hw
  | cons c cs ih => exact ih (routerLog_reload clientFactory middlewareFactory prepareRetryStrategy
      builtinStreamTripper handle hw c)

/-- `Update` leaves the live router in place and closes every client it built when it fails,
and installs its router, closes nothing and retires the old router once when it succeeds. It
fails with the error of the first endpoint it cannot build or route, and a successful call's
router holds the gateway's endpoints in order. Over any run from `New`, each router is retired
once, after it was replaced, and the live one never. -/
theorem update_contract :
    (∀ c p next, UpdateOutcome p next (update clientFactory middlewareFactory prepareRetryStrategy
      builtinStreamTripper handle c p next)) ∧
    (∀ c p next pre e post err, c.endpoints = pre ++ e :: post →
      (∀ pre' e' post', pre = pre' ++ e' :: post' →
        endpointError clientFactory middlewareFactory prepareRetryStrategy builtinStreamTripper
          handle c.middlewares (updateRouter next pre') e' = none) →
      endpointError clientFactory middlewareFactory prepareRetryStrategy builtinStreamTripper
        handle c.middlewares (updateRouter next pre) e = some err →
      (update clientFactory middlewareFactory prepareRetryStrategy builtinStreamTripper handle c p
        next).result = .error err) ∧
    (∀ c p next, (update clientFactory middlewareFactory prepareRetryStrategy builtinStreamTripper
        handle c p next).result = .ok () →
      ∃ r, (update clientFactory middlewareFactory prepareRetryStrategy builtinStreamTripper
        handle c p next).proxy.router = some r ∧ r.routes = c.endpoints) ∧
    ∀ opts id cs, RouterLog (reloads clientFactory middlewareFactory prepareRetryStrategy
      builtinStreamTripper handle cs (started opts id)) :=
  ⟨update_outcome clientFactory middlewareFactory prepareRetryStrategy builtinStreamTripper handle,
    fun c p next _ _ _ _ hc hpre he => update_of_first_error clientFactory middlewareFactory
      prepareRetryStrategy builtinStreamTripper handle c p next hc hpre he,
    update_routes clientFactory middlewareFactory prepareRetryStrategy builtinStreamTripper handle,
    fun opts id cs => routerLog_reloads clientFactory middlewareFactory prepareRetryStrategy
      builtinStreamTripper handle cs (routerLog_started opts id)⟩

end Runs

/-- The proxy `New` builds with a custom 404 handler and a custom 405 handler. -/
def customProxy : Proxy :=
  new [.withNotFoundHandler (.custom 1), .withMethodNotAllowedHandler (.custom 2)] 0

/-- A reload of `customProxy` with a gateway of no endpoints succeeds, and the live router it
installs answers with the package's handlers, not with `.custom 1` and `.custom 2`. -/
theorem update_router_handlers_custom :
    (update (fun _ => .ok 0) (fun _ => .ok id) (fun _ => .ok ⟨1, fun _ => false⟩) id
      (fun _ _ => none) ⟨[], []⟩ customProxy 1).result = .ok () ∧
    ∃ r, (update (fun _ => .ok 0) (fun _ => .ok id) (fun _ => .ok ⟨1, fun _ => false⟩) id
        (fun _ _ => none) ⟨[], []⟩ customProxy 1).proxy.router = some r ∧
      r.notFoundHandler = .notFoundHandler ∧ r.methodNotAllowedHandler = .methodNotAllowedHandler ∧
      (update (fun _ => .ok 0) (fun _ => .ok id) (fun _ => .ok ⟨1, fun _ => false⟩) id
        (fun _ _ => none) ⟨[], []⟩ customProxy 1).proxy.notFoundHandler =
          customProxy.notFoundHandler ∧
      (update (fun _ => .ok 0) (fun _ => .ok id) (fun _ => .ok ⟨1, fun _ => false⟩) id
        (fun _ _ => none) ⟨[], []⟩ customProxy 1).proxy.methodNotAllowedHandler =
          customProxy.methodNotAllowedHandler :=
  ⟨rfl, update_router_handlers _ _ _ _ _ ⟨[], []⟩ customProxy 1 rfl⟩

/-- `New` honours the options; the first reload drops them. -/
example : customProxy.router.map Router.notFoundHandler = some (.custom 1) ∧
    customProxy.notFoundHandler = .custom 1 ∧
    (update (fun _ => .ok 0) (fun _ => .ok id) (fun _ => .ok ⟨1, fun _ => false⟩) id
      (fun _ _ => none) ⟨[], []⟩ customProxy 1).proxy.router.map Router.notFoundHandler =
        some .notFoundHandler := by
  decide

end Goddess.Proxy
