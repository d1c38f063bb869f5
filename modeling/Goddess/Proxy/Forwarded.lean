import Goddess.Http

/-!
# `X-Forwarded-For`

`setXFFHeader` (lines 467–480 of `proxy.go`) follows `httputil.ReverseProxy`: when
`net.SplitHostPort` finds the client's host in `RemoteAddr`, it appends the host to the values
the request already has, folded into one value with `", "` between them, unless the header is
present with a `nil` slice, the sentinel that asks for no header at all.

The entry is modelled as Go's map holds it, so that an absent header, the `nil` sentinel and an
empty slice stay apart. Through a chain of gateways, each forwarding the value it set, the value
lists what the client sent and then the client of each hop, in order (`xffChain_eq_join`).
-/

namespace Goddess.Proxy

/-- Go's `strings.Join`. -/
def join (sep : String) : List String → String
  | [] => ""
  | [s] => s
  | s :: ss => s ++ sep ++ join sep ss

/-- The request's `X-Forwarded-For` entry as Go's header map holds it: absent (`none`), the
`nil` sentinel (`some none`), or a slice of values. -/
abbrev XffEntry := Option (Option (List String))

/-- Go's `setXFFHeader`, on the request's `X-Forwarded-For` entry, given what
`net.SplitHostPort(req.RemoteAddr)` finds: the client's host, or nothing on an error. -/
def setXFFHeader (clientHost : Option String) (prior : XffEntry) : XffEntry :=
  match clientHost with
  | none => prior
  | some clientIP =>
    let values := (prior.getD none).getD []
    let omitHeader := prior = some none
    let clientIP := if values.length > 0 then join ", " values ++ ", " ++ clientIP else clientIP
    if !omitHeader then some (some [clientIP]) else prior

/-- The entry after a chain of gateways, each calling `setXFFHeader` with the host it finds in
its `RemoteAddr` and forwarding the header it set to the next. -/
def xffChain (hosts : List (Option String)) (prior : XffEntry) : XffEntry :=
  hosts.foldl (fun entry host => setXFFHeader host entry) prior

theorem join_cons_of_ne_nil (sep s : String) {l : List String} (h : l ≠ []) :
    join sep (s :: l) = s ++ sep ++ join sep l := by
  cases l with
  | nil => exact absurd rfl h
  | cons _ _ => rfl

theorem join_append (sep : String) {l₁ l₂ : List String} (h₁ : l₁ ≠ []) (h₂ : l₂ ≠ []) :
    join sep (l₁ ++ l₂) = join sep l₁ ++ sep ++ join sep l₂ := by
  induction l₁ with
  | nil => exact absurd rfl h₁
  | cons s l ih =>
    by_cases hl : l = []
    · subst hl
      exact join_cons_of_ne_nil sep s h₂
    · rw [List.cons_append, join_cons_of_ne_nil sep s (by simp [hl]), ih hl,
        join_cons_of_ne_nil sep s hl]
      simp only [String.append_assoc]

/-- A gateway that finds its client's host folds the values before it and the host into one. -/
theorem setXFFHeader_some (clientIP : String) {prior : XffEntry} (hp : prior ≠ some none) :
    setXFFHeader (some clientIP) prior =
      some (some [join ", " ((prior.getD none).getD [] ++ [clientIP])]) := by
  simp only [setXFFHeader, hp, decide_False, Bool.not_false, if_true]
  cases hv : (prior.getD none).getD [] with
  | nil => rfl
  | cons v vs =>
    rw [if_pos (by simp), join_append ", " (List.cons_ne_nil v vs) (List.cons_ne_nil _ _)]
    rfl

theorem xffChain_of_filterMap_nil {hosts : List (Option String)} (h : hosts.filterMap id = [])
    (prior : XffEntry) : xffChain hosts prior = prior := by
  induction hosts generalizing prior with
  | nil => rfl
  | cons host hosts ih =>
    cases host with
    | none => exact ih (by simpa using h) prior
    | some _ => simp at h

/-- **Each hop's client is appended, in order.** Through any chain of gateways, a request whose
header is not the `nil` sentinel reaches the upstream with one `X-Forwarded-For` value: the
values the client sent, then the client host of each hop whose `RemoteAddr` splits, joined with
`", "`. -/
theorem xffChain_eq_join (hosts : List (Option String)) (prior : XffEntry)
    (hp : prior ≠ some none) (hne : hosts.filterMap id ≠ []) :
    xffChain hosts prior = some (some [join ", " ((prior.getD none).getD [] ++ hosts.filterMap id)]) := by
  induction hosts generalizing prior with
  | nil => exact absurd rfl hne
  | cons host hosts ih =>
    cases host with
    | none => exact ih prior hp (by simpa using hne)
    | some clientIP =>
      rw [xffChain, List.foldl_cons, ← xffChain, setXFFHeader_some clientIP hp]
      simp only [List.filterMap_cons, id_eq]
      by_cases hrest : hosts.filterMap id = []
      · rw [xffChain_of_filterMap_nil hrest, hrest]
      · rw [ih _ (by simp) hrest, List.append_cons _ clientIP (hosts.filterMap id)]
        simp only [Option.getD_some]
        rw [join_append ", " (by simp) hrest, join_append ", " (by simp) hrest]
        rfl

theorem xffChain_eq_join_twoHops :
    (some (some ["203.0.113.7"]) ≠ some none ∧
      [some "10.0.0.1", none, some "10.0.0.2"].filterMap id ≠ []) ∧
    xffChain [some "10.0.0.1", none, some "10.0.0.2"] (some (some ["203.0.113.7"])) =
      some (some ["203.0.113.7, 10.0.0.1, 10.0.0.2"]) :=
  ⟨⟨by decide, by decide⟩, xffChain_eq_join _ _ (by decide) (by decide)⟩

end Goddess.Proxy
