import Goddess.Http
import Goddess.Middleware.Stream

/-!
# Which stream bodies are wrapped

In stream mode `wrapStreamRequestBody` wraps the request body with `WrapReadCloserBody`, which
registers it on the request's `MetaStreamContext`: an HTTP/2 body always, an HTTP/1.x body unless
`isWebSocketRequest` finds a WebSocket upgrade, whose client data arrives through the upgraded
response instead. `wrapStreamResponseBody` registers the response body the same way, through
`WrapReadWriteCloserBody` for the connection of an upgraded response and `WrapReadCloserBody`
for any other body.

`isWebSocketRequest` compares the whole `Connection` value with `Upgrade`, up to case. A
`Connection` value is a comma-separated token list, and a browser may send
`keep-alive, Upgrade`; `isWebSocketRequest` does not find the upgrade in such a list
(`wrapStreamRequestBody_wraps_token_list`), so the body of that request is wrapped and counted.
The upgrades it does find are upgrades as the documentation reads them
(`isWebSocketRequest_specWebSocketUpgrade`).

Go's `strings.EqualFold` is modelled for an ASCII second argument, the only use here. Header
values are Lean strings, so valid UTF-8.
-/

namespace Goddess.Proxy

open Goddess.Middleware

section EqualFold

/-- A rune and a character of an ASCII word are equal under Go's simple case folding
(`unicode.SimpleFold`): a letter matches itself in either case, `k` also the Kelvin sign
(U+212A) and `s` the long s (U+017F); any other character matches only itself. -/
def foldsTo (r c : Char) : Bool :=
  r.toLower == c.toLower || (c.toLower == 'k' && r.toNat == 0x212A) ||
    (c.toLower == 's' && r.toNat == 0x17F)

/-- Go's `strings.EqualFold(s, t)` for an ASCII `t`, rune by rune. -/
def equalFoldChars : List Char → List Char → Bool
  | [], [] => true
  | r :: rs, c :: cs => foldsTo r c && equalFoldChars rs cs
  | _, _ => false

/-- Go's `strings.EqualFold` for an ASCII second argument. -/
def equalFold (s t : String) : Bool := equalFoldChars s.toList t.toList

/-- Each rune of a value equal to a word up to case folds to a character of the word. -/
theorem equalFoldChars_mem {s t : List Char} (h : equalFoldChars s t = true) {r : Char}
    (hr : r ∈ s) : ∃ c ∈ t, foldsTo r c = true := by
  induction s generalizing t with
  | nil => nomatch hr
  | cons x xs ih =>
    cases t with
    | nil => nomatch h
    | cons c cs =>
      rw [equalFoldChars, Bool.and_eq_true] at h
      rcases List.mem_cons.1 hr with rfl | hr
      · exact ⟨c, .head _, h.1⟩
      · obtain ⟨c', hc', hf⟩ := ih h.2 hr
        exact ⟨c', .tail _ hc', hf⟩

theorem equalFold_eq_false_of_mem {s t : String} {r : Char} (hr : r ∈ s.toList)
    (ht : ∀ c ∈ t.toList, foldsTo r c = false) : equalFold s t = false := by
  rw [← Bool.not_eq_true]
  intro h
  obtain ⟨c, hc, hf⟩ := equalFoldChars_mem h hr
  exact absurd hf (by rw [ht c hc]; decide)

end EqualFold

section Wrap

/-- The fields of a stream-mode `*http.Request` that `wrapStreamRequestBody` reads; `hasBody`
is whether `Body` is not `nil`. -/
structure StreamRequest where
  header : Header
  protoMajor : Nat
  hasBody : Bool
  deriving DecidableEq, Repr

/-- The fields of an upstream `*http.Response` that `wrapStreamResponseBody` reads; whether the
body is an `io.ReadWriteCloser` only picks the wrapper, and both register the body alike. -/
structure StreamResponse where
  protoMajor : Nat
  hasBody : Bool
  deriving DecidableEq, Repr

/-- Go's `isWebSocketRequest`. -/
def isWebSocketRequest (r : StreamRequest) : Bool :=
  equalFold (r.header.get "Connection") "Upgrade" && equalFold (r.header.get "Upgrade") "websocket"

/-- Go's `wrapStreamRequestBody`, on the request's stream. -/
def wrapStreamRequestBody (req : StreamRequest) (st : Stream) : Stream :=
  if !req.hasBody then st
  else
    match req.protoMajor with
    | 1 => if isWebSocketRequest req then st else st.wrap
    | 2 => st.wrap
    | _ => st

/-- Go's `wrapStreamResponseBody`, on the request's stream. -/
def wrapStreamResponseBody (resp : StreamResponse) (st : Stream) : Stream :=
  if !resp.hasBody then st
  else
    match resp.protoMajor with
    | 1 => st.wrap
    | 2 => st.wrap
    | _ => st

/-- Whether `wrapStreamRequestBody` wraps the body: an HTTP/2 body, or an HTTP/1.x body of a
request `isWebSocketRequest` does not take for an upgrade. -/
def wrapsRequestBody (req : StreamRequest) : Bool :=
  req.hasBody && (req.protoMajor == 2 || (req.protoMajor == 1 && !isWebSocketRequest req))

theorem wrapStreamRequestBody_eq (req : StreamRequest) (st : Stream) :
    wrapStreamRequestBody req st = if wrapsRequestBody req then st.wrap else st := by
  unfold wrapStreamRequestBody wrapsRequestBody
  cases req.hasBody
  · rfl
  · match req.protoMajor with
    | 0 => rfl
    | 1 => cases isWebSocketRequest req <;> rfl
    | 2 => rfl
    | n + 3 => rfl

/-- **A `Connection` token list is never taken for an upgrade.** The body of an HTTP/1.x request
whose `Connection` value holds a comma is wrapped, whatever tokens the value lists. -/
theorem wrapStreamRequestBody_wraps_token_list (req : StreamRequest) (st : Stream)
    (hbody : req.hasBody = true) (h1 : req.protoMajor = 1)
    (hcomma : ',' ∈ (req.header.get "Connection").toList) :
    wrapStreamRequestBody req st = st.wrap := by
  have hws : isWebSocketRequest req = false := by
    rw [isWebSocketRequest, equalFold_eq_false_of_mem hcomma (by decide), Bool.false_and]
  rw [wrapStreamRequestBody_eq, wrapsRequestBody, hbody, h1, hws]
  rfl

end Wrap

section Spec

/-- The pieces of a header value between its commas. -/
def splitComma : List Char → List (List Char)
  | [] => [[]]
  | c :: cs =>
    if c = ',' then [] :: splitComma cs
    else
      match splitComma cs with
      | p :: ps => (c :: p) :: ps
      | [] => [[c]]

/-- HTTP's optional whitespace around a list element: spaces and tabs. -/
def isOWS (c : Char) : Bool := c == ' ' || c == '\t'

/-- A list element with its optional whitespace removed. -/
def trimOWS (s : List Char) : List Char :=
  ((s.dropWhile isOWS).reverse.dropWhile isOWS).reverse

/-- A WebSocket upgrade as the stream-mode documentation reads it: the `Connection` header, read
as a comma-separated token list, holds the token `upgrade` in any case, and the `Upgrade` header
names `websocket`. -/
def SpecWebSocketUpgrade (header : Header) : Bool :=
  (splitComma (header.get "Connection").toList).any
      (fun token => equalFoldChars (trimOWS token) "upgrade".toList) &&
    equalFold (header.get "Upgrade") "websocket"

theorem splitComma_of_not_mem {s : List Char} (h : ',' ∉ s) : splitComma s = [s] := by
  induction s with
  | nil => rfl
  | cons c cs ih =>
    rw [List.mem_cons, not_or] at h
    rw [splitComma, if_neg (Ne.symm h.1), ih h.2]

theorem dropWhile_isOWS {s : List Char} (h : ∀ c ∈ s, isOWS c = false) :
    s.dropWhile isOWS = s := by
  cases s with
  | nil => rfl
  | cons c cs => exact List.dropWhile_cons_of_neg (by rw [h c (.head _)]; decide)

theorem isOWS_eq_false {r : Char} (h : r ∉ [',', ' ', '\t']) : isOWS r = false := by
  simp only [List.mem_cons, List.mem_singleton, not_or] at h
  simp [isOWS, h.2.1, h.2.2]

theorem trimOWS_of_forall {s : List Char} (h : ∀ c ∈ s, isOWS c = false) : trimOWS s = s := by
  rw [trimOWS, dropWhile_isOWS h, dropWhile_isOWS fun c hc => h c (List.mem_reverse.1 hc),
    List.reverse_reverse]

theorem equalFoldChars_upgrade (s : List Char) :
    equalFoldChars s "upgrade".toList = equalFoldChars s "Upgrade".toList := by
  cases s with
  | nil => rfl
  | cons r rs => rfl

/-- No comma, space or tab folds to a letter of `Upgrade`. -/
theorem foldsTo_upgrade : ∀ c ∈ "Upgrade".toList, ∀ r ∈ [',', ' ', '\t'], foldsTo r c = false := by
  decide

/-- **The upgrades `isWebSocketRequest` finds are upgrades.** A `Connection` value equal to
`Upgrade` up to case is a one-token list holding `upgrade`. -/
theorem isWebSocketRequest_specWebSocketUpgrade {req : StreamRequest}
    (h : isWebSocketRequest req = true) : SpecWebSocketUpgrade req.header = true := by
  rw [isWebSocketRequest, Bool.and_eq_true] at h
  obtain ⟨hconn, hupg⟩ := h
  have hsafe : ∀ r ∈ (req.header.get "Connection").toList, r ∉ [',', ' ', '\t'] :=
    fun r hr hbad => by
      obtain ⟨c, hc, hf⟩ := equalFoldChars_mem hconn hr
      rw [foldsTo_upgrade c hc r hbad] at hf
      exact Bool.false_ne_true hf
  rw [SpecWebSocketUpgrade, splitComma_of_not_mem fun hc => hsafe _ hc (.head _), List.any_cons,
    List.any_nil, Bool.or_false, trimOWS_of_forall fun r hr => isOWS_eq_false (hsafe r hr),
    equalFoldChars_upgrade, Bool.and_eq_true]
  exact ⟨hconn, hupg⟩

theorem isWebSocketRequest_specWebSocketUpgrade_lowercase :
    isWebSocketRequest ⟨[("Connection", ["upgrade"]), ("Upgrade", ["WebSocket"])], 1, true⟩ = true ∧
      SpecWebSocketUpgrade [("Connection", ["upgrade"]), ("Upgrade", ["WebSocket"])] = true :=
  ⟨by decide, @isWebSocketRequest_specWebSocketUpgrade
    ⟨[("Connection", ["upgrade"]), ("Upgrade", ["WebSocket"])], 1, true⟩ (by decide)⟩

/-- The request of a browser that asks for a WebSocket upgrade with `keep-alive, Upgrade`. -/
def keepAliveUpgrade : StreamRequest :=
  ⟨[("Connection", ["keep-alive, Upgrade"]), ("Upgrade", ["websocket"])], 1, true⟩

theorem wrapStreamRequestBody_wraps_token_list_keepAlive :
    SpecWebSocketUpgrade keepAliveUpgrade.header = true ∧
      wrapStreamRequestBody keepAliveUpgrade Stream.init = Stream.init.wrap :=
  ⟨by decide, wrapStreamRequestBody_wraps_token_list keepAliveUpgrade Stream.init rfl rfl
    (by decide)⟩

end Spec

end Goddess.Proxy
