import Goddess.Middleware.Namespace
import Goddess.Proxy.StreamBody

/-!
# The JWT middleware

`jwt.Middleware` splits the request's `Authorization` value at its first space
(`strings.SplitN(value, " ", 2)`), requires the part before it to be `Bearer` up to case, and
hands everything after that space to `jwtv5.Parse` with the configured secret, algorithms and
issuer. The round tripper calls `next.RoundTrip` exactly when the value is a space-free scheme
equal to `Bearer` up to case, a space, and a token `Parse` accepts as valid
(`roundTrip_forwards_iff_bearer`). Any other request is answered with `ErrorForbidden` and
`invalid token 0` (the value), `invalid token 1` (a parse error) or `invalid token 2` (a token
that is not valid).

`jwtv5.Parse` under the options, and `anypb.UnmarshalTo`, are parameters. The `merr` error and
the JSON response `newForbiddenResponse` makes of it are kept as the error's message, as in
`Goddess.Middleware.Namespace`.
-/

namespace Goddess.Middleware.Jwt

open Goddess.Middleware.Namespace (Merr Outcome)
open Goddess.Proxy (equalFold equalFoldChars)

/-- The `jwtv1.Jwt` options. -/
structure Options where
  secret : String
  algorithms : List String
  issuer : String
  deriving DecidableEq, Repr

/-- `&jwtv1.Jwt{}`, the options when the middleware config sets none. -/
def Options.empty : Options := ⟨"", [], ""⟩

/-- The text before the first `sep` and the text after it, or nothing when there is no `sep`. -/
def cutChar (sep : Char) : List Char → Option (List Char × List Char)
  | [] => none
  | c :: cs => if c = sep then some ([], cs) else (cutChar sep cs).map fun p => (c :: p.1, p.2)

/-- Go's `strings.SplitN(s, sep, 2)` for a one-character `sep`. -/
def splitN2 (s : String) (sep : Char) : List String :=
  match cutChar sep s.toList with
  | some (before, after) => [⟨before⟩, ⟨after⟩]
  | none => [s]

/-- The round tripper `Middleware` returns, given `jwtv5.Parse` under its options (an error, or
the token's `Valid`) and the request's header. -/
def roundTrip (parse : String → Except GoError Bool) (header : Header) : Outcome :=
  match splitN2 (header.get "Authorization") ' ' with
  | [scheme, jwtToken] =>
    if !equalFold scheme "Bearer" then .respond (.forbidden "invalid token 0")
    else
      match parse jwtToken with
      | .error _ => .respond (.forbidden "invalid token 1")
      | .ok false => .respond (.forbidden "invalid token 2")
      | .ok true => .next
  | _ => .respond (.forbidden "invalid token 0")

/-- Go's `Middleware`, from `c.Options` (`none` when unset, or what `anypb.UnmarshalTo` makes of
it) and `jwtv5.Parse` under each options. -/
def middleware (parse : Options → String → Except GoError Bool)
    (c : Option (Except GoError Options)) : Except GoError (Header → Outcome) :=
  match c.getD (.ok Options.empty) with
  | .error err => .error err
  | .ok options => .ok (roundTrip (parse options))

theorem cutChar_eq_some_iff (sep : Char) (s before after : List Char) :
    cutChar sep s = some (before, after) ↔ s = before ++ sep :: after ∧ sep ∉ before := by
  induction s generalizing before with
  | nil => cases before <;> simp [cutChar]
  | cons c cs ih =>
    by_cases hc : c = sep
    · subst hc
      cases before with
      | nil => simp [cutChar, eq_comm]
      | cons b bs =>
        simp only [cutChar, if_pos, Option.some.injEq, Prod.mk.injEq, List.cons_append,
          List.cons.injEq, List.mem_cons]
        exact ⟨fun h => (nomatch h.1), fun ⟨⟨hb, _⟩, hn⟩ => absurd (.inl hb) hn⟩
    · cases before with
      | nil => simp [cutChar, hc]
      | cons b bs =>
        rw [cutChar, if_neg hc]
        constructor
        · intro h
          obtain ⟨⟨bs', after'⟩, h1, h2⟩ := Option.map_eq_some'.1 h
          simp only [Prod.mk.injEq, List.cons.injEq] at h2
          obtain ⟨⟨rfl, rfl⟩, rfl⟩ := h2
          obtain ⟨rfl, hbs⟩ := (ih bs').1 h1
          exact ⟨rfl, fun hm => (List.mem_cons.1 hm).elim (fun h => hc h.symm) hbs⟩
        · rintro ⟨h, hm⟩
          simp only [List.cons_append, List.cons.injEq] at h
          obtain ⟨rfl, rfl⟩ := h
          rw [(ih bs).2 ⟨rfl, fun h => hm (.tail _ h)⟩]
          rfl

theorem splitN2_of_cutChar {s : String} {before after : List Char}
    (h : cutChar ' ' s.toList = some (before, after)) : splitN2 s ' ' = [⟨before⟩, ⟨after⟩] := by
  rw [splitN2, h]

/-- **When the JWT middleware forwards a request.** The round tripper calls `next.RoundTrip`
exactly when the `Authorization` value is a scheme with no space, equal to `Bearer` up to case,
then a space, then a token that `jwtv5.Parse` accepts as valid; the token is everything after the
first space, spaces included. -/
theorem roundTrip_forwards_iff_bearer (parse : String → Except GoError Bool) (header : Header) :
    roundTrip parse header = .next ↔ ∃ scheme token,
      (header.get "Authorization").toList = scheme ++ ' ' :: token ∧ ' ' ∉ scheme ∧
        equalFoldChars scheme "Bearer".toList = true ∧ parse ⟨token⟩ = .ok true := by
  constructor
  · intro h
    unfold roundTrip at h
    cases hc : cutChar ' ' (header.get "Authorization").toList with
    | none =>
      rw [splitN2, hc] at h
      cases h
    | some p =>
      rw [splitN2_of_cutChar hc] at h
      dsimp only at h
      obtain ⟨hv, hs⟩ := (cutChar_eq_some_iff _ _ _ _).1 hc
      cases hf : equalFold ⟨p.1⟩ "Bearer"
      · rw [hf] at h
        cases h
      · rw [hf] at h
        cases hp : parse ⟨p.2⟩ with
        | error e => rw [hp] at h; cases h
        | ok v => cases v <;> rw [hp] at h <;> cases h; exact ⟨p.1, p.2, hv, hs, hf, hp⟩
  · rintro ⟨scheme, token, hv, hs, hf, hp⟩
    have hf' : equalFold ⟨scheme⟩ "Bearer" = true := hf
    rw [roundTrip, splitN2_of_cutChar ((cutChar_eq_some_iff _ _ _ _).2 ⟨hv, hs⟩)]
    simp only [hf', hp, Bool.not_true]
    rfl

end Goddess.Middleware.Jwt
