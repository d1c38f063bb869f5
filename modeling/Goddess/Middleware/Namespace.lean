import Goddess.Http

/-!
# The namespace middleware

`namespace.Middleware` reads the request's namespace header (`X-Namespace` unless `key` names
another) and decides whether the request goes on to the next round tripper. An empty namespace
is refused when `required` is set and passes otherwise. A non-empty one is checked by the
function the validation mode selects: the allow list (`whitelist`), the validation API (`api`),
or, in any other mode, the allow list and then the API. `validateNamespaceViaAPI` renders the
body template, builds the request, sends it and compares the status code with the success
codes.

`middleware_forwards_iff` says exactly when a request is forwarded: the allow list decides in
every mode but `api` (`Admits`). The middleware's documented acceptance (`Accepted`) also lets
the validation API accept a namespace in the default mode, but there `validationFunc` returns
`namespace is not allowed` after the API has accepted it (`middleware_refuses_unlisted`). What
the middleware forwards is always accepted (`middleware_forwards_accepted`).

`text/template`, `http.NewRequestWithContext` and the client's `Do` are parameters (`ApiEnv`).
A `merr` error keeps its message; its code, and the JSON body `newForbiddenResponse` writes,
come from `merr` and kratos, which are not under `src/`.
-/

namespace Goddess.Middleware.Namespace

/-- Go's `defaultNamespaceKey`. -/
def defaultNamespaceKey : String := "X-Namespace"

/-- Go's `defaultTimeout`, in nanoseconds. -/
def defaultTimeout : Int := 5000000000

/-- Go's `modeWhitelist`. -/
def modeWhitelist : String := "whitelist"

/-- Go's `modeAPI`. -/
def modeAPI : String := "api"

/-- The `v1.ValidateApi` options: the `headers` map in its iteration order, and
`Timeout.AsDuration()` in nanoseconds, `0` when unset. -/
structure ValidateApi where
  url : String
  method : String
  headers : List (String × String)
  bodyTemplate : String
  successStatusCodes : List Int
  timeout : Int
  deriving DecidableEq, Repr

/-- The `v1.Namespace` options. -/
structure Options where
  key : String
  required : Bool
  validationMode : String
  allowedNamespaces : List String
  validateApi : Option ValidateApi
  deriving DecidableEq, Repr

/-- `&v1.Namespace{}`, the options when the middleware config sets none. -/
def Options.empty : Options := ⟨"", false, "", [], none⟩

/-- The `http.Client` made for the validation API. -/
structure HttpClient where
  timeout : Int
  deriving DecidableEq, Repr

/-- The validation request: the `Header.Set` calls in order, and the body when the template is
set. -/
structure ApiRequest where
  method : String
  url : String
  headers : List (String × String)
  body : Option String
  deriving DecidableEq, Repr

/-- What the validation call reads from `text/template` and `net/http`: the error of
`template.New("body").Parse` on a template; `tmpl.Execute` with the namespace, giving the
body or an error; the error of `http.NewRequestWithContext` for a method and a URL; and
`client.Do`, giving the response's status code or the error (`net/http` reads a three-digit
status code, so `int32(resp.StatusCode)` is the code itself). -/
structure ApiEnv where
  parseTemplate : String → Option GoError
  executeTemplate : String → String → Except GoError String
  newRequest : String → String → Option GoError
  clientDo : HttpClient → ApiRequest → Except GoError Int

/-- The `merr` errors the middleware makes, with their messages. -/
inductive Merr where
  | forbidden (message : String)
  | internal (message : String)
  deriving DecidableEq, Repr

/-- Why `Middleware` returns an error: `anypb.UnmarshalTo` failed, or a `merr` error. -/
inductive BuildError where
  | unmarshal (err : GoError)
  | merr (err : Merr)
  deriving DecidableEq, Repr

/-- What the round tripper does with a request: `next.RoundTrip(req)`, or
`newForbiddenResponse(err)` without calling `next`. -/
inductive Outcome where
  | next
  | respond (err : Merr)
  deriving DecidableEq, Repr

section Mode

/-- Go's `unicode.ToLower` on every rune whose lower case is ASCII: the ASCII capitals, `İ`
(U+0130) and the Kelvin sign (U+212A). Any other rune is kept; Go maps some of them to other
runes, never to ASCII ones, so a comparison with an ASCII word comes out the same. -/
def toLowerRune (c : Char) : Char :=
  if c.toNat = 0x130 then 'i' else if c.toNat = 0x212A then 'k' else c.toLower

/-- The mode `Middleware` switches on: `strings.ToLower(strings.TrimSpace(ValidationMode))`. -/
def validationModeOf (options : Options) : String :=
  ⟨(trimSpace options.validationMode.toList).map toLowerRune⟩

/-- The header the round tripper reads: `key`, or `defaultNamespaceKey` when it is empty. -/
def namespaceKey (options : Options) : String :=
  if options.key == "" then defaultNamespaceKey else options.key

/-- The `httpClient` of `Middleware`, with the `validate_api` options it is made for: set only
when `validate_api` has a URL; a timeout that is not positive becomes `defaultTimeout`. -/
def httpClient (options : Options) : Option (HttpClient × ValidateApi) :=
  match options.validateApi with
  | some api =>
    if api.url != "" then some (⟨if api.timeout ≤ 0 then defaultTimeout else api.timeout⟩, api)
    else none
  | none => none

end Mode

section Api

variable (env : ApiEnv)

/-- The body `validateNamespaceViaAPI` sends: the template rendered for the namespace, none
when no template is set. -/
def validationBody (ns : String) (apiConfig : ValidateApi) : Except Merr (Option String) :=
  if apiConfig.bodyTemplate != "" then
    match env.parseTemplate apiConfig.bodyTemplate with
    | some err => .error (.internal ("failed to parse body template: " ++ err.error))
    | none =>
      match env.executeTemplate apiConfig.bodyTemplate ns with
      | .error err => .error (.internal ("failed to execute body template: " ++ err.error))
      | .ok body => .ok (some body)
  else .ok none

/-- The request `validateNamespaceViaAPI` sends; its method is `POST` when none is set. -/
def validationRequest (ns : String) (apiConfig : ValidateApi) : Except Merr ApiRequest := do
  let body ← validationBody env ns apiConfig
  let method := if apiConfig.method == "" then "POST" else apiConfig.method
  match env.newRequest method apiConfig.url with
  | some err => .error (.internal ("failed to create validation request: " ++ err.error))
  | none =>
    .ok ⟨method, apiConfig.url, apiConfig.headers ++ [("Content-Type", "application/json")], body⟩

/-- The success codes: `successStatusCodes`, or `200` when none is set. -/
def successCodes (apiConfig : ValidateApi) : List Int :=
  if apiConfig.successStatusCodes.isEmpty then [200] else apiConfig.successStatusCodes

/-- Go's `validateNamespaceViaAPI`; `none` is a `nil` error. -/
def validateNamespaceViaAPI (client : HttpClient) (ns : String) (apiConfig : ValidateApi) :
    Option Merr :=
  match validationRequest env ns apiConfig with
  | .error err => some err
  | .ok req =>
    match env.clientDo client req with
    | .error err => some (.internal ("failed to validate namespace: " ++ err.error))
    | .ok statusCode =>
      if (successCodes apiConfig).contains statusCode then none
      else some (.forbidden ("namespace validation failed: status code " ++ toString statusCode))

/-- The validation API answers the namespace with a success code: the client is configured, the
request is built, and `client.Do` returns one of the success codes. -/
def ApiAccepts (options : Options) (ns : String) : Prop :=
  ∃ client api req code, httpClient options = some (client, api) ∧
    validationRequest env ns api = .ok req ∧ env.clientDo client req = .ok code ∧
    code ∈ successCodes api

theorem validateNamespaceViaAPI_eq_none_iff (client : HttpClient) (ns : String)
    (apiConfig : ValidateApi) :
    validateNamespaceViaAPI env client ns apiConfig = none ↔
      ∃ req code, validationRequest env ns apiConfig = .ok req ∧
        env.clientDo client req = .ok code ∧ code ∈ successCodes apiConfig := by
  unfold validateNamespaceViaAPI
  split <;> rename_i hreq
  · simp [hreq]
  · split <;> rename_i hdo
    · simp [hreq, hdo]
    · simp [hreq, hdo]

end Api

section Middleware

variable (env : ApiEnv)

/-- The `validationFunc` of the whitelist mode. -/
def whitelistValidation (whitelistMap : List String) (ns : String) : Option Merr :=
  if whitelistMap.contains ns then none else some (.forbidden "namespace is not allowed")

/-- The `validationFunc` of the default mode: the allow list, when it is not empty, then the
validation API, when its client is configured. -/
def defaultValidation (options : Options) (ns : String) : Option Merr :=
  if !options.allowedNamespaces.isEmpty && options.allowedNamespaces.contains ns then none
  else
    match httpClient options with
    | some (client, api) =>
      match validateNamespaceViaAPI env client ns api with
      | some err => some err
      | none => some (.forbidden "namespace is not allowed")
    | none => some (.forbidden "namespace is not allowed")

/-- The `validationFunc` `Middleware` picks for the mode, or the error it returns instead. The
allow list is Go's `whitelistMap`, which has the same members. -/
def validationFunc (options : Options) : Except Merr (String → Option Merr) :=
  if validationModeOf options = modeWhitelist then
    if options.allowedNamespaces.isEmpty then
      .error (.internal
        "whitelist validation mode is specified but no allowed_namespaces configured")
    else .ok (whitelistValidation options.allowedNamespaces)
  else if validationModeOf options = modeAPI then
    match httpClient options with
    | none => .error (.internal "api validation mode is specified but http client is not configured")
    | some (client, api) => .ok fun ns => validateNamespaceViaAPI env client ns api
  else .ok (defaultValidation env options)

/-- The round tripper `Middleware` returns, given the request's header. -/
def roundTrip (options : Options) (validationFunc : String → Option Merr) (header : Header) :
    Outcome :=
  let ns := header.get (namespaceKey options)
  if options.required && ns == "" then .respond (.forbidden "namespace is required")
  else if ns != "" then
    match validationFunc ns with
    | some err => .respond err
    | none => .next
  else .next

/-- Go's `Middleware`, from `c.Options`: `none` when unset, or what `anypb.UnmarshalTo` makes
of it. -/
def middleware (c : Option (Except GoError Options)) : Except BuildError (Header → Outcome) :=
  match c.getD (.ok Options.empty) with
  | .error err => .error (.unmarshal err)
  | .ok options =>
    match validationFunc env options with
    | .error err => .error (.merr err)
    | .ok validate => .ok (roundTrip options validate)

theorem whitelistValidation_eq_none_iff (whitelistMap : List String) (ns : String) :
    whitelistValidation whitelistMap ns = none ↔ ns ∈ whitelistMap := by
  simp [whitelistValidation]

/-- The default mode lets a namespace through only from the allow list: when the allow list
does not hold it, an API error or `namespace is not allowed` is returned. -/
theorem defaultValidation_eq_none_iff (options : Options) (ns : String) :
    defaultValidation env options ns = none ↔ ns ∈ options.allowedNamespaces := by
  unfold defaultValidation
  split_ifs with h
  · simp_all
  · simp only [Bool.and_eq_true, Bool.not_eq_true', List.isEmpty_eq_false, List.elem_iff,
      List.contains] at h
    refine iff_of_false ?_ fun hmem => h ⟨List.ne_nil_of_mem hmem, hmem⟩
    split
    · split <;> nofun
    · nofun

/-- What the `validationFunc` of `Middleware` lets through: the validation API in the api mode,
the allow list in every other. -/
def Admits (options : Options) (ns : String) : Prop :=
  if validationModeOf options = modeAPI then ApiAccepts env options ns
  else ns ∈ options.allowedNamespaces

theorem validationFunc_eq_none_iff {options : Options} {validate : String → Option Merr}
    (h : validationFunc env options = .ok validate) (ns : String) :
    validate ns = none ↔ Admits env options ns := by
  unfold validationFunc at h
  unfold Admits
  split_ifs at h with hw he ha
  · cases h
    rw [if_neg (hw ▸ by decide), whitelistValidation_eq_none_iff]
  · rw [if_pos ha]
    split at h
    · cases h
    · rename_i client api hc
      cases h
      rw [validateNamespaceViaAPI_eq_none_iff]
      exact ⟨fun ⟨req, code, h⟩ => ⟨client, api, req, code, hc, h⟩,
        fun ⟨_, _, req, code, hc', h⟩ => by cases hc.symm.trans hc'; exact ⟨req, code, h⟩⟩
  · cases h
    rw [if_neg ha, defaultValidation_eq_none_iff]

theorem roundTrip_eq_next_iff (options : Options) (validate : String → Option Merr)
    (header : Header) :
    roundTrip options validate header = .next ↔
      (header.get (namespaceKey options) = "" ∧ options.required = false) ∨
        (header.get (namespaceKey options) ≠ "" ∧ validate (header.get (namespaceKey options)) = none) := by
  unfold roundTrip
  by_cases hns : header.get (namespaceKey options) = ""
  · cases options.required <;> simp [hns]
  · cases h : validate (header.get (namespaceKey options)) <;> simp [hns, h]

theorem middleware_ok_iff (options : Options) (rt : Header → Outcome) :
    middleware env (some (.ok options)) = .ok rt ↔
      ∃ validate, validationFunc env options = .ok validate ∧ roundTrip options validate = rt := by
  simp only [middleware, Option.getD_some]
  cases validationFunc env options <;> simp

/-- The acceptance of a non-empty namespace as the middleware is documented: the allow list in
the whitelist mode, the validation API in the api mode, and either of the two in any other. -/
def Accepted (options : Options) (ns : String) : Prop :=
  if validationModeOf options = modeWhitelist then ns ∈ options.allowedNamespaces
  else if validationModeOf options = modeAPI then ApiAccepts env options ns
  else ns ∈ options.allowedNamespaces ∨ ApiAccepts env options ns

theorem Admits.accepted {options : Options} {ns : String} (h : Admits env options ns) :
    Accepted env options ns := by
  unfold Admits at h
  unfold Accepted
  by_cases ha : validationModeOf options = modeAPI
  · rw [if_pos ha] at h
    rw [if_neg (ha ▸ by decide), if_pos ha]
    exact h
  · rw [if_neg ha] at h
    split_ifs <;> first | exact h | exact Or.inl h

/-- **When the namespace middleware forwards a request.** The round tripper of a middleware that
was built calls `next.RoundTrip` exactly when the namespace is empty and not required, or is
non-empty and admitted: by the validation API in the api mode, by the allow list in every
other. -/
theorem middleware_forwards_iff {options : Options} {rt : Header → Outcome}
    (hmw : middleware env (some (.ok options)) = .ok rt) (header : Header) :
    rt header = .next ↔
      (header.get (namespaceKey options) = "" ∧ options.required = false) ∨
        (header.get (namespaceKey options) ≠ "" ∧
          Admits env options (header.get (namespaceKey options))) := by
  obtain ⟨validate, hv, rfl⟩ := (middleware_ok_iff env options rt).1 hmw
  rw [roundTrip_eq_next_iff, validationFunc_eq_none_iff env hv]

/-- A validation API that answers every request with `200`; templates and requests never
fail. -/
def acceptingApi : ApiEnv where
  parseTemplate _ := none
  executeTemplate _ ns := .ok ns
  newRequest _ _ := none
  clientDo _ _ := .ok 200

/-- The default mode, with no allow list and a validation API at `http://validator`. -/
def validatorOptions : Options :=
  ⟨"", false, "", [], some ⟨"http://validator", "", [], "", [], 0⟩⟩

/-- The whitelist mode, written with blanks and a capital, allowing `team-a`. -/
def whitelistOptions : Options := ⟨"", false, " Whitelist ", ["team-a"], none⟩

theorem middleware_forwards_iff_whitelist :
    middleware acceptingApi (some (.ok whitelistOptions)) =
      .ok (roundTrip whitelistOptions (whitelistValidation ["team-a"])) ∧
    (roundTrip whitelistOptions (whitelistValidation ["team-a"]) [("X-Namespace", ["team-b"])] =
        .next ↔
      ("team-b" = "" ∧ false = false) ∨
        ("team-b" ≠ "" ∧ Admits acceptingApi whitelistOptions "team-b")) :=
  ⟨rfl, @middleware_forwards_iff acceptingApi whitelistOptions _ rfl [("X-Namespace", ["team-b"])]⟩

/-- **Outside the api mode, only the allow list lets a namespace through.** A non-empty
namespace that is not on the allow list is refused, whatever the validation API answers. -/
theorem middleware_refuses_unlisted {options : Options} {rt : Header → Outcome}
    (hmw : middleware env (some (.ok options)) = .ok rt) (hmode : validationModeOf options ≠ modeAPI)
    (header : Header) (hns : header.get (namespaceKey options) ≠ "")
    (hout : header.get (namespaceKey options) ∉ options.allowedNamespaces) :
    rt header ≠ .next := by
  obtain ⟨validate, hv, rfl⟩ := (middleware_ok_iff env options rt).1 hmw
  rw [Ne, roundTrip_eq_next_iff, validationFunc_eq_none_iff env hv, Admits, if_neg hmode]
  rintro (⟨h, -⟩ | ⟨-, h⟩)
  · exact hns h
  · exact hout h

theorem middleware_refuses_unlisted_validator :
    middleware acceptingApi (some (.ok validatorOptions)) =
      .ok (roundTrip validatorOptions (defaultValidation acceptingApi validatorOptions)) ∧
    Accepted acceptingApi validatorOptions "team-a" ∧
    roundTrip validatorOptions (defaultValidation acceptingApi validatorOptions)
      [("X-Namespace", ["team-a"])] ≠ .next := by
  refine ⟨rfl, ?_, @middleware_refuses_unlisted acceptingApi validatorOptions _ rfl (by decide)
    [("X-Namespace", ["team-a"])] (by decide) (by decide)⟩
  rw [Accepted, if_neg (by decide), if_neg (by decide)]
  exact .inr ⟨⟨defaultTimeout⟩, ⟨"http://validator", "", [], "", [], 0⟩,
    ⟨"POST", "http://validator", [("Content-Type", "application/json")], none⟩, 200,
    rfl, rfl, rfl, by decide⟩

/-- **What the middleware forwards is accepted.** -/
theorem middleware_forwards_accepted {options : Options} {rt : Header → Outcome}
    (hmw : middleware env (some (.ok options)) = .ok rt) (header : Header)
    (hnext : rt header = .next) :
    (header.get (namespaceKey options) = "" ∧ options.required = false) ∨
      (header.get (namespaceKey options) ≠ "" ∧
        Accepted env options (header.get (namespaceKey options))) := by
  obtain ⟨validate, hv, rfl⟩ := (middleware_ok_iff env options rt).1 hmw
  rw [roundTrip_eq_next_iff, validationFunc_eq_none_iff env hv] at hnext
  exact hnext.imp_right fun h => ⟨h.1, h.2.accepted env⟩

theorem middleware_forwards_accepted_whitelist :
    ("team-a" = "" ∧ false = false) ∨
      ("team-a" ≠ "" ∧ Accepted acceptingApi whitelistOptions "team-a") :=
  @middleware_forwards_accepted acceptingApi whitelistOptions _ rfl [("X-Namespace", ["team-a"])]
    (by decide)

end Middleware

end Goddess.Middleware.Namespace
