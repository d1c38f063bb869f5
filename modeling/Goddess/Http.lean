import Mathlib.Data.List.Basic

/-!
# Go values the gateway passes around

Errors are modelled with the structure `errors.Is` walks: a sentinel, an `errors.New`
text, or a `%w` wrapping of another error. A request body is a `bytes.Reader`: its bytes
and the read position. A response body keeps its bytes and whether it still serves reads
once closed (`io.NopCloser` does, the body `net/http` returns does not). Headers are
association lists in the order the code writes them.

The configuration records keep only the fields the modelled functions read.
-/

namespace Goddess

/-- The sentinel errors the code compares with `errors.Is`: `context.Canceled`,
`context.DeadlineExceeded`, the breaker's `circuitbreaker.ErrNotAllowed` and the registry's
`middleware.ErrNotFound`. -/
inductive Sentinel where
  | canceled
  | deadlineExceeded
  | notAllowed
  | notFound
  deriving DecidableEq, Repr

/-- A Go `error` value. -/
inductive GoError where
  | sentinel (s : Sentinel)
  | text (msg : String)
  | wrap (msg : String) (inner : GoError)
  deriving DecidableEq, Repr

/-- Go's `errors.Is(err, target)` for a sentinel target: the `Unwrap` chain reaches it. -/
def GoError.is : GoError → Sentinel → Bool
  | .sentinel s, t => s == t
  | .text _, _ => false
  | .wrap _ e, t => e.is t

/-- Go's `err.Error()`. -/
def GoError.error : GoError → String
  | .sentinel .canceled => "context canceled"
  | .sentinel .deadlineExceeded => "context deadline exceeded"
  | .sentinel .notAllowed => "circuitbreaker: not allowed for circuit open"
  | .sentinel .notFound => "Middleware has not been registered"
  | .text msg => msg
  | .wrap msg _ => msg

/-- Go's `unicode.IsSpace`. -/
def isSpace (c : Char) : Bool :=
  let n := c.toNat
  (9 ≤ n && n ≤ 13) || n == 32 || n == 0x85 || n == 0xA0 || n == 0x1680 ||
    (0x2000 ≤ n && n ≤ 0x200A) || n == 0x2028 || n == 0x2029 || n == 0x202F || n == 0x205F ||
    n == 0x3000

/-- Go's `strings.TrimSpace`. -/
def trimSpace (s : List Char) : List Char :=
  ((s.dropWhile isSpace).reverse.dropWhile isSpace).reverse

@[simp] theorem ok_bind {ε α β : Type} (a : α) (f : α → Except ε β) :
    (Except.ok a >>= f) = f a := rfl

@[simp] theorem error_bind {ε α β : Type} (e : ε) (f : α → Except ε β) :
    (Except.error e >>= f) = Except.error e := rfl

/-- A `bytes.Reader`: its bytes and how far it has been read. -/
structure Reader where
  data : List UInt8
  pos : Nat
  deriving DecidableEq, Repr

/-- Go's `bytes.NewReader(b)`. -/
def Reader.ofBytes (b : List UInt8) : Reader := ⟨b, 0⟩

/-- What reading the reader to its end yields. -/
def Reader.rest (r : Reader) : List UInt8 := r.data.drop r.pos

@[simp] theorem Reader.rest_ofBytes (b : List UInt8) : (Reader.ofBytes b).rest = b := rfl

/-- An `http.Header`, as the list of entries in the order they are set. -/
abbrev Header := List (String × List String)

/-- A `url.Values`: each query key with its values. -/
abbrev Values := List (String × List String)

/-- Go's `v[k]` on a `url.Values`: the values under a key, none when it is absent. -/
def Values.getAll (v : Values) (k : String) : List String := (v.lookup k).getD []

/-- Go's `url.Values.Get`: the first value under a key, or `""`. -/
def Values.get (v : Values) (k : String) : String := (v.getAll k).headD ""

/-- Go's `validHeaderFieldByte`: a letter, a digit, or one of the token symbols of RFC 7230,
given by code point. -/
def validHeaderFieldByte (c : Char) : Bool :=
  c.isAlphanum || [33, 35, 36, 37, 38, 39, 42, 43, 45, 46, 94, 95, 96, 124, 126].contains c.toNat

/-- The loop of Go's `canonicalMIMEHeaderKey`: a letter is upper case first and after a `-`,
lower case elsewhere. -/
def canonicalKeyChars : Bool → List Char → List Char
  | _, [] => []
  | upper, c :: cs => (if upper then c.toUpper else c.toLower) :: canonicalKeyChars (c == '-') cs

/-- Go's `textproto.CanonicalMIMEHeaderKey`; a key with a character that is not a token
character is left as it is. -/
def canonicalMIMEHeaderKey (s : String) : String :=
  if s.toList.all validHeaderFieldByte then ⟨canonicalKeyChars true s.toList⟩ else s

/-- Go's `Header.Get`: the first value under the key's canonical form, or `""`. A request's
header, as `net/http` reads it, has each canonical key once. -/
def Header.get (h : Header) (k : String) : String := Values.get h (canonicalMIMEHeaderKey k)

/-- A response body (`io.ReadCloser`): its bytes, and whether `Read` still returns them once
`Close` has been called. -/
structure Body where
  content : List UInt8
  readableAfterClose : Bool
  deriving DecidableEq, Repr

/-- An upstream `*http.Response`; `body = none` is a nil `Body`. -/
structure Response where
  statusCode : Nat
  header : Header
  body : Option Body
  trailer : Header
  deriving DecidableEq, Repr

/-- The endpoint protocol, `config.Protocol`. -/
inductive Protocol where
  | HTTP
  | GRPC
  deriving DecidableEq, Repr

/-- A middleware entry, `config.Middleware`. -/
structure Middleware where
  name : String
  deriving DecidableEq, Repr

/-- An endpoint entry, `config.Endpoint`. -/
structure Endpoint where
  protocol : Protocol
  path : String
  method : String
  host : String
  stream : Bool
  middlewares : List Middleware
  deriving DecidableEq, Repr

/-- A gateway configuration, `config.Gateway`: the global middlewares and the endpoints. -/
structure Gateway where
  middlewares : List Middleware
  endpoints : List Endpoint
  deriving DecidableEq, Repr

end Goddess
