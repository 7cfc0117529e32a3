import LabelFilter.Text.Letters
import LabelFilter.Text.Numeral

/-!
# Requests and responses

What a client sends and what it gets. The target of a request is a path with a query, a whole
URI, or something without a path. The body may break off when the client goes away.

## Main definitions

* `Http.Method`, `Http.Request`, `Http.Response` — the two halves of an exchange
* `Http.pathOfTarget` — the path in the target of a request
* `Http.Request.deliver` — the whole body of a request, if it arrives
-/

namespace LabelFilter.Http

/-- What a client wants done. -/
inductive Method where
  | get
  | head
  | post
  | options
  | other (token : String)
  deriving DecidableEq, Repr

/-- The method that a token names. Letter case matters. -/
def Method.ofToken : String → Method
  | "GET" => .get
  | "HEAD" => .head
  | "POST" => .post
  | "OPTIONS" => .options
  | token => .other token

/-- The token of a method. -/
def Method.token : Method → String
  | .get => "GET"
  | .head => "HEAD"
  | .post => "POST"
  | .options => "OPTIONS"
  | .other token => token

/-! ### Targets -/

/-- Whether a character can stand in the scheme of a URI. -/
def isSchemeChar (c : Char) : Bool := c.isAlphanum || c == '+' || c == '-' || c == '.'

/-- Whether a character ends the path of a target. -/
def endsPath (c : Char) : Bool := c == '?' || c == '#'

/-- The path in the target of a request, as it is written there. A whole URI without a path has
the path of the root, and a target that is only an authority has the empty path. -/
def pathOfTarget (target : String) : String :=
  let cs := target.toList
  if target = "*" then target
  else if cs.head? = some '/' then String.ofList (cs.takeWhile fun c => !endsPath c)
  else
    match cs.dropWhile isSchemeChar with
    | ':' :: '/' :: '/' :: rest =>
      let afterAuthority := rest.dropWhile fun c => !(c == '/' || endsPath c)
      let path := afterAuthority.takeWhile fun c => !endsPath c
      if path = [] then "/" else String.ofList path
    | _ => ""

/-! ### Requests -/

/-- What a client sends. -/
structure Request where
  method : Method
  target : String
  headers : List (String × String)
  /-- What arrives of the body. -/
  body : ByteArray
  /-- Why no more arrives, if the body breaks off. -/
  failure : Option String := none

/-- Why a body does not arrive. -/
inductive DeliveryError where
  | tooLong
  | broken (reason : String)
  deriving DecidableEq, Repr

namespace Request

/-- The path that a request is about. -/
def path (r : Request) : String := pathOfTarget r.target

/-- The value of a header. The letter case of its name does not matter. -/
def header? (r : Request) (name : String) : Option String :=
  (r.headers.find? fun h => Text.sameLetters h.1 name).map (·.2)

/-- The length that a request announces, if it announces a number of 64 bits. -/
def announcedLength? (r : Request) : Option Nat := do
  (Numeral.natural UInt64.size (← r.header? "content-length")).toOption

/-- The whole body of a request, unless it is longer than `limit` or announced to be, or it breaks
off. -/
def deliver (r : Request) (limit : Nat) : Except DeliveryError ByteArray :=
  if limit < r.announcedLength?.getD 0 ∨ limit < r.body.size then .error .tooLong
  else
    match r.failure with
    | some reason => .error (.broken reason)
    | none => .ok r.body

end Request

/-! ### Responses -/

/-- What a client gets. -/
structure Response where
  status : Nat
  headers : List (String × String) := []
  body : String := ""
  deriving DecidableEq, Repr

namespace Response

/-- The value of a header. -/
def header? (r : Response) (name : String) : Option String := r.headers.lookup name

/-- A response whose body is JSON. -/
def json (status : Nat) (body : String) : Response :=
  ⟨status, [("content-type", "application/json")], body⟩

/-- A response with a further header. -/
def withHeader (r : Response) (name value : String) : Response :=
  { r with headers := r.headers ++ [(name, value)] }

/-- A response without its body. -/
def withoutBody (r : Response) : Response := { r with body := "" }

end Response

end LabelFilter.Http
