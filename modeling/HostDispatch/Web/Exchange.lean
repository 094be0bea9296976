import HostDispatch.Web.Url
import HostDispatch.Web.Header
import HostDispatch.Fault

/-!
# Exchanges with a scripted transport

An exchange sends a request and follows redirects. The transport is scripted: request number `k`
of the exchange gets reply `k`. A reply is a response (status, header, body, and a fault the body
ends with), a failure of the transport, or a wait that lasts until the deadline of the request.

A request must have a method that is a token. It is sent to its URL with an empty port dropped,
and a URL with user information adds `Authorization: Basic ...` when the request has none.

A response with status 301, 302 or 303 is followed with `GET` (a `HEAD` stays `HEAD`) and without
the body; 307 and 308 keep the method and send the body again. A redirect without a `Location`
ends the exchange with that response. The next request has the first request's header, without
its credentials once the exchange has left the first host for one that is not a subdomain of it,
and a `Referer` naming the last URL without its user information (none from `https` to `http`).
The eleventh request is not sent: the exchange fails after ten redirects.

Faults of the exchange name the method (`Get`, `Post`, ...) and the URL of the request that
failed, with its password shown as `***`: `Get "http://host/": reason`.
-/

namespace HostDispatch

namespace Exchange

/-- A scripted reply to one request. -/
inductive Reply where
  /-- A response; its body ends with `bodyFault` when one is given, a timeout if `timeout`. -/
  | response (status : Int) (header : Header) (body : List Nat) (bodyFault : Option String)
      (timeout : Bool)
  /-- The transport fails; the fault reports a timeout if `timeout`. -/
  | failure (message : String) (timeout : Bool)
  /-- The transport waits until the deadline of the request passes. -/
  | block
deriving Inhabited

/-- A request as the transport receives it. -/
structure Sent where
  method : String
  url : String
  header : Header
  body : List Nat
deriving Inhabited

/-- A request to send. -/
structure Request where
  method : String
  url : Url
  header : Header
  body : Option (List Nat)

/-- The final response of an exchange. -/
structure Response where
  status : Int
  header : Header
  body : List Nat
  bodyFault : Option String
  timeout : Bool

/-- A fault that ended an exchange, and whether it reports a timeout. -/
structure Failure where
  fault : Fault
  timedOut : Bool

/-- A method is a nonempty token. -/
def validMethod (method : String) : Bool := method ≠ "" && method.toList.all Header.isTokenChar

/-- A request for a method and URL text: the method is checked and the URL read again, with an
empty port dropped. -/
def Request.make (method urlText : String) (header : Header) (body : Option (List Nat)) :
    Except Fault Request :=
  let method := if method = "" then "GET" else method
  if !validMethod method then .error (.plain ("net/http: invalid method " ++ Text.quote method))
  else
    match Url.parse urlText with
    | .error e => .error (.wrapped ("parse " ++ Text.quoteRaw e.text ++ ": ") "" (.plain e.reason))
    | .ok u => .ok ⟨method, { u with host := Url.dropEmptyPort u.host }, header, body⟩

/-- The word for a method in faults: its first letter, then the rest in lowercase. -/
def operation (method : String) : String :=
  match method.toList with
  | [] => "Get"
  | c :: rest =>
    if method.toList.all fun d => 0x20 ≤ d.toNat && d.toNat ≤ 0x7E then
      String.ofList (c :: rest.map Char.toLower)
    else method

/-- A fault of the request to a URL. -/
def urlFault (op url : String) (cause : Fault) : Fault :=
  .wrapped (op ++ " " ++ Text.quote url ++ ": ") "" cause

/-- The base64 digit of a value below 64. -/
def base64Digit (n : Nat) : Char :=
  if n < 26 then Char.ofNat (65 + n) else if n < 52 then Char.ofNat (97 + n - 26)
  else if n < 62 then Char.ofNat (48 + n - 52) else if n = 62 then '+' else '/'

/-- Bytes in standard base64 with padding. -/
def base64 : List Nat → List Char
  | [] => []
  | [a] => [base64Digit (a / 4), base64Digit (a % 4 * 16), '=', '=']
  | [a, b] =>
    [base64Digit (a / 4), base64Digit (a % 4 * 16 + b / 16), base64Digit (b % 16 * 4), '=']
  | a :: b :: c :: rest =>
    base64Digit (a / 4) :: base64Digit (a % 4 * 16 + b / 16) ::
      base64Digit (b % 16 * 4 + c / 64) :: base64Digit (c % 64) :: base64 rest

/-- The header a request is sent with: credentials from its URL when it has none of its own. -/
def sentHeader (r : Request) : Header :=
  match r.url.user with
  | some i =>
    if r.header.get "Authorization" = "" then
      let pair := i.username ++ [Url.byte ':'] ++ i.password.getD []
      r.header.set "Authorization" ("Basic " ++ String.ofList (base64 pair))
    else r.header
  | none => r.header

/-- The method of the next request and whether the body goes with it, if a status redirects. -/
def redirectBehavior (method : String) (status : Int) : Option (String × Bool) :=
  if status = 301 || status = 302 || status = 303 then
    some (if method = "GET" || method = "HEAD" then method else "GET", false)
  else if status = 307 || status = 308 then some (method, true)
  else none

/-- Whether a host is a domain or one of its subdomains. -/
def isDomainOrSubdomain (sub parent : List Nat) : Bool :=
  if sub = parent then true
  else if sub.contains (Url.byte ':') || sub.contains (Url.byte '%') then false
  else
    parent.length < sub.length && sub.drop (sub.length - parent.length) = parent &&
      sub[sub.length - parent.length - 1]? = some (Url.byte '.')

/-- A host name with its ASCII capitals lowered. -/
def lowerHost (h : List Nat) : List Nat :=
  h.map fun b => if 65 ≤ b && b ≤ 90 then b + 32 else b

/-- Whether credentials may follow a redirect from one URL to another: the new host is the first
host or one of its subdomains, in any case. -/
def keepsCredentials (initial dest : Url) : Bool :=
  isDomainOrSubdomain (lowerHost dest.hostname) (lowerHost initial.hostname)

/-- The names whose values are credentials. -/
def sensitive (name : String) : Bool :=
  ["Authorization", "Www-Authenticate", "Cookie", "Cookie2", "Proxy-Authorization",
   "Proxy-Authenticate"].contains (Header.canonical name)

/-- The `Referer` of a redirect: the explicit one, else the last URL without user information;
none from `https` to `http`. -/
def referer (last next : Url) (explicit : String) : String :=
  if last.scheme = Url.ascii "https" && next.scheme = Url.ascii "http" then ""
  else if explicit ≠ "" then explicit
  else last.withoutUser

/-- What the requests of one exchange share: the replies, the first request and its label. -/
structure Chain where
  replies : Nat → Reply
  first : Request
  op : String

/-- The largest number of requests an exchange sends. -/
def hopLimit : Nat := 10

/-- Send request `k` and follow what it gets; `strip` tells whether credentials were dropped. -/
def follow (c : Chain) : Nat → Nat → Request → Bool → Bool → List Sent →
    List Sent × Except Failure Response
  | 0, _, _, _, _, sent => (sent, .error ⟨.plain "stopped after 10 redirects", false⟩)
  | fuel + 1, k, r, includeBody, strip, sent =>
    let sent := sent ++ [⟨r.method, r.url.text, sentHeader r, r.body.getD []⟩]
    let fail (cause : Fault) (timedOut : Bool) : List Sent × Except Failure Response :=
      (sent, .error ⟨urlFault c.op r.url.withoutPassword cause, timedOut⟩)
    match c.replies k with
    | .failure m t => fail (.plain m) t
    | .block => fail (.plain "context deadline exceeded") true
    | .response status header body bodyFault timeout =>
      let resp : Response := ⟨status, header, body, bodyFault, timeout⟩
      match redirectBehavior r.method status with
      | none => (sent, .ok resp)
      | some (method, withBody) =>
        let includeBody := includeBody && withBody
        let loc := header.get "Location"
        if loc = "" then (sent, .ok resp)
        else
          match Url.parse loc with
          | .error e =>
            fail (.plain ("failed to parse Location header " ++ Text.quote loc ++ ": " ++ e.message))
              false
          | .ok ref =>
            let next := Url.resolve r.url ref
            let strip := strip ||
              (c.first.url.host ≠ next.host && !keepsCredentials c.first.url next)
            let header : Header :=
              { entries := c.first.header.entries.filter fun (k, _) => !(strip && sensitive k) }
            let ref := referer r.url next (header.get "Referer")
            let header := if ref ≠ "" then header.set "Referer" ref else header
            if k + 1 ≥ hopLimit then
              (sent, .error ⟨urlFault c.op loc (.plain "stopped after 10 redirects"), false⟩)
            else
              follow c fuel (k + 1)
                ⟨method, next, header, if includeBody then c.first.body else none⟩
                includeBody strip sent

/-- Send a request and follow its redirects: the requests sent, then the final response or the
fault that ended the exchange. -/
def run (replies : Nat → Reply) (r : Request) : List Sent × Except Failure Response :=
  follow ⟨replies, r, operation r.method⟩ hopLimit 0 r true false []

/-- Read a body through a limit: a body shorter than the limit ends with its fault, if any. -/
def Response.read (resp : Response) (limit : Nat) : Except Failure (List Nat) :=
  if resp.body.length < limit then
    match resp.bodyFault with
    | some m => .error ⟨.plain m, resp.timeout⟩
    | none => .ok resp.body
  else .ok (resp.body.take limit)

end Exchange

end HostDispatch
