import HostDispatch.Provider.Fetch
import HostDispatch.Request.Observe
import HostDispatch.Answer

/-!
# Fetch requests

`fetch_new` makes a fetch and shows it: its URL as written and redacted, the parts of the URL, the
method, the name and the request header. `fetch` makes a fetch, adds `X-Added-After-New: 1` to its
header, runs it against scripted replies and shows what happened: the run, the outcome, every
request the transport received, the dispatches and releases of the controller, and the metric
and log lines when they were asked for.

A scripted reply is `{"block": true}`, a failure `{"error", "timeout_error"}`, or a response
`{"status", "headers", "body", "body_error", "timeout_error"}` (status 200 when missing). Request
`k` gets reply `k`; the last reply repeats, and without replies every request gets an empty 200.
-/

namespace HostDispatch

namespace Request

/-- A truth-value field with a default for when it is missing. -/
def boolOr (j : Json) (key : String) (default : Bool) : Except String Bool :=
  match j.get? key with
  | none | some .null => .ok default
  | some (.bool b) => .ok b
  | some _ => .error (fieldFault key "not a bool")

/-- A list of name and value pairs. -/
def pairs (j : Json) (key : String) : Except String (List (String × String)) := do
  (← list j key).mapM fun p =>
    match p with
    | .arr [.str k, .str v] => .ok (k, v)
    | _ => .error (fieldFault key "not a pair of strings")

/-- A scripted reply. -/
def replyArg (r : Json) : Except String Exchange.Reply := do
  let timeout ← bool r "timeout_error"
  if ← bool r "block" then return .block
  match ← str? r "error" with
  | some m => return .failure m timeout
  | none =>
    let status ← int r "status"
    let header := (← pairs r "headers").foldl (fun h (k, v) => h.add k v) {}
    let body ← str r "body"
    let bodyFault ← str? r "body_error"
    return .response (if status = 0 then 200 else status) header (Text.bytes body) bodyFault timeout

/-- The replies of a request: reply `k`, the last for every later one, an empty 200 without any. -/
def repliesArg (req : Json) : Except String (Nat → Exchange.Reply) := do
  let rs ← (← list req "responses").mapM replyArg
  return fun k => (rs[k]?).getD (rs.getLast?.getD (.response 200 {} [] none false))

/-- The settings of a fetch request. -/
def fetchOptions (req : Json) : Except String FetchOptions := do
  return {
    method := ← str req "method"
    headers := ← pairs req "headers"
    body := (← str? req "body").map Text.bytes
    timeout := ← int req "timeout"
    maxBody := ← int req "max_body"
    name := ← str req "name"
    logger := ← loggerArg req }

/-- The header as lines, or null when it is empty. -/
def headerOrNull (h : Header) : Json :=
  if h.entries.isEmpty then .null else .arr (h.lines.map .str)

/-- The answer to `fetch_new`. -/
def fetchNewAnswer (req : Json) : Except String Json := do
  let url ← str req "url"
  match Fetch.make url (← fetchOptions req) with
  | .error e => return Answer.fault e
  | .ok f =>
    return .obj [
      ("url", .str f.url.text), ("redacted", .str f.url.redacted),
      ("scheme", .str (Text.lossy f.url.scheme)), ("host", .str (Text.lossy f.url.host)),
      ("path", .str (Text.lossy f.url.path)), ("query", .str (Text.lossy f.url.rawQuery)),
      ("method", .str f.method), ("name", .str f.name), ("headers", headerOrNull f.header),
      ("result", .str FetchResult.pending.name), ("status", .int 0)]

/-- A pool of one worker with a queue of one. Once Run returns, the worker runs what it was
given and the pool is shut down. -/
def roomyPool : PoolRun where
  config := { name := "default", workers := 1, queueSize := 1 }
  positive := by decide
  before := []
  after := [.worker 0 .receive, .worker 0 .step, .worker 0 .step] ++ Pool.shutDown 1
  finished := by decide

/-- A pool of one worker, busy with a task, that queues nothing. Once Run returns, the worker
finishes its task and the pool is shut down. -/
def busyPool : PoolRun where
  config := { name := "default", workers := 1, queueSize := 0 }
  positive := by decide
  before := (Pool.handover 0 (some .pause) .submit).dropLast
  after := .worker 0 .step :: Pool.shutDown 1
  finished := by decide

/-- A pool of one worker that was shut down. -/
def closedPool : PoolRun where
  config := { name := "default", workers := 1, queueSize := 1 }
  positive := by decide
  before := Pool.shutDown 1
  after := []
  finished := by decide

/-- How a request's fetch is started. -/
def launchArg (req : Json) : Except String Launch := do
  let p ← str req "pool"
  if p = "" || p = "none" then return .task
  else if p = "pool" then return .pool roomyPool
  else if p = "full" then return .pool busyPool
  else if p = "closed" then return .pool closedPool
  else throw (fieldFault "pool" ("unknown pool " ++ Text.quote p))

/-- Bytes as lowercase hexadecimal text. -/
def hexText (bs : List Nat) : String :=
  String.join (bs.map fun b => String.ofList [Json.hexDigit (b / 16), Json.hexDigit (b % 16)])

/-- A request as the transport received it. -/
def sentJson (s : Exchange.Sent) : Json :=
  .obj [("method", .str s.method), ("url", .str s.url), ("headers", .arr (s.header.lines.map .str)),
        ("body_hex", .str (hexText s.body))]

/-- The answer to `fetch`. -/
def fetchAnswer (req : Json) : Except String Json := do
  let url ← str req "url"
  let opts ← fetchOptions req
  let replies ← repliesArg req
  let launch ← launchArg req
  let dispatch ← boolOr req "dispatch" true
  let twice ← bool req "run_twice"
  let nilCtrl ← bool req "nil_ctrl"
  let registry ← registryArg req
  match registry, Fetch.make url opts with
  | some (.error e), _ => return Answer.panic e
  | _, .error e => return Answer.fault e
  | _, .ok f =>
    let f := { f with header := f.header.add "X-Added-After-New" "1" }
    let s := f.start ⟨replies, launch, !nilCtrl, dispatch, twice, registry.bind Except.toOption⟩
    let o := s.outcome.getD ⟨.pending, 0, {}, [], none⟩
    let fields : List (String × Json) :=
      [("method", .str f.method), ("name", .str f.name), ("url", .str f.url.text),
       ("run", Answer.okOr s.run)] ++
      (match s.second with
        | some r => [("second_run", Answer.okOr r)]
        | none => []) ++
      (if s.done then [("wait", .obj [("result", .str o.result.name), ("err", .null)])] else []) ++
      [("result", .str o.result.name), ("status", .int o.status),
       ("headers", .arr (o.header.lines.map .str)), ("body_hex", .str (hexText o.body)),
       ("err", Answer.faultOrNull o.fault), ("requests", .arr (s.sent.map sentJson)),
       ("dispatches", .nat s.dispatches), ("releases", .nat s.releases)] ++
      (match s.metrics with
        | some m => [("metrics", Answer.lines m.lines)]
        | none => []) ++
      (if f.logger.sink.isSome then [("logs", .arr s.lines)] else [])
    return .obj fields

end Request

end HostDispatch
