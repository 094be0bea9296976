import HostDispatch.Scenario.World

/-!
# Dispatching completions

A made controller delivers a completion only while it is live. A controller with a mutex takes it
and then looks again, since the consumer may have closed while it waited. It calls its receiver,
supplied by the caller since a scripted receiver may reach back into the scenario; a panic of the
receiver is recovered: the controller is disabled and the completion counts as not delivered.
Every dispatch counts one outcome: delivered, gone or panic.

A publisher encodes the completion and publishes it; a publication that reached nobody closes the
promises the publisher tracks, unless it keeps unheard channels.
-/

namespace HostDispatch

namespace Scenario

/-- Dispatch through a made controller, with `receive` calling its receiver. -/
def dispatchMade (receive : Nat → Sim Unit) (k : Nat) : Sim Bool := do
  let c ← controller k
  if !c.live then
    count .dispatches [c.name, "gone"]
    return false
  if c.locked && !(← controller k).live then
    count .dispatches [c.name, "gone"]
    return false
  let outcome ← tryCatch (do receive k; pure none) fun
    | .panic m => pure (some m)
    | other => throw other
  match outcome with
  | none =>
    count .dispatches [c.name, "delivered"]
    return true
  | some m =>
    setController k (← controller k).disable
    count .dispatches [c.name, "panic"]
    log c.logger .error "receiver panicked; treating consumer as gone" [("panic", .text m)]
    return false

/-- Write a line through a publisher's limited logger. -/
def logLimited (r : Nat) (s : Severity) (message : String) (fs : List Log.Field) : Sim Unit := do
  let v ← publisher r
  let (line, lim) := v.limited.line? s message fs
  setPublisher r { v with limited := lim }
  if let some l := line then modify fun w => { w with lines := w.lines.push l }

/-- Close every promise of a tracker given as execution slots. -/
def closeAll (qs : List Nat) : Sim Unit := qs.forM closeExecution

/-- A completion handed to a publisher. -/
def publish (r : Nat) : Sim Unit := do
  let v ← publisher r
  let k := v.encoded + 1
  setPublisher r { v with encoded := k }
  let t ← now
  match v.encode k t.render with
  | .error e =>
    setPublisher r { (← publisher r) with failed := v.failed + 1 }
    logLimited r .error "encode failed" [Log.err e]
  | .ok payload =>
    let v ← publisher r
    let v := { v with messages := v.messages.push (v.channel, payload) }
    let reply := v.reply v.messages.size
    match reply with
    | .failure m =>
      setPublisher r { v with failed := v.failed + 1 }
      logLimited r .warn "publish failed" [Log.err m]
    | .nothing =>
      setPublisher r { v with failed := v.failed + 1 }
      logLimited r .warn "publish failed" [Log.err Reply.nothingMessage]
    | .subscribers n =>
      let v := { v with published := v.published + 1 }
      setPublisher r v
      if n = 0 && !v.keepUnheard then
        log v.logger .info "no subscribers left, closing promises"
          [("promises", .int v.tracker.size)]
        let (tr, qs) := v.tracker.close
        setPublisher r { v with tracker := tr }
        closeAll qs

end Scenario

end HostDispatch
