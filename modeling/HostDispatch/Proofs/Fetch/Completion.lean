import HostDispatch.Proofs.Dispatch.Failure
import HostDispatch.Proofs.Pool.Try

/-!
# How a fetch completes

A fetch that was run hands its job what others can see of it as a list of effects: it logs and
sends the request, publishes the outcome, closes Done, counts and logs the completion, dispatches,
releases the controller and counts the provider destroyed. The session a run leaves is the one
these effects build, one after another, from the session Run returned.

Main statements. `Fetch.fetch_outcome_classified`: the outcome is `success` exactly when the request
was built, the exchange ended with a response and its body was read, whatever the status; it then
has the response's status and header and the body cut at the limit. Otherwise its status is zero,
and it is `timeout` exactly when the context's deadline has passed or the fault reports a timeout,
its fault then matching the timeout sentinel and still reaching the fault that ended the exchange;
every other case, a request that could not be built included, is `failure` with that very fault.
`Fetch.fetch_dispatches_once`: a Run that succeeds dispatches once and then releases once, both
after the outcome, which is never pending, was published and Done closed, and nothing publishes
another outcome; it counts one result and one provider destroyed. A Run that fails, and any
second Run, dispatches nothing, releases nothing and publishes nothing.
-/

namespace HostDispatch

namespace Fault

/-- `g` is reached by unwrapping `f`: `f` itself, or a fault reached from the cause of an
operation or a wrapping, or from any fault of a group. Matching a fault against another one looks
at these. -/
inductive Unwraps : Fault → Fault → Prop
  | refl (f : Fault) : Unwraps f f
  | operation {module op context : String} {c g : Fault} :
      Unwraps c g → Unwraps (.operation module op (some c) context) g
  | wrapped {before after : String} {c g : Fault} :
      Unwraps c g → Unwraps (.wrapped before after c) g
  | group {message : String} {cs : List Fault} {c g : Fault} :
      c ∈ cs → Unwraps c g → Unwraps (.group message cs) g

end Fault

/-! ## Classifying a failure -/

namespace FetchOutcome

variable (expired : Bool) (fl : Exchange.Failure)

@[simp] theorem ofFailure_status : (ofFailure expired fl).status = 0 := by
  unfold ofFailure
  split <;> rfl

/-- A fault makes a timeout or a failure. -/
theorem ofFailure_result_cases :
    (ofFailure expired fl).result = .timeout ∨ (ofFailure expired fl).result = .failure := by
  unfold ofFailure
  split
  · exact .inl rfl
  · exact .inr rfl

theorem ofFailure_result_eq_timeout :
    (ofFailure expired fl).result = .timeout ↔ expired = true ∨ fl.timedOut = true := by
  unfold ofFailure
  split <;> simp_all [Bool.or_eq_true, or_comm]

/-- A timeout's fault matches the timeout sentinel and still reaches the fault it classifies:
it is that fault when it already matched, and otherwise a group of the sentinel and that fault. -/
theorem ofFailure_timeout_fault (h : expired = true ∨ fl.timedOut = true) :
    ∃ e, (ofFailure expired fl).fault = some e ∧ e.finds .timeout = true ∧ e.Unwraps fl.fault := by
  have ht : (fl.timedOut || expired) = true := by
    rcases h with h | h <;> simp [h]
  unfold ofFailure
  rw [if_pos ht]
  by_cases hf : fl.fault.finds .timeout = true
  · exact ⟨fl.fault, by simp [hf], hf, .refl _⟩
  · refine ⟨.group (Sentinel.timeout.message ++ ": " ++ fl.fault.message)
      [.sentinel .timeout, fl.fault], by simp [hf], ?_,
      .group (List.mem_cons_of_mem _ List.mem_cons_self) (.refl _)⟩
    simp [Fault.finds, Fault.anyFinds]

theorem ofFailure_failure (h : ¬(expired = true ∨ fl.timedOut = true)) :
    (ofFailure expired fl).result = .failure ∧ (ofFailure expired fl).fault = some fl.fault := by
  have ht : (fl.timedOut || expired) = false := by
    simp only [not_or, Bool.not_eq_true] at h
    simp [h.1, h.2]
  unfold ofFailure
  rw [if_neg (by simp [ht])]
  exact ⟨rfl, rfl⟩

end FetchOutcome

/-- A body read through a limit is the body cut at the limit. -/
theorem Exchange.Response.read_eq_take {resp : Exchange.Response} {n : Nat} {body : List Nat}
    (h : resp.read n = .ok body) : body = resp.body.take n := by
  unfold Exchange.Response.read at h
  split at h
  · rename_i hlt
    split at h
    · cases h
    · cases h
      exact (List.take_of_length_le (Nat.le_of_lt hlt)).symm
  · cases h
    rfl

namespace Fetch

variable (f : Fetch) (parent : Context) (replies : Nat → Exchange.Reply)

/-! ## The outcome of the job, stage by stage -/

/-- The request the fetch builds when it runs. -/
def request : Except Fault Exchange.Request :=
  Exchange.Request.make f.method f.url.text f.header f.body

theorem perform_of_unbuilt {e : Fault} (h : f.request = .error e) :
    (f.perform parent replies).2.2 = ⟨.failure, 0, {}, [], some e⟩ := by
  unfold perform
  rw [show Exchange.Request.make f.method f.url.text f.header f.body = .error e from h]

theorem perform_of_exchange_failed {r : Exchange.Request} {fl : Exchange.Failure}
    (h : f.request = .ok r) (hx : (Exchange.run replies r).2 = .error fl) :
    (f.perform parent replies).2.2 = .ofFailure (parent.within f.timeout).isTimedOut fl := by
  unfold perform
  rw [show Exchange.Request.make f.method f.url.text f.header f.body = .ok r from h]
  dsimp only
  rcases hrun : Exchange.run replies r with ⟨sent, res⟩
  rw [hrun] at hx
  subst hx
  rfl

theorem perform_of_read {r : Exchange.Request} {resp : Exchange.Response}
    (h : f.request = .ok r) (hx : (Exchange.run replies r).2 = .ok resp) :
    (f.perform parent replies).2.2 = match resp.read f.maxBody with
      | .error fl => .ofFailure (parent.within f.timeout).isTimedOut fl
      | .ok body => ⟨.success, resp.status, resp.header, body, none⟩ := by
  unfold perform
  rw [show Exchange.Request.make f.method f.url.text f.header f.body = .ok r from h]
  dsimp only
  rcases hrun : Exchange.run replies r with ⟨sent, res⟩
  rw [hrun] at hx
  subst hx
  rfl

/-- The three ways the job ends: the request cannot be built; the exchange or the read of the
body fails; or the body is read. -/
theorem perform_cases :
    (∃ e, f.request = .error e ∧ (f.perform parent replies).2.2 = ⟨.failure, 0, {}, [], some e⟩) ∨
    (∃ r fl, f.request = .ok r ∧
      ((Exchange.run replies r).2 = .error fl ∨
        ∃ resp, (Exchange.run replies r).2 = .ok resp ∧ resp.read f.maxBody = .error fl) ∧
      (f.perform parent replies).2.2 = .ofFailure (parent.within f.timeout).isTimedOut fl) ∨
    (∃ r resp body, f.request = .ok r ∧ (Exchange.run replies r).2 = .ok resp ∧
      resp.read f.maxBody = .ok body ∧
      (f.perform parent replies).2.2 = ⟨.success, resp.status, resp.header, body, none⟩) := by
  cases hr : f.request with
  | error e => exact .inl ⟨e, rfl, perform_of_unbuilt f parent replies hr⟩
  | ok r =>
    cases hx : (Exchange.run replies r).2 with
    | error fl => exact .inr (.inl ⟨r, fl, rfl, .inl hx, perform_of_exchange_failed f parent replies hr hx⟩)
    | ok resp =>
      have ho := perform_of_read f parent replies hr hx
      cases hb : resp.read f.maxBody with
      | error fl =>
        rw [hb] at ho
        exact .inr (.inl ⟨r, fl, rfl, .inr ⟨resp, hx, hb⟩, ho⟩)
      | ok body =>
        rw [hb] at ho
        exact .inr (.inr ⟨r, resp, body, rfl, hx, hb, ho⟩)

/-- How the outcome of a fetch whose job is given `parent` follows from building its request, the
exchange and reading the body through the limit. -/
structure Classifies (o : FetchOutcome) : Prop where
  /-- A success exactly when a response came and its body was read, whatever its status. -/
  success : o.result = .success ↔ ∃ r resp body, f.request = .ok r ∧
    (Exchange.run replies r).2 = .ok resp ∧ resp.read f.maxBody = .ok body
  /-- A success shows the response's status and header and its body cut at the limit. -/
  response : ∀ r resp body, f.request = .ok r → (Exchange.run replies r).2 = .ok resp →
    resp.read f.maxBody = .ok body →
      o.status = resp.status ∧ o.header = resp.header ∧ o.body = resp.body.take f.maxBody ∧
        o.fault = none
  /-- A request that cannot be built is a failure with the fault that refused it. -/
  unbuilt : ∀ e, f.request = .error e → o.result = .failure ∧ o.status = 0 ∧ o.fault = some e
  /-- A fault of the exchange or of reading the body is a timeout exactly when the deadline of the
  job's context, its parent's or the fetch's own, has passed or the fault reports a timeout, and its fault then matches the timeout sentinel and
  reaches the original one; otherwise it is a failure with the original fault. -/
  failed : ∀ r fl, f.request = .ok r →
    ((Exchange.run replies r).2 = .error fl ∨
      ∃ resp, (Exchange.run replies r).2 = .ok resp ∧ resp.read f.maxBody = .error fl) →
      o.status = 0 ∧
      (o.result = .timeout ↔ (parent.within f.timeout).isTimedOut = true ∨ fl.timedOut = true) ∧
      (o.result = .timeout →
        ∃ e, o.fault = some e ∧ e.finds .timeout = true ∧ e.Unwraps fl.fault) ∧
      (o.result ≠ .timeout → o.result = .failure ∧ o.fault = some fl.fault)

/-- The outcome of a fault, as the job classifies it, is classified as `Classifies.failed` says. -/
theorem ofFailure_classified (fl : Exchange.Failure) :
    let o := FetchOutcome.ofFailure (parent.within f.timeout).isTimedOut fl
    o.status = 0 ∧
      (o.result = .timeout ↔ (parent.within f.timeout).isTimedOut = true ∨ fl.timedOut = true) ∧
      (o.result = .timeout →
        ∃ e, o.fault = some e ∧ e.finds .timeout = true ∧ e.Unwraps fl.fault) ∧
      (o.result ≠ .timeout → o.result = .failure ∧ o.fault = some fl.fault) := by
  intro o
  have hiff := FetchOutcome.ofFailure_result_eq_timeout (parent.within f.timeout).isTimedOut fl
  refine ⟨FetchOutcome.ofFailure_status _ _, hiff, fun ht => ?_, fun ht => ?_⟩
  · exact FetchOutcome.ofFailure_timeout_fault _ _ (hiff.mp ht)
  · exact FetchOutcome.ofFailure_failure _ _ (fun h => ht (hiff.mpr h))

theorem perform_classifies : Classifies f parent replies (f.perform parent replies).2.2 where
  success := by
    constructor
    · intro hs
      rcases perform_cases f parent replies with
        ⟨e, -, ho⟩ | ⟨r, fl, -, -, ho⟩ | ⟨r, resp, body, hr, hx, hb, -⟩
      · rw [ho] at hs
        cases hs
      · -- a fault makes a timeout or a failure, never a success
        rw [ho] at hs
        rcases FetchOutcome.ofFailure_result_cases (parent.within f.timeout).isTimedOut fl with
          h | h <;> rw [h] at hs <;> cases hs
      · exact ⟨r, resp, body, hr, hx, hb⟩
    · rintro ⟨r, resp, body, hr, hx, hb⟩
      rw [perform_of_read f parent replies hr hx, hb]
  response r resp body hr hx hb := by
    rw [perform_of_read f parent replies hr hx, hb]
    exact ⟨rfl, rfl, Exchange.Response.read_eq_take hb, rfl⟩
  unbuilt e hr := by
    rw [perform_of_unbuilt f parent replies hr]
    exact ⟨rfl, rfl, rfl⟩
  failed r fl hr hfl := by
    rcases hfl with hx | ⟨resp, hx, hb⟩
    · rw [perform_of_exchange_failed f parent replies hr hx]
      exact ofFailure_classified f parent fl
    · rw [perform_of_read f parent replies hr hx, hb]
      exact ofFailure_classified f parent fl

/-- Whatever happens on the way, the job reaches a result. -/
theorem perform_result_ne_pending : (f.perform parent replies).2.2.result ≠ .pending := by
  rcases perform_cases f parent replies with
    ⟨e, -, ho⟩ | ⟨r, fl, -, -, ho⟩ | ⟨r, resp, body, -, -, -, ho⟩ <;> rw [ho]
  · nofun
  · rcases FetchOutcome.ofFailure_result_cases (parent.within f.timeout).isTimedOut fl with h | h <;>
      rw [h] <;> nofun
  · nofun

end Fetch

/-! ## Handing the outcome over -/

namespace FetchEffect

/-- An effect that leaves the outcome, Done and the controller alone: a request sent, a line
logged or a counter raised. -/
def quiet : FetchEffect → Bool
  | .send _ | .log _ | .count _ _ => true
  | _ => false

end FetchEffect

namespace FetchSession

theorem foldl_log (s : FetchSession) (js : List Json) :
    (js.map FetchEffect.log).foldl apply s = { s with lines := s.lines ++ js } := by
  induction js generalizing s with
  | nil => simp
  | cons j js ih => simp [ih, apply]

theorem foldl_send (s : FetchSession) (rs : List Exchange.Sent) :
    (rs.map FetchEffect.send).foldl apply s = { s with sent := s.sent ++ rs } := by
  induction rs generalizing s with
  | nil => simp
  | cons r rs ih => simp [ih, apply]

/-- The part of a session that quiet effects leave alone. -/
def handover (s : FetchSession) : Option FetchOutcome × Bool × Nat × Nat :=
  (s.outcome, s.done, s.dispatches, s.releases)

theorem handover_foldl_quiet (s : FetchSession) (es : List FetchEffect)
    (h : ∀ e ∈ es, e.quiet = true) : (es.foldl apply s).handover = s.handover := by
  induction es generalizing s with
  | nil => rfl
  | cons e es ih =>
    rw [List.foldl_cons, ih _ fun e' he' => h e' (List.mem_cons_of_mem _ he')]
    have he := h e List.mem_cons_self
    cases e with
    | send _ | log _ | count _ _ => rfl
    | publish _ | close | dispatch | release => simp [FetchEffect.quiet] at he

/-- Which second Run a session records plays no part in what the job does. -/
theorem foldl_apply_with_second (s : FetchSession) (es : List FetchEffect)
    (r : Option (Except Fault Unit)) :
    { es.foldl apply s with second := r } = es.foldl apply { s with second := r } := by
  induction es generalizing s with
  | nil => rfl
  | cons e es ih =>
    rw [List.foldl_cons, ih, List.foldl_cons]
    cases e <;> rfl

end FetchSession

namespace Fetch

variable (f : Fetch) (parent : Context) (replies : Nat → Exchange.Reply) (answer : Bool)

/-- How a job hands its outcome `o` over: quiet effects, the outcome published and Done closed,
quiet effects, one dispatch, quiet effects, one release, and quiet effects. -/
structure HandsOver (job : List FetchEffect) (o : FetchOutcome) : Prop where
  shape : ∃ pre mid mid' post,
    job = pre ++ .publish o :: .close :: mid ++ .dispatch :: mid' ++ .release :: post ∧
      ∀ e ∈ pre ++ mid ++ mid' ++ post, e.quiet = true

theorem job_hands_over :
    HandsOver (f.job parent replies answer) (f.perform parent replies).2.2 := by
  unfold job
  rcases f.perform parent replies with ⟨sent, lines, o⟩
  refine ⟨⟨lines.map .log ++ sent.map .send,
    .count .fetchResults [f.name, o.result.name] :: (f.completedLine o).toList.map .log,
    (if answer then none
      else f.logger.line? .debug "receiver has died, dropping fetch result" []).toList.map .log,
    [.count .providersDestroyed ["fetch", "completed"]], by simp, ?_⟩⟩
  intro e he
  simp only [List.mem_append, List.mem_map, List.mem_cons, List.mem_nil_iff, or_false] at he
  rcases he with (((⟨_, _, rfl⟩ | ⟨_, _, rfl⟩) | rfl | ⟨_, _, rfl⟩) | ⟨_, _, rfl⟩) | rfl <;> rfl

/-- A job that hands its outcome over leaves it published, Done closed, and one dispatch and one
release more than it found. -/
theorem HandsOver.handover {job : List FetchEffect} {o : FetchOutcome} (h : HandsOver job o)
    (s : FetchSession) :
    (job.foldl FetchSession.apply s).handover = (some o, true, s.dispatches + 1, s.releases + 1) := by
  obtain ⟨pre, mid, mid', post, rfl, hq⟩ := h.shape
  simp only [List.mem_append, or_imp, forall_and] at hq
  obtain ⟨⟨⟨hpre, hmid⟩, hmid'⟩, hpost⟩ := hq
  simp only [List.foldl_append, List.foldl_cons]
  -- each quiet stretch passes on the hand-over part of the session it found
  have h₀ := FetchSession.handover_foldl_quiet s pre hpre
  generalize pre.foldl FetchSession.apply s = t₀ at h₀ ⊢
  have h₁ := FetchSession.handover_foldl_quiet ((t₀.apply (.publish o)).apply .close) mid hmid
  generalize mid.foldl FetchSession.apply ((t₀.apply (.publish o)).apply .close) = t₁ at h₁ ⊢
  have h₂ := FetchSession.handover_foldl_quiet (t₁.apply .dispatch) mid' hmid'
  generalize mid'.foldl FetchSession.apply (t₁.apply .dispatch) = t₂ at h₂ ⊢
  rw [FetchSession.handover_foldl_quiet _ post hpost]
  simp only [FetchSession.handover, FetchSession.apply, Prod.mk.injEq] at h₀ h₁ h₂ ⊢
  obtain ⟨-, -, hd₀, hr₀⟩ := h₀
  obtain ⟨ho₁, hc₁, hd₁, hr₁⟩ := h₁
  obtain ⟨ho₂, hc₂, hd₂, hr₂⟩ := h₂
  exact ⟨ho₂.trans ho₁, hc₂.trans hc₁, by omega, by omega⟩

/-- The job counts one result, under the fetch's name and the outcome's result, and one provider
destroyed. -/
theorem job_metrics (t : FetchSession) :
    ((f.job parent replies answer).foldl FetchSession.apply t).metrics = t.metrics.map fun m =>
      (m.inc .fetchResults [f.name, (f.perform parent replies).2.2.result.name]).inc
        .providersDestroyed ["fetch", "completed"] := by
  unfold job
  rcases f.perform parent replies with ⟨sent, lines, o⟩
  simp only [List.foldl_append, FetchSession.foldl_log, FetchSession.foldl_send, List.foldl_cons,
    List.foldl_nil, FetchSession.apply]
  rw [Option.map_map]
  rfl

/-! ## Run, and the pool's answer -/

/-- A pool refuses the job exactly when its try does, with the try's fault as an operation of the
fetch. -/
theorem refusal_pool (r : PoolRun) : f.refusal (.pool r) =
    match r.found.released.tryAnswer with
    | .ok () => none
    | .error e => some (.operation "fetch" "run" (some e) f.name) := by
  have ha : (offered r.found).result r.task = some r.found.released.tryAnswer :=
    PoolState.result_offer _ _
  simp only [refusal, ha]
  cases r.found.released.tryAnswer <;> rfl

theorem refusal_pool_eq_none (r : PoolRun) :
    f.refusal (.pool r) = none ↔ r.found.released.tryAnswer = .ok () := by
  rw [refusal_pool]
  cases r.found.released.tryAnswer <;> simp

/-- A pool runs the job once if it accepted it and never otherwise: once the pool is done, its
workers started the task of Run's call that many times. -/
theorem runs_pool (r : PoolRun) :
    (Launch.pool r).runs = r.found.released.tryAnswer.toBool.toNat :=
  PoolState.executed_count_after_offer r.positive (PoolState.reaches_steps r.before) .succeed
    r.finished

variable {f} {s : FetchSetting}

/-- A Run succeeds exactly when it has a controller and no pool refuses its job. -/
theorem start_run_eq_ok :
    (f.start s).run = .ok () ↔ s.controller = true ∧ f.refusal s.launch = none := by
  have h := f.start_run_toBool s
  constructor
  · intro hr
    rw [hr] at h
    simpa [Except.toBool] using h.symm
  · rintro ⟨hc, hn⟩
    rw [hc, hn] at h
    cases hr : (f.start s).run with
    | error e => simp [hr, Except.toBool] at h
    | ok u => rfl

/-- A job no pool refuses runs once. -/
theorem runs_of_refusal_eq_none (hn : f.refusal s.launch = none) : s.launch.runs = 1 := by
  cases hl : s.launch with
  | task => rfl
  | pool r =>
    rw [hl, refusal_pool_eq_none] at hn
    rw [runs_pool, hn]
    rfl

/-- A Run that succeeds leaves what one run of the job builds from a fresh session. -/
theorem start_of_run_ok (h : (f.start s).run = .ok ()) :
    f.start s = (f.job s.launch.context s.replies s.dispatch).foldl FetchSession.apply
      ⟨.ok (), (f.start s).second, none, false, [], 0, 0, [], s.metrics⟩ := by
  obtain ⟨hc, hn⟩ := start_run_eq_ok.mp h
  unfold start
  simp only [hc, hn, Bool.not_true, Bool.false_eq_true, ↓reduceIte, runs_of_refusal_eq_none hn,
    List.replicate_one, List.flatten_singleton, FetchSession.foldl_apply_second]

/-- A Run that fails leaves the fresh session. -/
theorem start_of_run_ne_ok (h : (f.start s).run ≠ .ok ()) :
    f.start s = ⟨(f.start s).run, (f.start s).second, none, false, [], 0, 0, [], s.metrics⟩ := by
  rw [Ne, start_run_eq_ok] at h
  unfold start
  cases hc : s.controller with
  | false => rfl
  | true =>
    cases hn : f.refusal s.launch with
    | none => exact absurd ⟨hc, hn⟩ h
    | some e => rfl

/-- A second Run changes nothing but its own result. -/
theorem start_twice :
    { f.start { s with twice := true } with second := none } = f.start { s with twice := false } := by
  unfold start
  cases s.controller with
  | false => rfl
  | true =>
    cases f.refusal s.launch with
    | some e => rfl
    | none => exact FetchSession.foldl_apply_with_second _ _ _

/-- A Run that succeeds reaches the job's outcome, is done, and dispatched and released once. -/
theorem start_handover (h : (f.start s).run = .ok ()) :
    (f.start s).outcome = some (f.perform s.launch.context s.replies).2.2 ∧
      (f.start s).done = true ∧ (f.start s).dispatches = 1 ∧ (f.start s).releases = 1 := by
  have hh : (f.start s).handover = (some (f.perform s.launch.context s.replies).2.2, true, 1, 1) := by
    rw [start_of_run_ok h]
    exact (job_hands_over f s.launch.context s.replies s.dispatch).handover _
  simpa only [FetchSession.handover, Prod.mk.injEq] using hh

/-- **A fetch dispatches once.** A Run succeeds exactly when it has a controller and its pool's try
accepts the job, which the pool then runs once; the job publishes its outcome and closes Done before
one dispatch and one release, and a Run that fails, or a second one, changes nothing. -/
theorem fetch_dispatches_once (f : Fetch) (s : FetchSetting) :
    ((f.start s).run = .ok () ↔ s.controller = true ∧ f.refusal s.launch = none) ∧
    (∀ r, s.launch = .pool r →
      (offered r.found).result r.task = some r.found.released.tryAnswer ∧
      (r.found.released.tryAnswer = .ok () ∨ r.found.released.tryAnswer = .error Pool.closedFault ∨
        r.found.released.tryAnswer =
          .error (Pool.capacityFault r.found.released.buffer.length)) ∧
      (f.refusal s.launch = none ↔ r.found.released.tryAnswer = .ok ()) ∧
      r.final.executed.count r.task = r.found.released.tryAnswer.toBool.toNat) ∧
    ((f.start s).run = .ok () →
      let o := (f.perform s.launch.context s.replies).2.2
      s.launch.runs = 1 ∧
      f.start s = (f.job s.launch.context s.replies s.dispatch).foldl FetchSession.apply
        ⟨.ok (), (f.start s).second, none, false, [], 0, 0, [], s.metrics⟩ ∧
      o.result ≠ .pending ∧ HandsOver (f.job s.launch.context s.replies s.dispatch) o ∧
      (f.start s).outcome = some o ∧ (f.start s).done = true ∧
      (f.start s).dispatches = 1 ∧ (f.start s).releases = 1 ∧
      (f.start s).metrics = s.metrics.map fun m =>
        (m.inc .fetchResults [f.name, o.result.name]).inc .providersDestroyed ["fetch", "completed"]) ∧
    ((f.start s).run ≠ .ok () →
      (f.start s).outcome = none ∧ (f.start s).done = false ∧ (f.start s).dispatches = 0 ∧
        (f.start s).releases = 0 ∧ (f.start s).metrics = s.metrics) ∧
    (∀ r ∈ (f.start s).second, r.toBool = false) ∧
    { f.start { s with twice := true } with second := none } =
      f.start { s with twice := false } := by
  refine ⟨start_run_eq_ok, fun r hl => ?_, fun h => ?_, fun h => ?_, f.start_second_fails s,
    start_twice⟩
  · rw [hl]
    exact ⟨PoolState.result_offer _ _, PoolState.tryAnswer_cases _, refusal_pool_eq_none f r,
      runs_pool r⟩
  · obtain ⟨ho, hd, hn, hr⟩ := start_handover h
    refine ⟨runs_of_refusal_eq_none (start_run_eq_ok.mp h).2, start_of_run_ok h,
      perform_result_ne_pending f _ s.replies, job_hands_over f _ s.replies s.dispatch, ho, hd, hn,
      hr, ?_⟩
    rw [start_of_run_ok h, job_metrics]
  · rw [start_of_run_ne_ok h]
    exact ⟨rfl, rfl, rfl, rfl, rfl⟩

/-- **How a fetch's outcome is classified.** A Run that succeeds reaches an outcome, classified as
`Classifies` says for the context its job is given. -/
theorem fetch_outcome_classified (f : Fetch) (s : FetchSetting) (h : (f.start s).run = .ok ()) :
    ∃ o, (f.start s).outcome = some o ∧ Classifies f s.launch.context s.replies o := by
  exact ⟨_, (start_handover h).1, perform_classifies f _ s.replies⟩

/-- A fetch of a transport that fails: run with a controller and a task of its own, it reaches an
outcome classified by its fault. -/
theorem failing_transport_fetch_is_classified :
    let f : Fetch := ⟨⟨Url.ascii "http", [], none, Url.ascii "example.com", [], [], false, false,
      [], [], []⟩, "GET", {}, none, 0, Fetch.defaultMaxBody, "fetch", {}⟩
    let s : FetchSetting := ⟨fun _ => .failure "connection refused" false, .task, true, true,
      false, none⟩
    (f.start s).run = .ok () ∧
      ∃ o, (f.start s).outcome = some o ∧ Classifies f s.launch.context s.replies o := by
  intro f s
  have h : (f.start s).run = .ok () := start_run_eq_ok.mpr ⟨rfl, rfl⟩
  exact ⟨h, fetch_outcome_classified f s h⟩

end Fetch

end HostDispatch
