import Mathlib
import HostDispatch.Proofs.Scheduler.Advance
import HostDispatch.Proofs.Scheduler.Destroyed
import HostDispatch.Proofs.Scheduler.Pending

/-!
# How many times an advance fires

While the handlers an advance runs arm, cancel and destroy nothing, the advance is a computation on
the queue alone. An action due after the target does not fire; a one-shot action due by it fires
once and is gone; a repeating action due by it fires once for each period from its due time up to
the target, the target itself included, and is left due that many periods on (`Action.firingsBy`,
`Action.advancedTo`). A repeating action fires again one period on, and its period is positive, so
each firing takes one off the sum of these counts over the queue (`Queue.firings`) and the advance
ends. Main statement: `Clock.advance_fires_exactly`: such an advance exists, answers the sum over
the actions of live continuations, counts the sum over all actions as fired, and leaves the queue
advanced action by action.
-/

namespace HostDispatch

/-- Whether a call arms, cancels and destroys nothing. -/
def Port.Call.quiet : Port.Call → Bool
  | .scheduleOnce _ _ | .scheduleEvery _ _ | .cancel _ | .destroy _ => false
  | _ => true

namespace Action

/-- How many times an action fires in an advance to `t` that arms, cancels and destroys nothing:
not at all when it is due after `t`, once when it is a one-shot, and once for each period from its
due time up to `t` when it repeats. -/
def firingsBy (a : Action) (t : Time) : Nat :=
  if t.ns < a.due.ns then 0
  else
    match a.kind with
    | .once => 1
    | .every => ((t.ns - a.due.ns) / a.period).toNat + 1

/-- What is left of an action after such an advance: the action itself when it is not due, nothing
of a one-shot that fired, and a repeating action due as many periods on as it fired. -/
def advancedTo (a : Action) (t : Time) : Option Action :=
  if t.ns < a.due.ns then some a
  else
    match a.kind with
    | .once => none
    | .every => some { a with due := a.due.add (a.firingsBy t * a.period) }

variable {a : Action} {t : Time}

theorem firingsBy_of_lt (h : t.ns < a.due.ns) : a.firingsBy t = 0 := by
  simp [firingsBy, h]

theorem advancedTo_of_lt (h : t.ns < a.due.ns) : a.advancedTo t = some a := by
  simp [advancedTo, h]

theorem firingsBy_once (hk : a.kind = .once) (h : a.due.ns ≤ t.ns) : a.firingsBy t = 1 := by
  simp [firingsBy, hk, Int.not_lt.mpr h]

theorem advancedTo_once (hk : a.kind = .once) (h : a.due.ns ≤ t.ns) : a.advancedTo t = none := by
  simp [advancedTo, hk, Int.not_lt.mpr h]

/-- A repeating action due by `t` and fired once has one firing fewer left. -/
theorem firingsBy_rearm (hk : a.kind = .every) (hp : 0 < a.period) (h : a.due.ns ≤ t.ns) :
    { a with due := a.due.add a.period }.firingsBy t + 1 = a.firingsBy t := by
  simp only [firingsBy, hk, Int.not_lt.mpr h, if_false, Time.add]
  split
  · -- not due again by `t`: it had exactly the one firing
    rename_i hlt
    have hq : (t.ns - a.due.ns) / a.period = 0 := Int.ediv_eq_zero_of_lt (by omega) (by omega)
    omega
  · -- one period on, one period fewer fits before `t`
    have hq : (t.ns - a.due.ns) / a.period = (t.ns - (a.due.ns + a.period)) / a.period + 1 := by
      rw [← Int.add_mul_ediv_right _ 1 (by omega : a.period ≠ 0)]
      congr 1
      omega
    have hnn : 0 ≤ (t.ns - (a.due.ns + a.period)) / a.period := Int.ediv_nonneg (by omega) hp.le
    omega

/-- A repeating action due by `t` and fired once ends the advance where it would have. -/
theorem advancedTo_rearm (hk : a.kind = .every) (hp : 0 < a.period) (h : a.due.ns ≤ t.ns) :
    { a with due := a.due.add a.period }.advancedTo t = a.advancedTo t := by
  have hf := firingsBy_rearm hk hp h
  obtain ⟨id, cont, kind, period, due⟩ := a
  subst hk
  simp only [advancedTo, Int.not_lt.mpr h, if_false]
  split
  · rename_i hlt
    rw [firingsBy_of_lt hlt] at hf
    simp [← hf]
  · rw [← hf]
    simp only [Time.add, Option.some.injEq]
    congr 2
    push_cast
    ring

end Action

namespace Queue

/-- After the head fired, a one-shot action is gone and a repeating one is back one period on. -/
theorem afterFiring_cases (a : Action) (rest : List Action) (t : Time) :
    (a.kind = .once ∧ afterFiring a rest t false = rest) ∨
      (a.kind = .every ∧
        afterFiring a rest t false = insert { a with due := a.due.add a.period } rest) := by
  unfold afterFiring nextDue
  cases a.kind <;> simp

/-- The firings left in a list of actions by an advance to `t` that arms, cancels and destroys
nothing. -/
def firings (t : Time) : List Action → Nat
  | [] => 0
  | a :: rest => a.firingsBy t + firings t rest

@[simp] theorem firings_nil (t : Time) : firings t [] = 0 := rfl

@[simp] theorem firings_cons (t : Time) (a : Action) (rest : List Action) :
    firings t (a :: rest) = a.firingsBy t + firings t rest := rfl

theorem firings_perm {t : Time} {l l' : List Action} (h : l.Perm l') : firings t l = firings t l' := by
  induction h with
  | nil => rfl
  | cons a _ ih => simp [ih]
  | swap a b l => simp only [firings_cons]; omega
  | trans _ _ ih₁ ih₂ => exact ih₁.trans ih₂

/-- Nothing fires of actions all due after the target. -/
theorem firings_of_lt {t : Time} {l : List Action} (h : ∀ a ∈ l, t.ns < a.due.ns) :
    firings t l = 0 := by
  induction l with
  | nil => rfl
  | cons a rest ih =>
    simp only [List.mem_cons, forall_eq_or_imp] at h
    simp [Action.firingsBy_of_lt h.1, ih h.2]

/-- Actions all due after the target are left as they are. -/
theorem filterMap_advancedTo_of_lt {t : Time} {l : List Action} (h : ∀ a ∈ l, t.ns < a.due.ns) :
    l.filterMap (·.advancedTo t) = l := by
  induction l with
  | nil => rfl
  | cons a rest ih =>
    simp only [List.mem_cons, forall_eq_or_imp] at h
    simp [Action.advancedTo_of_lt h.1, ih h.2]

end Queue

namespace Clock

open Port

/-! ## One firing -/

section Take

variable {k k' : Clock} {t : Time} {f : Firing}

/-- Taking a firing takes one off the firings left of the actions on the continuations `p` keeps
when it keeps the fired continuation, and none otherwise. -/
theorem takeDue_firings (h : k.takeDue t = some (f, k')) (hk : k.Inv) (p : Nat → Bool) :
    Queue.firings t (k.queue.entries.filter (p ·.cont)) =
      Queue.firings t (k'.queue.entries.filter (p ·.cont)) + (if p f.cont then 1 else 0) := by
  obtain ⟨a, rest, he, hle, rfl, hq, -, -⟩ := takeDue_cases h
  rw [hq, he]
  rcases Queue.afterFiring_cases a rest t with ⟨hkind, hafter⟩ | ⟨hkind, hafter⟩
  · rw [hafter]
    by_cases hpa : p a.cont
    · simp [hpa, Action.firingsBy_once hkind hle]
      omega
    · simp [hpa]
  · have hp := hk.period_pos a (by simp [he]) hkind
    -- the re-armed action goes back in its place; counting does not see the order
    rw [hafter, Queue.firings_perm ((Queue.insert_perm _ rest).filter _)]
    have hf := Action.firingsBy_rearm hkind hp hle
    by_cases hpa : p a.cont
    · simp only [List.filter_cons, hpa, if_true, Queue.firings_cons, Action.firing_cont]
      omega
    · simp [hpa]

/-- Taking a firing takes one off the firings left in the queue. -/
theorem takeDue_firings_succ (h : k.takeDue t = some (f, k')) (hk : k.Inv) :
    Queue.firings t k.queue.entries = Queue.firings t k'.queue.entries + 1 := by
  simpa using takeDue_firings h hk (fun _ => true)

/-- Taking a firing leaves the queue on its way to the same end. -/
theorem takeDue_advancedTo (h : k.takeDue t = some (f, k')) (hk : k.Inv) :
    (k'.queue.entries.filterMap (·.advancedTo t)).Perm
      (k.queue.entries.filterMap (·.advancedTo t)) := by
  obtain ⟨a, rest, he, hle, rfl, hq, -, -⟩ := takeDue_cases h
  rw [hq, he]
  rcases Queue.afterFiring_cases a rest t with ⟨hkind, hafter⟩ | ⟨hkind, hafter⟩
  · rw [hafter]
    simp [Action.advancedTo_once hkind hle]
  · have hp := hk.period_pos a (by simp [he]) hkind
    rw [hafter]
    refine ((Queue.insert_perm _ rest).filterMap _).trans ?_
    rw [List.filterMap_cons, List.filterMap_cons, Action.advancedTo_rearm hkind hp hle]

end Take

/-! ## Calls that arm, cancel and destroy nothing -/

/-- A call that arms, cancels and destroys nothing keeps the queue and every continuation's flag. -/
theorem call_quiet {k k' : Clock} {c : Port.Call} {r : Port.Reply}
    (h : port.call k c = some (r, k')) (hq : c.quiet = true) :
    k'.queue = k.queue ∧ k'.isDestroyed = k.isDestroyed := by
  cases callEffect_of_call h with
  | keep => exact ⟨rfl, rfl⟩
  | once _ | every _ | cancel | destroy => simp [Port.Call.quiet] at hq
  | newContinuation => exact ⟨rfl, funext (newContinuation_isDestroyed k)⟩

theorem calls_quiet {k k' : Clock} {log : List (Port.Call × Port.Reply)}
    (h : port.Calls k log k') (hq : ∀ x ∈ log, x.1.quiet = true) :
    k'.queue = k.queue ∧ k'.isDestroyed = k.isDestroyed := by
  induction h with
  | nil => exact ⟨rfl, rfl⟩
  | cons hc _ ih =>
    obtain ⟨hq₁, hd₁⟩ := call_quiet hc (hq _ List.mem_cons_self)
    obtain ⟨hq₂, hd₂⟩ := ih fun x hx => hq x (List.mem_cons_of_mem _ hx)
    exact ⟨hq₂.trans hq₁, hd₂.trans hd₁⟩

/-- While an advance runs every call is answered: a nested advance is refused. -/
theorem call_some {k : Clock} (hk : k.advancing = true) (c : Port.Call) :
    ∃ r k', port.call k c = some (r, k') := by
  cases c with
  | advance d | advanceTo u => simp [Port.call, port, beginAdvance, hk]
  | _ => exact ⟨_, _, rfl⟩

/-- While an advance runs a handler can make any calls it chooses. -/
theorem calls_exist {k : Clock} (hk : k.advancing = true) (cs : List Port.Call) :
    ∃ log k', port.Calls k log k' ∧ log.map Prod.fst = cs := by
  induction cs generalizing k with
  | nil => exact ⟨[], k, .nil k, rfl⟩
  | cons c cs ih =>
    obtain ⟨r, k₁, hc⟩ := call_some hk c
    obtain ⟨log, k', hcs, hlog⟩ := ih ((call_cases hc).2.1.trans hk)
    exact ⟨(c, r) :: log, k', .cons hc hcs, by simp [hlog]⟩

/-! ## A whole advance -/

/-- An advance whose handlers arm, cancels and destroy nothing fires as often as the queue says,
runs the handlers of the firings of live continuations, and leaves every action advanced. -/
theorem fires_quiet {t : Time} {k k' : Clock} {ds : List Port.Delivery}
    (h : port.Fires t k ds k') (hk : k.Inv)
    (hq : ∀ d ∈ ds, ∀ log, d.handler = some log → ∀ x ∈ log, x.1.quiet = true) :
    ds.length = Queue.firings t k.queue.entries ∧
      Port.ran ds = Queue.firings t (k.queue.entries.filter fun a => !k.isDestroyed a.cont) ∧
      k'.queue.entries.Perm (k.queue.entries.filterMap (·.advancedTo t)) := by
  induction h with
  | @finish s hn =>
    have hlt := Queue.lt_due_of_popDue_eq_none hk.wf (takeDue_eq_none.mp hn)
    refine ⟨(Queue.firings_of_lt hlt).symm, ?_, ?_⟩
    · exact (Queue.firings_of_lt fun a ha => hlt a (List.mem_of_mem_filter ha)).symm
    · change s.queue.entries.Perm _
      rw [Queue.filterMap_advancedTo_of_lt hlt]
  | @skip s s₁ s₂ f ds ht hd _ ih =>
    obtain ⟨hlen, hran, hperm⟩ := ih (take_inv ht hk) fun d hd' => hq d (List.mem_cons_of_mem _ hd')
    have hflags : s₁.isDestroyed = s.isDestroyed := funext (isDestroyed_congr (takeDue_destroyed ht))
    have hdead : s.isDestroyed f.cont = true := by
      rw [← hflags]
      exact hd
    have hlive := takeDue_firings ht hk fun c => !s.isDestroyed c
    rw [hflags] at hran
    simp only [hdead, Bool.not_true, Bool.false_eq_true, if_false, add_zero] at hlive
    refine ⟨?_, ?_, hperm.trans (takeDue_advancedTo ht hk)⟩
    · rw [List.length_cons, hlen, takeDue_firings_succ ht hk]
    · simp only [Port.ran, List.countP_cons] at hran ⊢
      simp [hran, hlive]
  | @deliver s s₁ s₂ s₃ f log ds ht hd hc _ ih =>
    have hk₁ := take_inv ht hk
    obtain ⟨hq₂, hd₂⟩ := calls_quiet hc (hq _ List.mem_cons_self log rfl)
    obtain ⟨hlen, hran, hperm⟩ :=
      ih (moves_inv hc.moves hk₁) fun d hd' => hq d (List.mem_cons_of_mem _ hd')
    have hflags : s₁.isDestroyed = s.isDestroyed := funext (isDestroyed_congr (takeDue_destroyed ht))
    have hlive' : s.isDestroyed f.cont = false := by
      rw [← hflags]
      exact hd
    have hlive := takeDue_firings ht hk fun c => !s.isDestroyed c
    rw [hq₂, hd₂, hflags] at hran
    rw [hq₂] at hlen hperm
    simp only [hlive', Bool.not_false, if_true] at hlive
    refine ⟨?_, ?_, hperm.trans (takeDue_advancedTo ht hk)⟩
    · rw [List.length_cons, hlen, takeDue_firings_succ ht hk]
    · simp only [Port.ran, List.countP_cons] at hran ⊢
      simp [hran, hlive]

/-- Handlers that arm, cancel and destroy nothing always let an advance end: every firing takes
one off the firings left in the queue. -/
theorem firesBy_exists {H : Firing → Clock → List Port.Call}
    (hH : ∀ f k, ∀ c ∈ H f k, c.quiet = true) (t : Time) :
    ∀ n (k : Clock), Queue.firings t k.queue.entries = n → k.Inv → k.advancing = true →
      ∃ ds k', port.FiresBy H t k ds k' := by
  intro n
  induction n with
  | zero =>
    intro k hn hk _
    cases htk : k.takeDue t with
    | none => exact ⟨[], _, .finish htk⟩
    | some x =>
      have := takeDue_firings_succ htk hk
      omega
  | succ n ih =>
    intro k hn hk ha
    cases htk : k.takeDue t with
    | none => exact ⟨[], _, .finish htk⟩
    | some x =>
      obtain ⟨f, k₁⟩ := x
      have hn₁ : Queue.firings t k₁.queue.entries = n := by
        have := takeDue_firings_succ htk hk
        omega
      have hk₁ := take_inv htk hk
      have ha₁ : k₁.advancing = true := (takeDue_advancing htk).trans ha
      cases hd : k₁.isDestroyed f.cont with
      | true =>
        obtain ⟨ds, k', hr⟩ := ih k₁ hn₁ hk₁ ha₁
        exact ⟨_, _, .skip htk hd hr⟩
      | false =>
        obtain ⟨log, k₂, hc, hlog⟩ := calls_exist ha₁ (H f k₁)
        have hquiet : ∀ x ∈ log, x.1.quiet = true := fun x hx =>
          hH f k₁ x.1 (hlog ▸ List.mem_map_of_mem hx)
        obtain ⟨ds, k', hr⟩ := ih k₂ ((calls_quiet hc hquiet).1 ▸ hn₁) (moves_inv hc.moves hk₁)
          ((calls_advancing hc).trans ha₁)
        exact ⟨_, _, .deliver htk hd hc hlog hr⟩

/-- An advance to `t` whose handlers arm, cancel and destroy nothing ends, answers the number of
firings due by `t` of live continuations' actions, and leaves each repeating action as many periods
on as it fired. -/
theorem advance_fires_exactly {k : Clock} (hk : k.Inv) (hadv : k.advancing = false) (t : Time) :
    (∀ H : Firing → Clock → List Port.Call, (∀ f k, ∀ c ∈ H f k, c.quiet = true) →
      ∃ ds k', AdvanceBy H k t ds k') ∧
    ∀ r ds k', port.Op k (.advanceTo t) r ds k' →
      (∀ d ∈ ds, ∀ log, d.handler = some log → ∀ x ∈ log, x.1.quiet = true) →
      r = .delivered (Queue.firings t (k.queue.entries.filter fun a => !k.isDestroyed a.cont)) ∧
      k'.stats.fired = k.stats.fired + Queue.firings t k.queue.entries ∧
      k'.queue.entries.Perm (k.queue.entries.filterMap (·.advancedTo t)) := by
  have hstart : k.beginAdvance = some { k with advancing := true } :=
    beginAdvance_eq_some.mpr ⟨hadv, rfl⟩
  have hk₁ : ({ k with advancing := true } : Clock).Inv := ⟨hk.wf, hk.due_ge, hk.period_pos⟩
  refine ⟨fun H hH => ?_, fun r ds k' hop hq => ?_⟩
  · obtain ⟨ds, k', hr⟩ := firesBy_exists hH t _ { k with advancing := true } rfl hk₁ rfl
    exact ⟨ds, k', _, hstart, hr⟩
  · obtain ⟨rfl, hf⟩ := op_advance hop rfl hadv
    obtain ⟨hlen, hran, hperm⟩ := fires_quiet hf hk₁ hq
    refine ⟨by rw [hran]; rfl, ?_, hperm⟩
    rw [fires_fired hf, hlen]

/-- One action repeating every millisecond from 1 ms on fires ten times by 10 ms, the last time at
10 ms itself, and is then due at 11 ms. -/
example :
    let a : Action := { id := 1, cont := 1, kind := .every, period := minPeriod,
                        due := Time.epoch.add minPeriod }
    Queue.firings (Time.epoch.add (10 * minPeriod)) [a] = 10 ∧
      ((a.advancedTo (Time.epoch.add (10 * minPeriod))).map (·.due.ns)) = some (11 * minPeriod) := by
  decide

/-- A clock with one action repeating every millisecond from 1 ms on, advanced to 10 ms. -/
theorem every_millisecond_to_ten :
    let a : Action := { id := 1, cont := 1, kind := .every, period := minPeriod,
                        due := Time.epoch.add minPeriod }
    let k : Clock := { now := Time.epoch, queue := { entries := [a], lastId := 1 },
                       destroyed := #[false] }
    let t := Time.epoch.add (10 * minPeriod)
    k.Inv ∧ k.advancing = false ∧
    (∀ H : Firing → Clock → List Port.Call, (∀ f k, ∀ c ∈ H f k, c.quiet = true) →
      ∃ ds k', AdvanceBy H k t ds k') ∧
    ∀ r ds k', port.Op k (.advanceTo t) r ds k' →
      (∀ d ∈ ds, ∀ log, d.handler = some log → ∀ x ∈ log, x.1.quiet = true) →
      r = .delivered (Queue.firings t (k.queue.entries.filter fun a => !k.isDestroyed a.cont)) ∧
      k'.stats.fired = k.stats.fired + Queue.firings t k.queue.entries ∧
      k'.queue.entries.Perm (k.queue.entries.filterMap (·.advancedTo t)) := by
  intro a k t
  have hk : k.Inv :=
    ⟨⟨List.pairwise_singleton _ _, List.nodup_singleton _, by simp [k, a]⟩,
      by simp [k, a, Time.epoch, Time.add, minPeriod], by simp [k, a, minPeriod]⟩
  exact ⟨hk, rfl, advance_fires_exactly hk rfl t⟩

end Clock

end HostDispatch
