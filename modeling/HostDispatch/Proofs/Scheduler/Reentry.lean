import HostDispatch.Proofs.Scheduler.Firings
import HostDispatch.Proofs.Provider.Lifecycle
import HostDispatch.Proofs.Dispatch.Liveness

/-!
# Advancing from inside an advance

An advance marks the clock as advancing until it ends, and nothing a handler can call clears the
mark: taking a firing and every call that runs no handler keep it. So an advance that a handler
starts is refused before it changes anything, and the clock stays exactly as it was. A handler
that recovers the panic goes on from the clock it had, and the advance around it cannot tell the
difference.

Main statement: `Clock.nested_advance_changes_nothing`. On an advancing clock an advance is
answered with the reentry panic and leaves the clock as it is. An advance made at the top runs,
delivers and answers exactly as it would if its handlers' advances were dropped, and each of those
advances was answered with the panic; advances can be dropped from, or added to, any handler
without changing the answer, the deliveries or the final clock. In a scenario, advancing a world
whose clock is advancing panics and leaves the world as it is, the step that advances recovers
the panic with the world unchanged, and whatever comes after it runs as if it had not been made.
-/

namespace HostDispatch

namespace Port

/-- Whether a call advances the clock. -/
def Call.advances : Call → Bool
  | .advance _ | .advanceTo _ => true
  | _ => false

/-- A handler's calls without the advances it made. -/
def dropAdvances (log : List (Call × Reply)) : List (Call × Reply) :=
  log.filter fun e => !e.1.advances

/-- A delivery whose handler, if it ran, made no advance. -/
def Delivery.dropAdvances (d : Delivery) : Delivery :=
  { d with handler := d.handler.map Port.dropAdvances }

/-- Every advance a handler made was answered with the reentry panic. -/
def Refused (log : List (Call × Reply)) : Prop :=
  ∀ e ∈ log, e.1.advances = true → e.2 = .panicked Clock.reentryMessage

theorem dropAdvances_cons_of_advances {c : Call} (r : Reply) (log : List (Call × Reply))
    (h : c.advances = true) : dropAdvances ((c, r) :: log) = dropAdvances log := by
  simp [dropAdvances, h]

theorem dropAdvances_cons_of_not_advances {c : Call} (r : Reply) (log : List (Call × Reply))
    (h : c.advances = false) : dropAdvances ((c, r) :: log) = (c, r) :: dropAdvances log := by
  simp [dropAdvances, h]

theorem refused_cons {c : Call} {r : Reply} {log : List (Call × Reply)} :
    Refused ((c, r) :: log) ↔
      (c.advances = true → r = .panicked Clock.reentryMessage) ∧ Refused log := by
  simp [Refused]

/-- Dropping advances keeps whether each handler ran, so the count an advance answers. -/
@[simp] theorem ran_map_dropAdvances (ds : List Delivery) :
    ran (ds.map Delivery.dropAdvances) = ran ds := by
  simp [ran, List.countP_map, Function.comp_def, Delivery.dropAdvances]

variable {S : Type} {P : Port S}

theorem calls_cons_iff {s s' : S} {c : Call} {r : Reply} {log : List (Call × Reply)} :
    Calls P s ((c, r) :: log) s' ↔ ∃ s₁, P.call s c = some (r, s₁) ∧ Calls P s₁ log s' := by
  constructor
  · intro h
    cases h with
    | cons hc hrest => exact ⟨_, hc, hrest⟩
  · rintro ⟨s₁, hc, hrest⟩
    exact .cons hc hrest

end Port

namespace Clock

open Port

/-- On an advancing clock an advance is refused with the reentry panic before it changes
anything. -/
theorem call_advance_refused {k : Clock} (hk : k.advancing = true) {c : Call}
    (hc : c.advances = true) : port.call k c = some (.panicked reentryMessage, k) := by
  have hb : k.beginAdvance = none := by simp [beginAdvance, hk]
  cases c with
  | advance d | advanceTo t => simp [Port.call, port, hb]
  | _ => simp [Call.advances] at hc

/-- On an advancing clock a handler's calls run as they would without its advances, each of
which was refused. -/
theorem calls_iff_dropAdvances {k k' : Clock} {log : List (Call × Port.Reply)}
    (hk : k.advancing = true) :
    port.Calls k log k' ↔ port.Calls k (dropAdvances log) k' ∧ Refused log := by
  induction log generalizing k with
  | nil => simp [dropAdvances, Refused]
  | cons e log ih =>
    obtain ⟨c, r⟩ := e
    rw [calls_cons_iff, refused_cons]
    cases hc : c.advances with
    | true =>
      rw [dropAdvances_cons_of_advances r log hc, call_advance_refused hk hc]
      simp only [Option.some.injEq, Prod.mk.injEq, forall_const]
      constructor
      · rintro ⟨_, ⟨rfl, rfl⟩, hrest⟩
        exact ((ih hk).mp hrest).imp_right fun h => ⟨rfl, h⟩
      · rintro ⟨hrest, rfl, hlog⟩
        exact ⟨k, ⟨rfl, rfl⟩, (ih hk).mpr ⟨hrest, hlog⟩⟩
    | false =>
      rw [dropAdvances_cons_of_not_advances r log hc, calls_cons_iff]
      simp only [Bool.false_eq_true, false_implies, true_and]
      constructor
      · rintro ⟨k₁, hcall, hrest⟩
        have hk₁ : k₁.advancing = true := (call_cases hcall).2.1.trans hk
        obtain ⟨hdrop, hlog⟩ := (ih hk₁).mp hrest
        exact ⟨⟨k₁, hcall, hdrop⟩, hlog⟩
      · rintro ⟨⟨k₁, hcall, hdrop⟩, hlog⟩
        have hk₁ : k₁.advancing = true := (call_cases hcall).2.1.trans hk
        exact ⟨k₁, hcall, (ih hk₁).mpr ⟨hdrop, hlog⟩⟩

/-- Every handler of an advance runs on an advancing clock, so its advances can be dropped: the
advance takes the same firings into the same clocks and ends in the same clock. -/
theorem fires_dropAdvances {t : Time} {k k' : Clock} {ds : List Delivery}
    (h : port.Fires t k ds k') (hk : k.advancing = true) :
    port.Fires t k (ds.map Delivery.dropAdvances) k' ∧ ∀ d ∈ ds, ∀ log ∈ d.handler, Refused log := by
  induction h with
  | finish hn => exact ⟨.finish hn, by simp⟩
  | skip ht hd _ ih =>
    obtain ⟨hrest, hlog⟩ := ih ((takeDue_advancing ht).trans hk)
    refine ⟨.skip ht hd hrest, ?_⟩
    simpa using hlog
  | deliver ht hd hc _ ih =>
    have hk₁ := (takeDue_advancing ht).trans hk
    obtain ⟨hdrop, hrefused⟩ := (calls_iff_dropAdvances hk₁).mp hc
    obtain ⟨hrest, hlog⟩ := ih ((calls_advancing hc).trans hk₁)
    exact ⟨.deliver ht hd hdrop hrest, by simpa [hrefused] using hlog⟩

/-- Conversely, refused advances can be added to any handler of an advance. -/
theorem fires_of_dropAdvances {t : Time} {k k' : Clock} {ds : List Delivery} (hk : k.advancing = true)
    (h : port.Fires t k (ds.map Delivery.dropAdvances) k')
    (hr : ∀ d ∈ ds, ∀ log ∈ d.handler, Refused log) : port.Fires t k ds k' := by
  induction ds generalizing k with
  | nil =>
    cases h with
    | finish hn => exact .finish hn
  | cons d ds ih =>
    have hrest : ∀ d ∈ ds, ∀ log ∈ d.handler, Refused log := fun d hd =>
      hr d (List.mem_cons_of_mem _ hd)
    obtain ⟨f, now, handler⟩ := d
    cases handler with
    | none =>
      simp only [List.map_cons, Delivery.dropAdvances, Option.map_none] at h
      cases h with
      | skip ht hd hf => exact .skip ht hd (ih ((takeDue_advancing ht).trans hk) hf hrest)
    | some log =>
      simp only [List.map_cons, Delivery.dropAdvances, Option.map_some] at h
      cases h with
      | deliver ht hd hc hf =>
        have hk₁ := (takeDue_advancing ht).trans hk
        have hlog : port.Calls _ log _ :=
          (calls_iff_dropAdvances hk₁).mpr ⟨hc, hr _ List.mem_cons_self log rfl⟩
        exact .deliver ht hd hlog (ih ((calls_advancing hc).trans hk₁) hf hrest)

/-- A call made at the top runs as it would if its handlers made no advance, and each advance they
made was refused. -/
theorem op_iff_dropAdvances {k k' : Clock} {c : Call} {r : Port.Reply} {ds : List Delivery} :
    port.Op k c r ds k' ↔
      port.Op k c r (ds.map Delivery.dropAdvances) k' ∧ ∀ d ∈ ds, ∀ log ∈ d.handler, Refused log := by
  constructor
  · intro h
    cases h with
    | call hc => exact ⟨.call hc, by simp⟩
    | advance htg hb hf =>
      obtain ⟨hadv, rfl⟩ := beginAdvance_eq_some.mp hb
      obtain ⟨hf', hlog⟩ := fires_dropAdvances hf rfl
      have ho := Op.advance htg hb hf'
      rw [ran_map_dropAdvances] at ho
      exact ⟨ho, hlog⟩
  · rintro ⟨h, hlog⟩
    generalize hds : ds.map Delivery.dropAdvances = ds₀ at h
    cases h with
    | call hc =>
      obtain rfl : ds = [] := List.map_eq_nil_iff.mp hds
      exact .call hc
    | advance htg hb hf =>
      subst hds
      obtain ⟨-, rfl⟩ := beginAdvance_eq_some.mp hb
      have ho := Op.advance htg hb (fires_of_dropAdvances rfl hf hlog)
      rwa [← ran_map_dropAdvances] at ho

end Clock

namespace Scenario

variable {w : World}

/-- Advancing a world whose clock is advancing panics and leaves the world as it is. -/
theorem advanceTo_refused (hw : w.clock.advancing = true) (n : Nat) (t : Time) :
    (advanceTo (n + 1) t).run w = .error (.panic Clock.reentryMessage) w := by
  have hb : w.clock.beginAdvance = none := by simp [Clock.beginAdvance, hw]
  rw [advanceTo]
  simp only [run_bind, get_run, hb]
  rfl

/-- The step that advances recovers the panic, with the world as it was. -/
theorem advanceStep_refused (hw : w.clock.advancing = true) (n : Nat) (t : Time) :
    (advanceStep (n + 2) t).run w = .ok (Answer.panic Clock.reentryMessage) w := by
  rw [advanceStep, tryCatch_run, run_bind, advanceTo_refused hw]
  rfl

end Scenario

namespace Clock

/-- **An advance from inside an advance changes nothing.** On an advancing clock an advance is
refused with the reentry panic and changes nothing, so advances can be dropped from or added to any
handler, and a scenario step that advances such a world recovers with the world unchanged. -/
theorem nested_advance_changes_nothing :
    (∀ (k : Clock) (c : Port.Call), k.advancing = true → c.advances = true →
      port.call k c = some (.panicked reentryMessage, k)) ∧
    (∀ (k k' : Clock) (c : Port.Call) (r : Port.Reply) (ds : List Port.Delivery),
      port.Op k c r ds k' ↔
        port.Op k c r (ds.map Port.Delivery.dropAdvances) k' ∧
          ∀ d ∈ ds, ∀ log ∈ d.handler, Port.Refused log) ∧
    ∀ (w : Scenario.World) (n : Nat) (t : Time), w.clock.advancing = true →
      (Scenario.advanceTo (n + 1) t).run w = .error (.panic reentryMessage) w ∧
      (Scenario.advanceStep (n + 2) t).run w = .ok (Answer.panic reentryMessage) w ∧
      ∀ {α : Type} (rest : Scenario.Sim α),
        (Scenario.advanceStep (n + 2) t *> rest).run w = rest.run w := by
  refine ⟨fun k c hk hc => call_advance_refused hk hc, fun _ _ _ _ _ => op_iff_dropAdvances,
    fun w n t hw => ⟨Scenario.advanceTo_refused hw n t, Scenario.advanceStep_refused hw n t,
      fun rest => ?_⟩⟩
  rw [seqRight_eq_bind, Scenario.run_bind, Scenario.advanceStep_refused hw]

/-- A clock in the middle of an advance refuses another one, alone and inside a world. -/
theorem advancing_clock_refuses_an_advance :
    ∃ (k : Clock) (w : Scenario.World), k.advancing = true ∧ w.clock = k ∧
      port.call k (.advanceTo Time.epoch) = some (.panicked reentryMessage, k) ∧
      (Scenario.advanceStep 2 Time.epoch).run w = .ok (Answer.panic reentryMessage) w := by
  refine ⟨{ start Time.epoch with advancing := true },
    { clock := { start Time.epoch with advancing := true } }, rfl, rfl, ?_, ?_⟩
  · exact nested_advance_changes_nothing.1 _ _ rfl rfl
  · exact (nested_advance_changes_nothing.2.2 _ 0 Time.epoch rfl).2.1

end Clock

end HostDispatch
