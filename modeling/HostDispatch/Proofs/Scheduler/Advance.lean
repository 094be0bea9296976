import Mathlib
import HostDispatch.Proofs.Scheduler.Invariant

/-!
# Advancing in steps

Handlers here make the calls a strategy `H` chooses from the firing they are given and the clock
they find it in: `Port.FiresBy` is an advance run by such handlers, and from a given state there is
at most one such run (`Port.FiresBy.det`).

Between two advances the clock stands at the first target rather than at the last due time. Every
firing is delivered with the clock at its own due time, though, so the first firing past the first
target finds the clock exactly as one advance would leave it, and from there the two runs are one
(`Clock.takeDue_shift`). Main statement: `Clock.advancing_in_steps`: advancing to `t₁` and then to
`t₂` delivers the same firings, in the same states, as advancing to `t₂` at once, the two counts
adding up to the one, and ends with the same clock; and so do advances by two durations and by
their sum. The clock's time ends as the same instant, possibly read in the zone of the other target.
-/

namespace HostDispatch

namespace Port

variable {S : Type} (P : Port S)

/-- The firings of an advance to `target` whose handlers make the calls `H` chooses from the
firing they are given and the state it is delivered in. -/
inductive FiresBy (H : Firing → S → List Call) (target : Time) : S → List Delivery → S → Prop
  | finish {s : S} : P.takeDue s target = none → FiresBy H target s [] (P.finishAdvance s target)
  | skip {s s₁ s₂ : S} {f : Firing} {ds : List Delivery} :
      P.takeDue s target = some (f, s₁) → P.isDestroyed s₁ f.cont = true →
      FiresBy H target s₁ ds s₂ → FiresBy H target s (⟨f, P.now s₁, none⟩ :: ds) s₂
  | deliver {s s₁ s₂ s₃ : S} {f : Firing} {log : List (Call × Reply)} {ds : List Delivery} :
      P.takeDue s target = some (f, s₁) → P.isDestroyed s₁ f.cont = false →
      Calls P s₁ log s₂ → log.map Prod.fst = H f s₁ → FiresBy H target s₂ ds s₃ →
      FiresBy H target s (⟨f, P.now s₁, some log⟩ :: ds) s₃

variable {P} {H : Firing → S → List Call} {t : Time}

/-- An advance run by a strategy is an advance. -/
theorem FiresBy.fires {s s' : S} {ds : List Delivery} (h : FiresBy P H t s ds s') :
    Fires P t s ds s' := by
  induction h with
  | finish hn => exact .finish hn
  | skip ht hd _ ih => exact .skip ht hd ih
  | deliver ht hd hc _ _ ih => exact .deliver ht hd hc ih

/-- The same calls from the same state get the same answers and end in the same state. -/
theorem Calls.det {s s₁ s₂ : S} {log₁ log₂ : List (Call × Reply)} (h₁ : Calls P s log₁ s₁)
    (h₂ : Calls P s log₂ s₂) (hc : log₁.map Prod.fst = log₂.map Prod.fst) :
    log₁ = log₂ ∧ s₁ = s₂ := by
  induction h₁ generalizing log₂ with
  | nil =>
    cases h₂ with
    | nil => exact ⟨rfl, rfl⟩
    | cons _ _ => cases hc
  | cons hc₁ _ ih =>
    cases h₂ with
    | nil => cases hc
    | cons hc₂ hr₂ =>
      simp only [List.map_cons, List.cons.injEq] at hc
      obtain ⟨rfl, hrest⟩ := hc
      rw [hc₁] at hc₂
      obtain ⟨rfl, rfl⟩ := Prod.mk.inj (Option.some.inj hc₂)
      obtain ⟨rfl, rfl⟩ := ih hr₂ hrest
      exact ⟨rfl, rfl⟩

/-- An advance run by a strategy is determined by the state it starts from. -/
theorem FiresBy.det {s s₁ s₂ : S} {ds₁ ds₂ : List Delivery} (h₁ : FiresBy P H t s ds₁ s₁)
    (h₂ : FiresBy P H t s ds₂ s₂) : ds₁ = ds₂ ∧ s₁ = s₂ := by
  induction h₁ generalizing ds₂ s₂ with
  | finish hn =>
    cases h₂ with
    | finish => exact ⟨rfl, rfl⟩
    | skip ht _ _ => rw [hn] at ht; cases ht
    | deliver ht _ _ _ _ => rw [hn] at ht; cases ht
  | skip ht hd _ ih =>
    cases h₂ with
    | finish hn => rw [hn] at ht; cases ht
    | skip ht' _ hr =>
      rw [ht] at ht'
      obtain ⟨rfl, rfl⟩ := Prod.mk.inj (Option.some.inj ht')
      obtain ⟨rfl, rfl⟩ := ih hr
      exact ⟨rfl, rfl⟩
    | deliver ht' hd' _ _ _ =>
      rw [ht] at ht'
      obtain ⟨rfl, rfl⟩ := Prod.mk.inj (Option.some.inj ht')
      rw [hd] at hd'
      cases hd'
  | deliver ht hd hc hH _ ih =>
    cases h₂ with
    | finish hn => rw [hn] at ht; cases ht
    | skip ht' hd' _ =>
      rw [ht] at ht'
      obtain ⟨rfl, rfl⟩ := Prod.mk.inj (Option.some.inj ht')
      rw [hd] at hd'
      cases hd'
    | deliver ht' _ hc' hH' hr =>
      rw [ht] at ht'
      obtain ⟨rfl, rfl⟩ := Prod.mk.inj (Option.some.inj ht')
      obtain ⟨rfl, rfl⟩ := Calls.det hc hc' (hH.trans hH'.symm)
      obtain ⟨rfl, rfl⟩ := ih hr
      exact ⟨rfl, rfl⟩

end Port

namespace Clock

open Port

/-- An advance of the clock to `t` whose handlers make the calls `H` chooses: it starts, delivers
`ds` and ends in `k'`. -/
def AdvanceBy (H : Firing → Clock → List Call) (k : Clock) (t : Time) (ds : List Delivery)
    (k' : Clock) : Prop :=
  ∃ k₁, k.beginAdvance = some k₁ ∧ port.FiresBy H t k₁ ds k'

/-- Two clocks alike but for the zone their time is read in. -/
structure Alike (k k' : Clock) : Prop where
  ns : k'.now.ns = k.now.ns
  queue : k'.queue = k.queue
  stats : k'.stats = k.stats
  destroyed : k'.destroyed = k.destroyed
  advancing : k'.advancing = k.advancing

namespace Alike

theorem refl (k : Clock) : Alike k k := ⟨rfl, rfl, rfl, rfl, rfl⟩

theorem symm {k k' : Clock} (h : Alike k k') : Alike k' k :=
  ⟨h.ns.symm, h.queue.symm, h.stats.symm, h.destroyed.symm, h.advancing.symm⟩

theorem trans {k₁ k₂ k₃ : Clock} (h₁ : Alike k₁ k₂) (h₂ : Alike k₂ k₃) : Alike k₁ k₃ :=
  ⟨h₂.ns.trans h₁.ns, h₂.queue.trans h₁.queue, h₂.stats.trans h₁.stats,
    h₂.destroyed.trans h₁.destroyed, h₂.advancing.trans h₁.advancing⟩

/-- Alike clocks are one clock, its time read in one zone or the other. -/
theorem eq {k k' : Clock} (h : Alike k k') : { k with now := k'.now } = k' := by
  obtain ⟨now, queue, stats, destroyed, advancing⟩ := k
  obtain ⟨now', queue', stats', destroyed', advancing'⟩ := k'
  obtain ⟨-, hq, hs, hd, ha⟩ := h
  simp only at hq hs hd ha
  subst hq hs hd ha
  rfl

end Alike

/-! ## Taking a firing, whatever the target -/

theorem afterFiring_limit (a : Action) (rest : List Action) (t t' : Time) :
    Queue.afterFiring a rest t false = Queue.afterFiring a rest t' false := by
  simp [Queue.afterFiring, Queue.nextDue]

theorem takeDue_due_le {k k' : Clock} {t : Time} {f : Firing} (h : k.takeDue t = some (f, k')) :
    f.due.ns ≤ t.ns := by
  obtain ⟨q, hp, -⟩ := takeDue_eq_some.mp h
  obtain ⟨a, rest, -, hle, rfl, -⟩ := Queue.popDue_eq_some.mp hp
  exact hle

/-- A firing taken by one target is taken alike by any target it is due by. -/
theorem takeDue_of_due_le {k k' : Clock} {t t' : Time} {f : Firing}
    (h : k.takeDue t = some (f, k')) (ht : f.due.ns ≤ t'.ns) : k.takeDue t' = some (f, k') := by
  obtain ⟨q, hp, rfl⟩ := takeDue_eq_some.mp h
  obtain ⟨a, rest, he, -, rfl, rfl⟩ := Queue.popDue_eq_some.mp hp
  refine takeDue_eq_some.mpr ⟨_, Queue.popDue_eq_some.mpr ⟨a, rest, he, ht, rfl, ?_⟩, rfl⟩
  rw [afterFiring_limit a rest t t']

/-- A target before the next firing's due time takes nothing. -/
theorem takeDue_none_of_lt {k k' : Clock} {t t' : Time} {f : Firing}
    (h : k.takeDue t = some (f, k')) (ht : t'.ns < f.due.ns) : k.takeDue t' = none := by
  obtain ⟨q, hp, -⟩ := takeDue_eq_some.mp h
  obtain ⟨a, rest, he, -, rfl, -⟩ := Queue.popDue_eq_some.mp hp
  exact takeDue_eq_none.mpr (Queue.popDue_eq_none.mpr (by simpa [he] using ht))

/-- A target that takes nothing is followed by no earlier one that does. -/
theorem takeDue_none_of_le {k : Clock} {t t' : Time} (h : k.takeDue t = none)
    (ht : t'.ns ≤ t.ns) : k.takeDue t' = none := by
  have hh := Queue.popDue_eq_none.mp (takeDue_eq_none.mp h)
  exact takeDue_eq_none.mpr (Queue.popDue_eq_none.mpr fun a ha => by have := hh a ha; omega)

/-- Targets at the same instant take alike. -/
theorem takeDue_congr {k : Clock} {t t' : Time} (ht : t'.ns = t.ns) :
    k.takeDue t' = k.takeDue t := by
  cases h : k.takeDue t with
  | none => exact takeDue_none_of_le h ht.le
  | some x =>
    obtain ⟨f, k'⟩ := x
    exact takeDue_of_due_le h (ht ▸ takeDue_due_le h)

theorem takeDue_advancing {k k' : Clock} {t : Time} {f : Firing}
    (h : k.takeDue t = some (f, k')) : k'.advancing = k.advancing := by
  obtain ⟨q, -, rfl⟩ := takeDue_eq_some.mp h
  rfl

theorem calls_advancing {k k' : Clock} {log : List (Port.Call × Port.Reply)}
    (h : port.Calls k log k') : k'.advancing = k.advancing := by
  induction h with
  | nil => rfl
  | cons hc _ ih => exact ih.trans (call_cases hc).2.1

/-! ## Standing the clock at the first target -/

/-- Ending an advance at `t` and starting the next stands the clock at the later of its time and
`t`, and changes nothing else. -/
theorem restart_eq {k : Clock} (hk : k.advancing = true) (t : Time) :
    (k.finishAdvance t).beginAdvance =
      some { k with now := if t.after k.now then t else k.now } := by
  obtain ⟨now, queue, stats, destroyed, advancing⟩ := k
  simp only at hk
  subst hk
  rfl

/-- While nothing is due by `t₁`, a clock stood at `t₁` takes its next firing into the same
state: the firing is due after `t₁`, so it moves the clock to its own due time either way. -/
theorem takeDue_shift {k : Clock} {t₁ : Time} (hn : k.takeDue t₁ = none) (t : Time) :
    ({ k with now := if t₁.after k.now then t₁ else k.now } : Clock).takeDue t = k.takeDue t := by
  have hhead := Queue.popDue_eq_none.mp (takeDue_eq_none.mp hn)
  cases hp : k.queue.popDue t false with
  | none =>
    rw [takeDue_eq_none.mpr hp]
    exact takeDue_eq_none.mpr hp
  | some x =>
    obtain ⟨f, q⟩ := x
    obtain ⟨a, rest, he, -, hf, -⟩ := Queue.popDue_eq_some.mp hp
    have hlt : t₁.ns < f.due.ns := by
      rw [hf]
      exact hhead a (by simp [he])
    have hnow : (if f.due.after (if t₁.after k.now then t₁ else k.now) then f.due
        else if t₁.after k.now then t₁ else k.now) =
        if f.due.after k.now then f.due else k.now := by
      by_cases h₁ : t₁.after k.now
      · have h₂ : f.due.after k.now = true := by
          simp only [Time.after, gt_iff_lt, decide_eq_true_eq] at h₁ ⊢
          omega
        have h₃ : f.due.after t₁ = true := by simpa [Time.after] using hlt
        simp [h₁, h₂, h₃]
      · simp [h₁]
    rw [takeDue_eq_some.mpr ⟨q, hp, rfl⟩]
    refine takeDue_eq_some.mpr ⟨q, hp, ?_⟩
    rw [hnow]

/-- Moving the clock to a time if it is later leaves it at the later instant of the two. -/
theorem ns_later (n t : Time) : (if t.after n then t else n).ns = max n.ns t.ns := by
  by_cases h : t.after n
  · simp only [h, if_true]
    simp only [Time.after, gt_iff_lt, decide_eq_true_eq] at h
    omega
  · simp only [h, Bool.false_eq_true, if_false]
    simp only [Time.after, gt_iff_lt, decide_eq_true_eq, not_lt] at h
    omega

/-- Ending two advances, the second at a later target, ends at the same instant as ending one. -/
theorem finishAdvance_shift {k : Clock} {t₁ t₂ : Time} (ht : t₁.ns ≤ t₂.ns) :
    Alike (k.finishAdvance t₂)
      (({ k with now := if t₁.after k.now then t₁ else k.now } : Clock).finishAdvance t₂) := by
  refine ⟨?_, rfl, rfl, rfl, rfl⟩
  simp only [finishAdvance_now, ns_later]
  omega

/-- Runs from two clocks that take their next firing alike and end an advance alike are the same
run, but for the zone their end is read in. -/
theorem firesBy_congr {H : Firing → Clock → List Port.Call} {t : Time} {k r k' : Clock}
    {ds : List Port.Delivery} (htake : r.takeDue t = k.takeDue t)
    (hfin : Alike (k.finishAdvance t) (r.finishAdvance t)) (h : port.FiresBy H t k ds k') :
    ∃ r', port.FiresBy H t r ds r' ∧ Alike k' r' := by
  cases h with
  | finish hn => exact ⟨_, .finish (htake.trans hn), hfin⟩
  | skip ht hd hr => exact ⟨_, .skip (htake.trans ht) hd hr, .refl _⟩
  | deliver ht hd hc hH hr => exact ⟨_, .deliver (htake.trans ht) hd hc hH hr, .refl _⟩

/-! ## One advance, or two -/

/-- An advance ends with the clock at the later instant of where it started and its target. -/
theorem fires_now {t : Time} {k k' : Clock} {ds : List Port.Delivery} (h : port.Fires t k ds k') :
    k'.now.ns = max k.now.ns t.ns := by
  induction h with
  | @finish s _ =>
    show (s.finishAdvance t).now.ns = _
    rw [finishAdvance_now, ns_later]
  | skip ht _ _ ih =>
    have hle := takeDue_due_le ht
    obtain ⟨q, -, rfl⟩ := takeDue_eq_some.mp ht
    rw [ih, ns_later]
    omega
  | deliver ht _ hc _ ih =>
    have hle := takeDue_due_le ht
    rw [ih, (calls_now hc).1]
    obtain ⟨q, -, rfl⟩ := takeDue_eq_some.mp ht
    rw [ns_later]
    omega

theorem advanceBy_now {H : Firing → Clock → List Port.Call} {k k' : Clock} {t : Time}
    {ds : List Port.Delivery} (h : AdvanceBy H k t ds k') : k'.now.ns = max k.now.ns t.ns := by
  obtain ⟨r, hb, h⟩ := h
  obtain ⟨-, rfl⟩ := beginAdvance_eq_some.mp hb
  simpa using fires_now h.fires

section TwoSteps

variable {H : Firing → Clock → List Port.Call} {t₁ t₂ : Time}

/-- Advances to targets at the same instant deliver alike and end alike. -/
theorem firesBy_retarget {t t' : Time} (ht : t'.ns = t.ns) {k k' : Clock}
    {ds : List Port.Delivery} (h : port.FiresBy H t k ds k') :
    ∃ k'', port.FiresBy H t' k ds k'' ∧ Alike k' k'' := by
  induction h with
  | @finish s hn =>
    refine ⟨_, .finish ((takeDue_congr ht).trans hn), ⟨?_, rfl, rfl, rfl, rfl⟩⟩
    show (s.finishAdvance t').now.ns = (s.finishAdvance t).now.ns
    rw [finishAdvance_now, finishAdvance_now, ns_later, ns_later, ht]
  | skip htake hd _ ih =>
    obtain ⟨k'', h', ha⟩ := ih
    exact ⟨k'', .skip ((takeDue_congr ht).trans htake) hd h', ha⟩
  | deliver htake hd hc hH _ ih =>
    obtain ⟨k'', h', ha⟩ := ih
    exact ⟨k'', .deliver ((takeDue_congr ht).trans htake) hd hc hH h', ha⟩

/-- When nothing is due by `t₁`, an advance to `t₁` ends at once, and an advance to a later `t₂`
is the next advance, from the clock stood at `t₁`. -/
theorem split_at_start (ht : t₁.ns ≤ t₂.ns) {k k' : Clock} {ds : List Port.Delivery}
    (hk : k.advancing = true) (hn : k.takeDue t₁ = none) (h : port.FiresBy H t₂ k ds k') :
    ∃ k₂, port.FiresBy H t₁ k [] (k.finishAdvance t₁) ∧
      AdvanceBy H (k.finishAdvance t₁) t₂ ds k₂ ∧ Alike k' k₂ := by
  obtain ⟨k₂, h₂, ha⟩ := firesBy_congr (takeDue_shift hn t₂) (finishAdvance_shift ht) h
  exact ⟨k₂, .finish hn, ⟨_, restart_eq hk t₁, h₂⟩, ha⟩

/-- An advance to `t₂` is an advance to an earlier `t₁` followed by one to `t₂`: the firings due by
`t₁` go to the first, the rest to the second. -/
theorem firesBy_split (ht : t₁.ns ≤ t₂.ns) {k k' : Clock} {ds : List Port.Delivery}
    (hk : k.advancing = true) (h : port.FiresBy H t₂ k ds k') :
    ∃ ds₁ k₁ ds₂ k₂, port.FiresBy H t₁ k ds₁ k₁ ∧ AdvanceBy H k₁ t₂ ds₂ k₂ ∧
      ds = ds₁ ++ ds₂ ∧ Alike k' k₂ := by
  induction h with
  | finish hn =>
    obtain ⟨k₂, h₁, h₂, ha⟩ := split_at_start ht hk (takeDue_none_of_le hn ht) (.finish hn)
    exact ⟨[], _, [], k₂, h₁, h₂, rfl, ha⟩
  | @skip s s₁ s₂ f ds htake hd hrest ih =>
    by_cases hle : f.due.ns ≤ t₁.ns
    · obtain ⟨ds₁, k₁, ds₂, k₂, h₁, h₂, rfl, ha⟩ := ih ((takeDue_advancing htake).trans hk)
      exact ⟨_, k₁, ds₂, k₂, .skip (takeDue_of_due_le htake hle) hd h₁, h₂, rfl, ha⟩
    · obtain ⟨k₂, h₁, h₂, ha⟩ := split_at_start ht hk (takeDue_none_of_lt htake (by omega))
        (.skip htake hd hrest)
      exact ⟨[], _, _, k₂, h₁, h₂, rfl, ha⟩
  | @deliver s s₁ s₂ s₃ f log ds htake hd hc hH hrest ih =>
    by_cases hle : f.due.ns ≤ t₁.ns
    · obtain ⟨ds₁, k₁, ds₂, k₂, h₁, h₂, rfl, ha⟩ :=
        ih ((calls_advancing hc).trans ((takeDue_advancing htake).trans hk))
      exact ⟨_, k₁, ds₂, k₂, .deliver (takeDue_of_due_le htake hle) hd hc hH h₁, h₂, rfl, ha⟩
    · obtain ⟨k₂, h₁, h₂, ha⟩ := split_at_start ht hk (takeDue_none_of_lt htake (by omega))
        (.deliver htake hd hc hH hrest)
      exact ⟨[], _, _, k₂, h₁, h₂, rfl, ha⟩

/-- An advance to `t₁` followed by one to a later `t₂` is one advance to `t₂`. -/
theorem firesBy_merge (ht : t₁.ns ≤ t₂.ns) {k k₁ k₂ : Clock} {ds₁ ds₂ : List Port.Delivery}
    (hk : k.advancing = true) (h : port.FiresBy H t₁ k ds₁ k₁) (h₂ : AdvanceBy H k₁ t₂ ds₂ k₂) :
    ∃ k', port.FiresBy H t₂ k (ds₁ ++ ds₂) k' ∧ Alike k₂ k' := by
  induction h with
  | @finish s hn =>
    obtain ⟨r, hr, h₂⟩ := h₂
    change (s.finishAdvance t₁).beginAdvance = some r at hr
    rw [restart_eq hk] at hr
    cases hr
    exact firesBy_congr (takeDue_shift hn t₂).symm (finishAdvance_shift ht).symm h₂
  | skip htake hd _ ih =>
    obtain ⟨k', h', ha⟩ := ih ((takeDue_advancing htake).trans hk) h₂
    exact ⟨k', .skip (takeDue_of_due_le htake ((takeDue_due_le htake).trans ht)) hd h', ha⟩
  | deliver htake hd hc hH _ ih =>
    obtain ⟨k', h', ha⟩ := ih ((calls_advancing hc).trans ((takeDue_advancing htake).trans hk)) h₂
    exact ⟨k', .deliver (takeDue_of_due_le htake ((takeDue_due_le htake).trans ht)) hd hc hH h',
      ha⟩

/-- Two advances, the second to a target `u k₁` at the instant `t₂` whatever clock `k₁` the first
ends with, are one advance to `t₂`: one exists exactly when the other does, and then they deliver
the same and end alike. -/
theorem two_steps {k : Clock} (ht : t₁.ns ≤ t₂.ns) (u : Clock → Time)
    (hu : ∀ ds₁ k₁, AdvanceBy H k t₁ ds₁ k₁ → (u k₁).ns = t₂.ns) :
    ((∃ ds₁ k₁ ds₂ k₂, AdvanceBy H k t₁ ds₁ k₁ ∧ AdvanceBy H k₁ (u k₁) ds₂ k₂) ↔
        ∃ ds k', AdvanceBy H k t₂ ds k') ∧
    ∀ ds₁ k₁ ds₂ k₂ ds k', AdvanceBy H k t₁ ds₁ k₁ → AdvanceBy H k₁ (u k₁) ds₂ k₂ →
      AdvanceBy H k t₂ ds k' → ds = ds₁ ++ ds₂ ∧ Alike k₂ k' := by
  -- the second advance, moved to the target `t₂`, merges with the first
  have hmerge : ∀ ds₁ k₁ ds₂ k₂, AdvanceBy H k t₁ ds₁ k₁ → AdvanceBy H k₁ (u k₁) ds₂ k₂ →
      ∃ k', AdvanceBy H k t₂ (ds₁ ++ ds₂) k' ∧ Alike k₂ k' := by
    rintro ds₁ k₁ ds₂ k₂ ⟨r, hb, h₁⟩ ⟨r₂, hb₂, h₂⟩
    obtain ⟨k₂', h₂', ha⟩ := firesBy_retarget (hu ds₁ k₁ ⟨r, hb, h₁⟩).symm h₂
    have hr : r.advancing = true := by rw [(beginAdvance_eq_some.mp hb).2]
    obtain ⟨k', h', ha'⟩ := firesBy_merge ht hr h₁ ⟨r₂, hb₂, h₂'⟩
    exact ⟨k', ⟨r, hb, h'⟩, ha.trans ha'⟩
  refine ⟨⟨fun ⟨ds₁, k₁, ds₂, k₂, h₁, h₂⟩ => ?_, fun ⟨ds, k', h⟩ => ?_⟩, ?_⟩
  · obtain ⟨k', h', -⟩ := hmerge ds₁ k₁ ds₂ k₂ h₁ h₂
    exact ⟨_, k', h'⟩
  · obtain ⟨r, hb, h⟩ := h
    have hr : r.advancing = true := by rw [(beginAdvance_eq_some.mp hb).2]
    obtain ⟨ds₁, k₁, ds₂, k₂, h₁, ⟨r₂, hb₂, h₂⟩, rfl, -⟩ := firesBy_split ht hr h
    have h₁' : AdvanceBy H k t₁ ds₁ k₁ := ⟨r, hb, h₁⟩
    obtain ⟨k₂', h₂', -⟩ := firesBy_retarget (hu ds₁ k₁ h₁') h₂
    exact ⟨ds₁, k₁, ds₂, k₂', h₁', ⟨r₂, hb₂, h₂'⟩⟩
  · intro ds₁ k₁ ds₂ k₂ ds k' h₁ h₂ h
    obtain ⟨k'', ⟨r, hb, h''⟩, ha⟩ := hmerge ds₁ k₁ ds₂ k₂ h₁ h₂
    obtain ⟨r', hb', h⟩ := h
    rw [hb] at hb'
    cases hb'
    obtain ⟨rfl, rfl⟩ := h.det h''
    exact ⟨rfl, ha⟩

end TwoSteps

/-- Advancing in steps is advancing at once, for handlers whose calls depend only on their firing
and clock: advancing to `t₁` then `t₂` delivers the same firings and ends in the same clock as
advancing to `t₂`, and likewise for durations. -/
theorem advancing_in_steps (H : Firing → Clock → List Port.Call) (k : Clock) {t₁ t₂ : Time}
    (ht : t₁.ns ≤ t₂.ns) {d₁ d₂ : Int} (hd₁ : 0 ≤ d₁) (hd₂ : 0 ≤ d₂) :
    ((∃ ds₁ k₁ ds₂ k₂, AdvanceBy H k t₁ ds₁ k₁ ∧ AdvanceBy H k₁ t₂ ds₂ k₂) ↔
        ∃ ds k', AdvanceBy H k t₂ ds k') ∧
    (∀ ds₁ k₁ ds₂ k₂ ds k', AdvanceBy H k t₁ ds₁ k₁ → AdvanceBy H k₁ t₂ ds₂ k₂ →
      AdvanceBy H k t₂ ds k' →
      ds = ds₁ ++ ds₂ ∧ Port.ran ds = Port.ran ds₁ + Port.ran ds₂ ∧
        k'.now.ns = k₂.now.ns ∧ { k₂ with now := k'.now } = k') ∧
    ((∃ ds₁ k₁ ds₂ k₂, AdvanceBy H k (k.now.add d₁) ds₁ k₁ ∧
        AdvanceBy H k₁ (k₁.now.add d₂) ds₂ k₂) ↔
      ∃ ds k', AdvanceBy H k (k.now.add (d₁ + d₂)) ds k') ∧
    ∀ ds₁ k₁ ds₂ k₂ ds k', AdvanceBy H k (k.now.add d₁) ds₁ k₁ →
      AdvanceBy H k₁ (k₁.now.add d₂) ds₂ k₂ → AdvanceBy H k (k.now.add (d₁ + d₂)) ds k' →
      ds = ds₁ ++ ds₂ ∧ Port.ran ds = Port.ran ds₁ + Port.ran ds₂ ∧
        k'.now.ns = k₂.now.ns ∧ { k₂ with now := k'.now } = k' := by
  have hto := two_steps (H := H) (k := k) ht (fun _ => t₂) (fun _ _ _ => rfl)
  -- an advance by `d₁` ends at `d₁` past the start, so the second target is at `d₁ + d₂`
  have hby := two_steps (H := H) (k := k)
    (show (k.now.add d₁).ns ≤ (k.now.add (d₁ + d₂)).ns by simp only [Time.add]; omega)
    (fun k₁ => k₁.now.add d₂) (fun _ _ h₁ => by
      simp only [Time.add, advanceBy_now h₁]
      omega)
  have hsame : ∀ {ds₁ ds₂ ds : List Port.Delivery} {k₂ k' : Clock}, ds = ds₁ ++ ds₂ ∧ Alike k₂ k' →
      ds = ds₁ ++ ds₂ ∧ Port.ran ds = Port.ran ds₁ + Port.ran ds₂ ∧
        k'.now.ns = k₂.now.ns ∧ { k₂ with now := k'.now } = k' := by
    rintro ds₁ ds₂ ds k₂ k' ⟨rfl, ha⟩
    exact ⟨rfl, List.countP_append .., ha.ns, ha.eq⟩
  exact ⟨hto.1, fun _ _ _ _ _ _ h₁ h₂ h => hsame (hto.2 _ _ _ _ _ _ h₁ h₂ h), hby.1,
    fun _ _ _ _ _ _ h₁ h₂ h => hsame (hby.2 _ _ _ _ _ _ h₁ h₂ h)⟩

/-- Handlers that read the clock, on a clock just started: advancing to 5 ns and then to 10 ns is
advancing to 10 ns, and advancing by 5 ns twice is advancing by 10 ns. -/
theorem advancing_five_twice_is_advancing_ten :
    let H : Firing → Clock → List Port.Call := fun _ _ => [.now]
    let k := start Time.epoch
    let t₁ := Time.epoch.add 5
    let t₂ := Time.epoch.add 10
    t₁.ns ≤ t₂.ns ∧ (0 : Int) ≤ 5 ∧
    ((∃ ds₁ k₁ ds₂ k₂, AdvanceBy H k t₁ ds₁ k₁ ∧ AdvanceBy H k₁ t₂ ds₂ k₂) ↔
        ∃ ds k', AdvanceBy H k t₂ ds k') ∧
    (∀ ds₁ k₁ ds₂ k₂ ds k', AdvanceBy H k t₁ ds₁ k₁ → AdvanceBy H k₁ t₂ ds₂ k₂ →
      AdvanceBy H k t₂ ds k' →
      ds = ds₁ ++ ds₂ ∧ Port.ran ds = Port.ran ds₁ + Port.ran ds₂ ∧
        k'.now.ns = k₂.now.ns ∧ { k₂ with now := k'.now } = k') ∧
    ((∃ ds₁ k₁ ds₂ k₂, AdvanceBy H k (k.now.add 5) ds₁ k₁ ∧
        AdvanceBy H k₁ (k₁.now.add 5) ds₂ k₂) ↔
      ∃ ds k', AdvanceBy H k (k.now.add (5 + 5)) ds k') ∧
    ∀ ds₁ k₁ ds₂ k₂ ds k', AdvanceBy H k (k.now.add 5) ds₁ k₁ →
      AdvanceBy H k₁ (k₁.now.add 5) ds₂ k₂ → AdvanceBy H k (k.now.add (5 + 5)) ds k' →
      ds = ds₁ ++ ds₂ ∧ Port.ran ds = Port.ran ds₁ + Port.ran ds₂ ∧
        k'.now.ns = k₂.now.ns ∧ { k₂ with now := k'.now } = k' :=
  ⟨by decide, by decide,
    advancing_in_steps (fun _ _ => [.now]) (start Time.epoch) (by decide) (by decide) (by decide)⟩

end Clock

end HostDispatch
