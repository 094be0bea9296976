import HostDispatch.Proofs.Timer.Effects
import HostDispatch.Proofs.Scheduler.Pending

/-!
# The actions a timer holds

A timer holds at most two actions of its clock: the one-shot it armed first and the repeating
action of a periodic timer (`TimerTask.tokens`). `TimerTask.Holds` says that the actions pending on
its continuation are exactly these, each of its kind, that it holds at most one at a time, none
before it runs and none once it is destroyed, and that its continuation is destroyed only with it.
Running, firing and destroying keep it, and so does whatever else leaves the timer's slot and its
continuation alone.

A timer's life in a scenario is the relation `Scenario.TimerStep`: its owner runs or destroys it,
the clock fires one of its actions, or something else happens. Main statement:
`timer_holds_exactly_its_actions`, over every world reached from a freshly made timer.
-/

namespace HostDispatch

namespace Clock

theorem withdraw_pendingOn (k : Clock) (a : Nat) (c : Nat) :
    (k.withdraw (some a)).pendingOn c = (k.pendingOn c).filter (·.id != a) :=
  cancel_pendingOn k a c

theorem destroyContinuation_stats (k : Clock) (c : Option Nat) :
    (k.destroyContinuation c).stats.canceled = k.stats.canceled ∧
      (k.destroyContinuation c).stats.cancelMisuse = k.stats.cancelMisuse := by
  unfold destroyContinuation
  split
  · exact ⟨rfl, rfl⟩
  · split <;> exact ⟨rfl, rfl⟩

/-- Withdrawing the one action pending on a continuation leaves nothing pending on it, and counts
as a cancel that succeeded. -/
theorem withdraw_only {k : Clock} {c a : Nat} {kind : Kind}
    (h : (k.pendingOn c).map Action.tag = [(a, kind)]) :
    (k.withdraw (some a)).pendingOn c = [] ∧
      (k.withdraw (some a)).stats.canceled = k.stats.canceled + 1 ∧
      (k.withdraw (some a)).stats.cancelMisuse = k.stats.cancelMisuse := by
  obtain ⟨x, hx, hxa⟩ := List.map_eq_singleton_iff.mp h
  have hid : x.id = a := congrArg Prod.fst hxa
  have hmem : x ∈ k.queue.entries := (mem_pendingOn.mp (hx ▸ List.mem_singleton_self x)).1
  refine ⟨?_, cancel_stats_of_pending ⟨x, hmem, hid⟩⟩
  rw [withdraw_pendingOn, hx]
  simp [hid]

end Clock

namespace TimerTask

/-- The actions a timer holds, each with the kind it was armed as. -/
def tokens (t : TimerTask) : List (Nat × Kind) :=
  t.initialAction.toList.map (·, .once) ++ t.periodicAction.toList.map (·, .every)

theorem tokens_eq_nil {t : TimerTask} :
    t.tokens = [] ↔ t.initialAction = none ∧ t.periodicAction = none := by
  cases hi : t.initialAction <;> cases hp : t.periodicAction <;> simp [tokens, hi, hp]

theorem mem_tokens {t : TimerTask} {a : Nat} {kind : Kind} :
    (a, kind) ∈ t.tokens ↔
      (kind = .once ∧ t.initialAction = some a) ∨ (kind = .every ∧ t.periodicAction = some a) := by
  cases hi : t.initialAction <;> cases hp : t.periodicAction <;>
    simp [tokens, hi, hp, eq_comm, and_comm]

theorem tokens_eq_once {t : TimerTask} {a : Nat} :
    t.tokens = [(a, .once)] ↔ t.initialAction = some a ∧ t.periodicAction = none := by
  cases hi : t.initialAction <;> cases hp : t.periodicAction <;> simp [tokens, hi, hp, eq_comm]

theorem tokens_eq_every {t : TimerTask} {a : Nat} :
    t.tokens = [(a, .every)] ↔ t.initialAction = none ∧ t.periodicAction = some a := by
  cases hi : t.initialAction <;> cases hp : t.periodicAction <;> simp [tokens, hi, hp, eq_comm]

/-- What holds of a timer and its clock at every step. The actions pending on its continuation are
the ones it holds; it holds at most one, none before it runs or once it is destroyed, and never a
repeating one if it is one-off; its continuation is destroyed only with it. -/
structure Holds (t : TimerTask) (k : Clock) : Prop where
  pending : ((k.pendingOn t.cont).map Action.tag).Perm t.tokens
  single : t.initialAction = none ∨ t.periodicAction = none
  oneOff : t.mode = .oneOff → t.periodicAction = none
  idle : t.ran = false → t.tokens = []
  destroyed : t.destroyed = true → t.tokens = []
  live : k.isDestroyed t.cont = true → t.destroyed = true

/-- A timer that has taken an action of a kind as the one it holds. -/
def holding (t : TimerTask) : Kind → Nat → TimerTask
  | .once, a => { t with initialAction := some a }
  | .every, a => { t with periodicAction := some a }

section Holds

variable {t : TimerTask} {k : Clock}

/-- A timer that holds nothing, with nothing pending on its continuation, keeps its invariant as
long as its continuation is destroyed only with it. -/
theorem holds_of_nil (hn : t.tokens = []) (hp : k.pendingOn t.cont = [])
    (hl : k.isDestroyed t.cont = true → t.destroyed = true) : t.Holds k := by
  obtain ⟨hi, hq⟩ := tokens_eq_nil.mp hn
  exact ⟨by simp [hn, hp], .inl hi, fun _ => hq, fun _ => hn, fun _ => hn, hl⟩

theorem Holds.pendingOn_eq_nil (h : t.Holds k) (hn : t.tokens = []) : k.pendingOn t.cont = [] :=
  List.map_eq_nil_iff.mp (List.Perm.eq_nil (hn ▸ h.pending))

/-- A timer that holds an action has run, and neither it nor its continuation is destroyed. -/
theorem Holds.alive (h : t.Holds k) (hn : t.tokens ≠ []) :
    t.ran = true ∧ t.destroyed = false ∧ k.isDestroyed t.cont = false := by
  have hr : t.ran = true := by
    cases hr : t.ran
    · exact absurd (h.idle hr) hn
    · rfl
  have hd : t.destroyed = false := by
    cases hd : t.destroyed
    · rfl
    · exact absurd (h.destroyed hd) hn
  refine ⟨hr, hd, ?_⟩
  cases hl : k.isDestroyed t.cont
  · rfl
  · simpa [hd] using h.live hl

/-- A timer holds at most one action. -/
theorem Holds.tokens_eq_singleton (h : t.Holds k) {x : Nat × Kind} (hx : x ∈ t.tokens) :
    t.tokens = [x] := by
  rcases h.single with hi | hq
  · cases hq : t.periodicAction <;> simp_all [tokens]
  · cases hi : t.initialAction <;> simp_all [tokens]

theorem Holds.aside (h : t.Holds k) {k' : Clock} (ha : Clock.Aside t.cont k k') : t.Holds k' :=
  { h with
    pending := ha.pending ▸ h.pending
    live := fun hl => h.live (ha.destroyed ▸ hl) }

/-- A timer that holds nothing and arms an action holds it afterwards. It must have run and not be
destroyed, and only a periodic timer may arm a repeating action. -/
theorem Holds.arm {g g' : Gate} {k' : Clock} {kind : Kind} {d : Int} {a : Nat} (h : t.Holds k)
    (hn : t.tokens = []) (hr : t.ran = true) (hd : t.destroyed = false)
    (hm : kind = .every → t.mode ≠ .oneOff) (harm : g.arm k t.cont kind d = (.ok a, g', k')) :
    (t.holding kind a).Holds k' := by
  have hs := (Gate.arm_ok harm).1
  obtain ⟨-, -, -, -, -, -, hdk⟩ := Clock.schedule_eq_ok hs
  have hpend := Clock.schedule_pendingOn_self hs
  have hlive : k'.isDestroyed t.cont = true → t.destroyed = true :=
    fun hl => h.live ((Clock.isDestroyed_congr hdk _).symm.trans hl)
  rw [h.pendingOn_eq_nil hn] at hpend
  obtain ⟨hi, hq⟩ := tokens_eq_nil.mp hn
  have htok : (t.holding kind a).tokens = [(a, kind)] := by
    cases kind <;> simp [holding, tokens, hi, hq]
  have hidle : (t.holding kind a).ran = true := by cases kind <;> exact hr
  have hdes : (t.holding kind a).destroyed = false := by cases kind <;> exact hd
  refine ⟨?_, ?_, ?_, fun h' => absurd h' (by simp [hidle]), fun h' => absurd h' (by simp [hdes]),
    ?_⟩
  · rw [htok]
    cases kind <;> exact hpend
  · cases kind
    · exact .inr hq
    · exact .inl hi
  · cases kind
    · exact fun _ => hq
    · exact fun hmo => absurd hmo (hm rfl)
  · cases kind <;> exact hlive

/-- What a timer reports as armed is what is pending on its continuation, by kind. -/
theorem Holds.armed_eq (h : t.Holds k) :
    t.armed = ((k.pendingOn t.cont).any (·.kind == .once),
      (k.pendingOn t.cont).any (·.kind == .every)) := by
  have hany : ∀ kind : Kind,
      (k.pendingOn t.cont).any (·.kind == kind) = t.tokens.any (·.2 == kind) := by
    intro kind
    rw [← h.pending.any_eq, List.any_map]
    rfl
  rw [hany, hany]
  cases hd : t.destroyed
  · cases hi : t.initialAction <;> cases hq : t.periodicAction <;> simp [armed, tokens, hd, hi, hq]
  · simp [armed, hd, h.destroyed hd]

end Holds

/-! ## Running -/

theorem Holds.run {t : TimerTask} {k : Clock} (h : t.Holds k) (ctrl : Option ControllerRef)
    (g : Gate) : (t.runEffect ctrl g k).1.Holds (t.runEffect ctrl g k).2.2 := by
  unfold runEffect
  cases ctrl with
  | none => exact h
  | some c =>
    dsimp only
    by_cases hdr : (t.destroyed || t.ran) = true
    · rw [if_pos hdr]
      exact h
    rw [if_neg hdr]
    simp only [Bool.or_eq_true, not_or, Bool.not_eq_true] at hdr
    obtain ⟨hd, hr⟩ := hdr
    have hn := h.idle hr
    have h₁ : ∀ ctrl' : Option ControllerRef,
        ({ t with ran := true, controller := ctrl' } : TimerTask).Holds k :=
      fun _ => holds_of_nil hn (h.pendingOn_eq_nil hn) h.live
    split
    · rcases harm : g.arm k t.cont .once t.firstDelay with ⟨r, g', k'⟩
      cases r with
      | ok a => exact (h₁ (some c)).arm hn rfl hd (by simp) harm
      | error e =>
        obtain ⟨rfl, -⟩ := Gate.arm_error harm
        exact h₁ none
    · rename_i hs
      have hm : t.mode ≠ .oneOff := fun hm => hs (by simp [startsOnce, hm])
      rcases harm : g.arm k t.cont .every t.period with ⟨r, g', k'⟩
      cases r with
      | ok a => exact (h₁ (some c)).arm hn rfl hd (fun _ => hm) harm
      | error e =>
        obtain ⟨rfl, -⟩ := Gate.arm_error harm
        exact h₁ none

/-! ## Firing -/

/-- A firing of one of a timer's actions, up to its dispatch, keeps its invariant: a one-shot was
the timer's first action, and a periodic timer arms its repeating action in its place; a repeating
action is pending again with its id. -/
theorem Holds.fire {t : TimerTask} {k k' : Clock} {target : Time} {f : Firing} (h : t.Holds k)
    (ht : k.takeDue target = some (f, k')) (hf : f.cont = t.cont) (g : Gate) :
    (t.firingEffect g k').1.Holds (t.firingEffect g k').2.2 := by
  obtain ⟨rest, he, hafter⟩ := Clock.takeDue_pendingOn_self ht
  rw [hf] at he hafter
  have hperm : ((f.action, f.kind) :: rest).Perm t.tokens := he ▸ h.pending
  have hmem : (f.action, f.kind) ∈ t.tokens := hperm.subset List.mem_cons_self
  obtain ⟨hr, hd, hl⟩ := h.alive (List.ne_nil_of_mem hmem)
  have hl' : k'.isDestroyed t.cont = false :=
    (Clock.isDestroyed_congr (Clock.takeDue_destroyed ht) _).trans hl
  -- The timer holds one action, so it is the one that fired and nothing else was pending.
  have hone := h.tokens_eq_singleton hmem
  have hrest : rest = [] := (hone ▸ hperm).cons_inv.eq_nil
  cases hkind : f.kind with
  | once =>
    obtain ⟨hi, hq⟩ := tokens_eq_once.mp (hkind ▸ hone)
    have hnil : k'.pendingOn t.cont = [] := by
      rw [hkind, hrest] at hafter
      exact List.map_eq_nil_iff.mp hafter.eq_nil
    have h₀ : ({ t with initialAction := none } : TimerTask).Holds k' :=
      holds_of_nil (by simp [tokens, hq]) hnil (fun hl₁ => absurd (hl'.symm.trans hl₁) (by simp))
    cases hm : t.mode with
    | oneOff =>
      rw [firingEffect_of_oneOff hd hi hm]
      exact h₀
    | periodic =>
      rcases harm : g.arm k' t.cont .every t.period with ⟨r, g', k''⟩
      cases r with
      | ok a =>
        rw [firingEffect_of_arm hd hi hm harm]
        exact h₀.arm (by simp [tokens, hq]) hr hd (fun _ => by simp [hm]) harm
      | error e =>
        rw [firingEffect_of_arm_error hd hi hm harm]
        obtain ⟨rfl, -⟩ := Gate.arm_error harm
        exact h₀
  | every =>
    obtain ⟨hi, hq⟩ := tokens_eq_every.mp (hkind ▸ hone)
    rw [firingEffect_of_repeating hd hi]
    exact { h with
      pending := by simpa [hkind, hrest, tokens, hi, hq] using hafter
      live := fun hl₁ => absurd (hl'.symm.trans hl₁) (by simp) }

/-! ## Destroying -/

/-- Withdrawing the actions a timer holds leaves nothing pending on its continuation, and each
cancel it makes succeeds. -/
theorem Holds.withdraw {t : TimerTask} {k : Clock} (h : t.Holds k) :
    ((k.withdraw t.initialAction).withdraw t.periodicAction).pendingOn t.cont = [] ∧
      ((k.withdraw t.initialAction).withdraw t.periodicAction).stats.canceled =
        k.stats.canceled + t.tokens.length ∧
      ((k.withdraw t.initialAction).withdraw t.periodicAction).stats.cancelMisuse =
        k.stats.cancelMisuse := by
  -- The timer holds at most one action, which is the only one pending on its continuation.
  have honly : ∀ a kind, t.tokens = [(a, kind)] →
      (k.pendingOn t.cont).map Action.tag = [(a, kind)] := fun a kind ht =>
    List.perm_singleton.mp (ht ▸ h.pending)
  cases hi : t.initialAction with
  | none =>
    cases hq : t.periodicAction with
    | none =>
      have hn : t.tokens = [] := tokens_eq_nil.mpr ⟨hi, hq⟩
      exact ⟨h.pendingOn_eq_nil hn, by simp [Clock.withdraw, hn], rfl⟩
    | some a =>
      have := Clock.withdraw_only (honly a .every (by simp [tokens, hi, hq]))
      simpa [Clock.withdraw, tokens, hi, hq] using this
  | some a =>
    have hq : t.periodicAction = none := h.single.resolve_left (by simp [hi])
    have := Clock.withdraw_only (honly a .once (by simp [tokens, hi, hq]))
    simpa [Clock.withdraw, tokens, hi, hq] using this

theorem Holds.destroy {t : TimerTask} {k : Clock} (h : t.Holds k) :
    (t.destroyEffect k).1.Holds (t.destroyEffect k).2 := by
  unfold destroyEffect
  split
  · exact h
  · exact holds_of_nil (by simp [tokens])
      (by rw [Clock.destroyContinuation_pendingOn]; exact h.withdraw.1) (fun _ => rfl)

/-- Destroying a timer cancels each action it holds, and each cancel succeeds. -/
theorem Holds.destroy_stats {t : TimerTask} {k : Clock} (h : t.Holds k) :
    (t.destroyEffect k).2.stats.canceled = k.stats.canceled + t.tokens.length ∧
      (t.destroyEffect k).2.stats.cancelMisuse = k.stats.cancelMisuse := by
  unfold destroyEffect
  split
  · rename_i hd
    simp [h.destroyed hd]
  · obtain ⟨h₁, h₂⟩ := Clock.destroyContinuation_stats
      ((k.withdraw t.initialAction).withdraw t.periodicAction) (some t.cont)
    exact ⟨h₁.trans h.withdraw.2.1, h₂.trans h.withdraw.2.2⟩

end TimerTask

namespace Scenario

/-- One step of a scenario as the timer in slot `p` sees it. Its owner runs it, with a controller
or with none. It is destroyed: by its owner, from inside its own receiver, or after its receiver
answered no. The clock takes one of its actions and fires it up to the dispatch, or drops the
firing if its continuation is destroyed. Or anything else happens that leaves its slot, the actions
pending on its continuation and whether that is destroyed as they were: another party's call on
the clock, a firing of another continuation, a receiver that answers or closes its promise. -/
inductive TimerStep (p : Nat) : World → World → Prop
  | run {w : World} (ctrl : Option ControllerRef) : TimerStep p w (after (runTimer p ctrl) w)
  | destroy {w : World} (reason : String) : TimerStep p w (after (destroyTimer p reason) w)
  | fire {w : World} {t : TimerTask} {g : Gate} {target : Time} {f : Firing} {k : Clock} :
      w.providers[p]? = some ⟨.timer t, g⟩ → w.clock.takeDue target = some (f, k) →
      f.cont = t.cont →
      TimerStep p w (if k.isDestroyed f.cont then { w with clock := k }
        else after (firingPrefix p) { w with clock := k })
  | other {w w' : World} : w'.providers[p]? = w.providers[p]? →
      (∀ t g, w.providers[p]? = some ⟨.timer t, g⟩ → Clock.Aside t.cont w.clock w'.clock) →
      TimerStep p w w'

/-- A timer just made in slot `p`: it holds no action, and its continuation is live with nothing
pending on it. -/
def FreshTimer (p : Nat) (w : World) : Prop :=
  ∃ t g, w.providers[p]? = some ⟨.timer t, g⟩ ∧ t.tokens = [] ∧ w.clock.pendingOn t.cont = [] ∧
    w.clock.isDestroyed t.cont = false

/-- The timer in slot `p` and the clock keep the timer's invariant. -/
def TimerHolds (p : Nat) (w : World) : Prop :=
  ∃ t g, w.providers[p]? = some ⟨.timer t, g⟩ ∧ t.Holds w.clock

variable {p : Nat} {w w' : World}

theorem FreshTimer.holds (h : FreshTimer p w) : TimerHolds p w := by
  obtain ⟨t, g, hp, hn, hpend, hl⟩ := h
  exact ⟨t, g, hp, TimerTask.holds_of_nil hn hpend (fun h' => absurd (hl.symm.trans h') (by simp))⟩

theorem TimerStep.holds (hs : TimerStep p w w') (h : TimerHolds p w) : TimerHolds p w' := by
  obtain ⟨t, g, hp, ht⟩ := h
  cases hs with
  | run ctrl =>
    obtain ⟨h₁, h₂⟩ := runTimer_effect hp ctrl
    exact ⟨_, _, h₁, by rw [h₂]; exact ht.run ctrl g⟩
  | destroy reason =>
    obtain ⟨h₁, h₂⟩ := destroyTimer_effect hp reason
    exact ⟨_, _, h₁, by rw [h₂]; exact ht.destroy⟩
  | @fire t' g' target f k hp' htake hf =>
    -- The slot holds one timer, so the firing is of the timer the invariant is about.
    obtain ⟨rfl, rfl⟩ : t = t' ∧ g = g' := by simpa [hp] using hp'
    obtain ⟨rest, he, -⟩ := Clock.takeDue_pendingOn_self htake
    have hperm := ht.pending
    rw [← hf, he] at hperm
    have hmem := hperm.subset List.mem_cons_self
    have hl : k.isDestroyed f.cont = false := by
      rw [Clock.isDestroyed_congr (Clock.takeDue_destroyed htake), hf]
      exact (ht.alive (List.ne_nil_of_mem hmem)).2.2
    rw [if_neg (by simp [hl])]
    obtain ⟨W, hrun, hW₁, hW₂⟩ := firingPrefix_effect (w := { w with clock := k }) hp
    rw [after_of_ok hrun]
    exact ⟨_, _, hW₁, by rw [hW₂]; exact ht.fire htake hf _⟩
  | other hslot haside => exact ⟨t, g, hslot.trans hp, ht.aside (haside t g hp)⟩

/-- Every world reached from a freshly made timer keeps the timer's invariant. -/
theorem reachable_holds {w₀ : World} (h₀ : FreshTimer p w₀)
    (hw : Relation.ReflTransGen (TimerStep p) w₀ w) : TimerHolds p w := by
  induction hw with
  | refl => exact h₀.holds
  | tail _ hs ih => exact hs.holds ih

/-- From a freshly made timer, the actions pending on its continuation are exactly those it holds,
and destroying it cancels each of them, leaving nothing pending. -/
theorem timer_holds_exactly_its_actions {w₀ : World} (h₀ : FreshTimer p w₀)
    (hw : Relation.ReflTransGen (TimerStep p) w₀ w) :
    ∃ t g, w.providers[p]? = some ⟨.timer t, g⟩ ∧
      ((w.clock.pendingOn t.cont).map Action.tag).Perm t.tokens ∧
      (t.mode = .oneOff → t.periodicAction = none) ∧
      t.armed = ((w.clock.pendingOn t.cont).any (·.kind == .once),
        (w.clock.pendingOn t.cont).any (·.kind == .every)) ∧
      (∀ reason, (after (destroyTimer p reason) w).clock.stats.canceled =
          w.clock.stats.canceled + t.tokens.length ∧
        (after (destroyTimer p reason) w).clock.stats.cancelMisuse =
          w.clock.stats.cancelMisuse) ∧
      (t.destroyed = true → w.clock.pendingOn t.cont = []) := by
  obtain ⟨t, g, hp, ht⟩ := reachable_holds h₀ hw
  refine ⟨t, g, hp, ht.pending, ht.oneOff, ht.armed_eq, fun reason => ?_,
    fun hd => ht.pendingOn_eq_nil (ht.destroyed hd)⟩
  rw [(destroyTimer_effect hp reason).2]
  exact ht.destroy_stats

/-- A periodic timer just made in slot 0, on continuation 1 of a clock at the epoch, run with a
stand-in controller. -/
theorem periodic_timer_run_holds_its_action :
    let w₀ : World :=
      { clock := { now := Time.epoch, destroyed := #[false] },
        providers := #[{ task := .timer { name := "tick", mode := .periodic, period := 1000000,
                                          initial := 0, cont := 1, logger := {} } }] }
    let w := after (runTimer 0 (some (.stub 0))) w₀
    FreshTimer 0 w₀ ∧ Relation.ReflTransGen (TimerStep 0) w₀ w ∧
      ∃ t g, w.providers[0]? = some ⟨.timer t, g⟩ ∧
        ((w.clock.pendingOn t.cont).map Action.tag).Perm t.tokens ∧
        (t.mode = .oneOff → t.periodicAction = none) ∧
        t.armed = ((w.clock.pendingOn t.cont).any (·.kind == .once),
          (w.clock.pendingOn t.cont).any (·.kind == .every)) ∧
        (∀ reason, (after (destroyTimer 0 reason) w).clock.stats.canceled =
            w.clock.stats.canceled + t.tokens.length ∧
          (after (destroyTimer 0 reason) w).clock.stats.cancelMisuse =
            w.clock.stats.cancelMisuse) ∧
        (t.destroyed = true → w.clock.pendingOn t.cont = []) := by
  intro w₀ w
  have h₀ : FreshTimer 0 w₀ := ⟨_, _, rfl, rfl, rfl, rfl⟩
  have hw : Relation.ReflTransGen (TimerStep 0) w₀ w := .single (.run (some (.stub 0)))
  exact ⟨h₀, hw, timer_holds_exactly_its_actions h₀ hw⟩

end Scenario

end HostDispatch
