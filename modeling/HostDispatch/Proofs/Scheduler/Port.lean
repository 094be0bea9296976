import Mathlib.Logic.Relation
import HostDispatch.Scheduler.Clock

/-!
# Clients of a clock

A clock is driven by a client: it makes continuations, arms, cancels and destroys, reads the clock,
and advances it. While an advance runs, each firing due by the target is taken from the queue and
handed to the handler of its continuation, unless that continuation was destroyed. A handler is
client code too and may call the clock again; an advance from inside a handler panics, and a
handler that recovers goes on.

`Port` gathers what a clock offers, over any state, so that the clock and a reference for it are
driven by one definition of a client. A handler is any sequence of calls, each answered as the port
answers it. An advance records, for each firing, the clock's time at its delivery and the calls its
handler made; a `History` is a client's calls from a state, one after another, with their answers.
Every run is made of four kinds of `Move`: a call that runs no handler, the start of an advance, a
firing taken from the queue, and the end of an advance once nothing more is due.
-/

namespace HostDispatch

/-- What a simulated clock offers its clients, over a state `S`. -/
structure Port (S : Type) where
  now : S → Time
  newContinuation : S → Nat × S
  scheduleOnce : S → Option Nat → Int → Except Fault (Nat × S)
  scheduleEvery : S → Option Nat → Int → Except Fault (Nat × S)
  cancel : S → Option Nat → Except Fault Unit × S
  destroyContinuation : S → Option Nat → S
  isDestroyed : S → Nat → Bool
  pending : S → Nat
  nextDue : S → Option Time
  stats : S → ClockStats
  /-- Start an advance; `none` when one is running. -/
  beginAdvance : S → Option S
  /-- Take the next firing due by a target. -/
  takeDue : S → Time → Option (Firing × S)
  /-- End an advance at its target. -/
  finishAdvance : S → Time → S

namespace Port

/-- A call a client makes on a port. -/
inductive Call where
  | now
  | newContinuation
  | scheduleOnce (cont : Option Nat) (delay : Int)
  | scheduleEvery (cont : Option Nat) (period : Int)
  | cancel (action : Option Nat)
  | destroy (cont : Option Nat)
  | isDestroyed (cont : Nat)
  | pending
  | nextDue
  | stats
  /-- Advance by a duration from the current time. -/
  | advance (d : Int)
  | advanceTo (target : Time)

/-- What a call answers. -/
inductive Reply where
  | time (t : Time)
  | cont (id : Nat)
  | armed (r : Except Fault Nat)
  | canceled (r : Except Fault Unit)
  | done
  | flag (b : Bool)
  | count (n : Nat)
  | due (t : Option Time)
  | stats (s : ClockStats)
  /-- An advance made while one runs panics with this message. -/
  | panicked (message : String)
  /-- An advance ran this many handlers. -/
  | delivered (n : Nat)

/-- One firing of an advance: the firing, the clock's time when it was delivered, and, when its
continuation was live, the calls its handler made with their answers. -/
structure Delivery where
  firing : Firing
  now : Time
  handler : Option (List (Call × Reply))

/-- How many handlers the deliveries ran. -/
def ran (ds : List Delivery) : Nat := ds.countP (·.handler.isSome)

/-- One entry of a client's history: a call, its answer, and the firings it delivered. -/
structure Entry where
  call : Call
  reply : Reply
  deliveries : List Delivery

/-- The answer to an arming, and the state after it. -/
def armReply {S : Type} (s : S) : Except Fault (Nat × S) → Reply × S
  | .ok (id, s') => (.armed (.ok id), s')
  | .error e => (.armed (.error e), s)

theorem armReply_cases {S : Type} {s s' : S} {x : Except Fault (Nat × S)} {r : Reply}
    (h : armReply s x = (r, s')) :
    (s' = s ∧ ∃ e, x = .error e ∧ r = .armed (.error e)) ∨
      ∃ id, x = .ok (id, s') ∧ r = .armed (.ok id) := by
  cases x with
  | error e =>
    obtain ⟨rfl, rfl⟩ := Prod.mk.inj h
    exact .inl ⟨rfl, e, rfl, rfl⟩
  | ok v =>
    obtain ⟨rfl, rfl⟩ := Prod.mk.inj h
    exact .inr ⟨_, rfl, rfl⟩

variable {S : Type} (P : Port S)

/-- The target of an advance made in a state. -/
def target (s : S) : Call → Option Time
  | .advance d => some ((P.now s).add d)
  | .advanceTo t => some t
  | _ => none

/-- A call that runs no handler, with its answer: every call but an advance, and an advance refused
because another one is running. `none` for an advance that starts. -/
def call (s : S) : Call → Option (Reply × S)
  | .now => some (.time (P.now s), s)
  | .newContinuation => some (.cont (P.newContinuation s).1, (P.newContinuation s).2)
  | .scheduleOnce c d => some (armReply s (P.scheduleOnce s c d))
  | .scheduleEvery c d => some (armReply s (P.scheduleEvery s c d))
  | .cancel a => some (.canceled (P.cancel s a).1, (P.cancel s a).2)
  | .destroy c => some (.done, P.destroyContinuation s c)
  | .isDestroyed c => some (.flag (P.isDestroyed s c), s)
  | .pending => some (.count (P.pending s), s)
  | .nextDue => some (.due (P.nextDue s), s)
  | .stats => some (.stats (P.stats s), s)
  | .advance _ | .advanceTo _ =>
    if (P.beginAdvance s).isSome then none else some (.panicked Clock.reentryMessage, s)

/-- A handler's run: calls made one after another, each with the answer it got. -/
inductive Calls : S → List (Call × Reply) → S → Prop
  | nil (s : S) : Calls s [] s
  | cons {s s₁ s₂ : S} {c : Call} {r : Reply} {rest : List (Call × Reply)} :
      P.call s c = some (r, s₁) → Calls s₁ rest s₂ → Calls s ((c, r) :: rest) s₂

/-- The firings of an advance to `target`: each firing due by the target is taken in turn and, when
its continuation is live, handed to a handler; once nothing more is due the advance ends. -/
inductive Fires (target : Time) : S → List Delivery → S → Prop
  | finish {s : S} : P.takeDue s target = none → Fires target s [] (P.finishAdvance s target)
  | skip {s s₁ s₂ : S} {f : Firing} {ds : List Delivery} :
      P.takeDue s target = some (f, s₁) → P.isDestroyed s₁ f.cont = true →
      Fires target s₁ ds s₂ → Fires target s (⟨f, P.now s₁, none⟩ :: ds) s₂
  | deliver {s s₁ s₂ s₃ : S} {f : Firing} {log : List (Call × Reply)} {ds : List Delivery} :
      P.takeDue s target = some (f, s₁) → P.isDestroyed s₁ f.cont = false →
      Calls P s₁ log s₂ → Fires target s₂ ds s₃ →
      Fires target s (⟨f, P.now s₁, some log⟩ :: ds) s₃

/-- A call made at the top level: one that runs no handler, or an advance that starts, delivers what
falls due by its target and answers how many handlers ran. -/
inductive Op : S → Call → Reply → List Delivery → S → Prop
  | call {s s' : S} {c : Call} {r : Reply} : P.call s c = some (r, s') → Op s c r [] s'
  | advance {s s₁ s₂ : S} {c : Call} {t : Time} {ds : List Delivery} :
      P.target s c = some t → P.beginAdvance s = some s₁ → Fires P t s₁ ds s₂ →
      Op s c (.delivered (ran ds)) ds s₂

/-- A client's calls from a state, each with its answer and deliveries, and the state they reach. -/
inductive History : S → List Entry → S → Prop
  | nil (s : S) : History s [] s
  | cons {s s₁ s₂ : S} {c : Call} {r : Reply} {ds : List Delivery} {es : List Entry} :
      Op P s c r ds s₁ → History s₁ es s₂ → History s (⟨c, r, ds⟩ :: es) s₂

/-- One step of a port. -/
inductive Move : S → S → Prop
  | call {s s' : S} {c : Call} {r : Reply} : P.call s c = some (r, s') → Move s s'
  | begin {s s' : S} : P.beginAdvance s = some s' → Move s s'
  | take {s s' : S} {t : Time} {f : Firing} : P.takeDue s t = some (f, s') → Move s s'
  | finish {s : S} {t : Time} : P.takeDue s t = none → Move s (P.finishAdvance s t)

open Relation

variable {P}

theorem Calls.moves {s s' : S} {log : List (Call × Reply)} (h : Calls P s log s') :
    ReflTransGen P.Move s s' := by
  induction h with
  | nil => exact ReflTransGen.refl
  | cons hc _ ih => exact ReflTransGen.head (Move.call hc) ih

theorem Fires.moves {t : Time} {s s' : S} {ds : List Delivery} (h : Fires P t s ds s') :
    ReflTransGen P.Move s s' := by
  induction h with
  | finish hn => exact ReflTransGen.single (Move.finish hn)
  | skip ht _ _ ih => exact ReflTransGen.head (Move.take ht) ih
  | deliver ht _ hc _ ih => exact ReflTransGen.head (Move.take ht) ((hc.moves).trans ih)

theorem Op.moves {s s' : S} {c : Call} {r : Reply} {ds : List Delivery} (h : Op P s c r ds s') :
    ReflTransGen P.Move s s' := by
  cases h with
  | call hc => exact ReflTransGen.single (Move.call hc)
  | advance _ hb hf => exact ReflTransGen.head (Move.begin hb) hf.moves

theorem History.moves {s s' : S} {es : List Entry} (h : History P s es s') :
    ReflTransGen P.Move s s' := by
  induction h with
  | nil => exact ReflTransGen.refl
  | cons ho _ ih => exact ho.moves.trans ih

/-- A property that every step keeps holds all along a run. -/
theorem Move.invariant {I : S → Prop} (hI : ∀ s s', P.Move s s' → I s → I s') {s s' : S}
    (h : ReflTransGen P.Move s s') (hs : I s) : I s' := by
  induction h with
  | refl => exact hs
  | tail _ hm ih => exact hI _ _ hm ih

/-! ## Ports that answer alike -/

/-- Two ports answer alike from states related by `R`: they show the same time and destroyed
flags, a call that runs no handler answers the same in both and keeps `R`, an advance starts in
both or in neither, both take the same firing or none, and both end an advance in related states. -/
structure Lockstep {T : Type} (P : Port S) (Q : Port T) (R : S → T → Prop) : Prop where
  now : ∀ s t, R s t → Q.now t = P.now s
  isDestroyed : ∀ s t c, R s t → Q.isDestroyed t c = P.isDestroyed s c
  call : ∀ s t c, R s t →
    Option.Rel (fun x y => x.1 = y.1 ∧ R x.2 y.2) (P.call s c) (Q.call t c)
  begin : ∀ s t, R s t → Option.Rel R (P.beginAdvance s) (Q.beginAdvance t)
  take : ∀ s t u, R s t →
    Option.Rel (fun x y => x.1 = y.1 ∧ R x.2 y.2) (P.takeDue s u) (Q.takeDue t u)
  finish : ∀ s t u, R s t → R (P.finishAdvance s u) (Q.finishAdvance t u)

namespace Lockstep

variable {T : Type} {Q : Port T} {R : S → T → Prop}

theorem rel_swap {α β : Type} {r : α → β → Prop} {r' : β → α → Prop} {a : Option α}
    {b : Option β} (himp : ∀ x y, r x y → r' y x) (h : Option.Rel r a b) :
    Option.Rel r' b a := by
  cases h with
  | some h => exact .some (himp _ _ h)
  | none => exact .none

/-- Answering alike is symmetric. -/
theorem symm (h : Lockstep P Q R) : Lockstep Q P (fun t s => R s t) where
  now s t hR := (h.now t s hR).symm
  isDestroyed s t c hR := (h.isDestroyed t s c hR).symm
  call s t c hR := rel_swap (fun _ _ h => ⟨h.1.symm, h.2⟩) (h.call t s c hR)
  begin s t hR := rel_swap (fun _ _ h => h) (h.begin t s hR)
  take s t u hR := rel_swap (fun _ _ h => ⟨h.1.symm, h.2⟩) (h.take t s u hR)
  finish s t u hR := h.finish t s u hR

theorem some_of_rel {α β : Type} {r : α → β → Prop} {a : α} {b : Option β}
    (h : Option.Rel r (some a) b) : ∃ b', b = some b' ∧ r a b' := by
  generalize hs : some a = x at h
  cases h with
  | some hr => exact ⟨_, rfl, (Option.some.inj hs) ▸ hr⟩
  | none => cases hs

theorem none_of_rel {α β : Type} {r : α → β → Prop} {b : Option β}
    (h : Option.Rel r (none : Option α) b) : b = none := by
  generalize hs : (none : Option α) = x at h
  cases h with
  | some _ => cases hs
  | none => rfl

theorem call_some (h : Lockstep P Q R) {s : S} {t : T} {s' : S} {c : Call} {r : Reply}
    (hR : R s t) (hc : P.call s c = some (r, s')) :
    ∃ t', Q.call t c = some (r, t') ∧ R s' t' := by
  have hrel := h.call s t c hR
  rw [hc] at hrel
  obtain ⟨⟨r', t'⟩, ht, hr, hR'⟩ := some_of_rel hrel
  exact ⟨t', by rw [ht, show r' = r from hr.symm], hR'⟩

theorem take_some (h : Lockstep P Q R) {s : S} {t : T} {s' : S} {u : Time} {f : Firing}
    (hR : R s t) (ht : P.takeDue s u = some (f, s')) :
    ∃ t', Q.takeDue t u = some (f, t') ∧ R s' t' := by
  have hrel := h.take s t u hR
  rw [ht] at hrel
  obtain ⟨⟨f', t'⟩, ht', hf, hR'⟩ := some_of_rel hrel
  exact ⟨t', by rw [ht', show f' = f from hf.symm], hR'⟩

theorem take_none (h : Lockstep P Q R) {s : S} {t : T} {u : Time} (hR : R s t)
    (ht : P.takeDue s u = none) : Q.takeDue t u = none := by
  have hrel := h.take s t u hR
  rw [ht] at hrel
  exact none_of_rel hrel

theorem begin_some (h : Lockstep P Q R) {s : S} {t : T} {s' : S} (hR : R s t)
    (hb : P.beginAdvance s = some s') : ∃ t', Q.beginAdvance t = some t' ∧ R s' t' := by
  have hrel := h.begin s t hR
  rw [hb] at hrel
  exact some_of_rel hrel

theorem target_eq (h : Lockstep P Q R) {s : S} {t : T} (hR : R s t) (c : Call) :
    Q.target t c = P.target s c := by
  cases c <;> simp [target, h.now s t hR]

theorem calls (h : Lockstep P Q R) {s : S} {t : T} {s' : S} {log : List (Call × Reply)}
    (hR : R s t) (hc : Calls P s log s') : ∃ t', Calls Q t log t' ∧ R s' t' := by
  induction hc generalizing t with
  | nil => exact ⟨t, .nil t, hR⟩
  | cons hc _ ih =>
    obtain ⟨t₁, ht, hR₁⟩ := h.call_some hR hc
    obtain ⟨t', hrest, hR'⟩ := ih hR₁
    exact ⟨t', .cons ht hrest, hR'⟩

theorem fires (h : Lockstep P Q R) {s : S} {t : T} {s' : S} {u : Time} {ds : List Delivery}
    (hR : R s t) (hf : Fires P u s ds s') : ∃ t', Fires Q u t ds t' ∧ R s' t' := by
  induction hf generalizing t with
  | finish hn => exact ⟨_, .finish (h.take_none hR hn), h.finish _ _ _ hR⟩
  | skip ht hd _ ih =>
    obtain ⟨t₁, ht', hR₁⟩ := h.take_some hR ht
    obtain ⟨t', hrest, hR'⟩ := ih hR₁
    refine ⟨t', ?_, hR'⟩
    rw [← h.now _ _ hR₁]
    exact .skip ht' (by rw [h.isDestroyed _ _ _ hR₁]; exact hd) hrest
  | deliver ht hd hc _ ih =>
    obtain ⟨t₁, ht', hR₁⟩ := h.take_some hR ht
    obtain ⟨t₂, hc', hR₂⟩ := h.calls hR₁ hc
    obtain ⟨t', hrest, hR'⟩ := ih hR₂
    refine ⟨t', ?_, hR'⟩
    rw [← h.now _ _ hR₁]
    exact .deliver ht' (by rw [h.isDestroyed _ _ _ hR₁]; exact hd) hc' hrest

theorem op (h : Lockstep P Q R) {s : S} {t : T} {s' : S} {c : Call} {r : Reply}
    {ds : List Delivery} (hR : R s t) (ho : Op P s c r ds s') :
    ∃ t', Op Q t c r ds t' ∧ R s' t' := by
  cases ho with
  | call hc =>
    obtain ⟨t', hc', hR'⟩ := h.call_some hR hc
    exact ⟨t', .call hc', hR'⟩
  | advance htg hb hf =>
    obtain ⟨t₁, hb', hR₁⟩ := h.begin_some hR hb
    obtain ⟨t', hf', hR'⟩ := h.fires hR₁ hf
    exact ⟨t', .advance (by rw [h.target_eq hR]; exact htg) hb' hf', hR'⟩

/-- From related states, every history of one port is a history of the other, and they end in
related states. -/
theorem history (h : Lockstep P Q R) {s : S} {t : T} {s' : S} {es : List Entry}
    (hR : R s t) (he : History P s es s') : ∃ t', History Q t es t' ∧ R s' t' := by
  induction he generalizing t with
  | nil => exact ⟨t, .nil t, hR⟩
  | cons ho _ ih =>
    obtain ⟨t₁, ho', hR₁⟩ := h.op hR ho
    obtain ⟨t', hrest, hR'⟩ := ih hR₁
    exact ⟨t', .cons ho' hrest, hR'⟩

end Lockstep

end Port

namespace Clock

/-- The simulated clock as a port. -/
def port : Port Clock where
  now := Clock.now
  newContinuation := Clock.newContinuation
  scheduleOnce := Clock.scheduleOnce
  scheduleEvery := Clock.scheduleEvery
  cancel k a := ((k.cancel a).1.map fun _ => (), (k.cancel a).2)
  destroyContinuation := Clock.destroyContinuation
  isDestroyed := Clock.isDestroyed
  pending := Clock.pending
  nextDue := Clock.nextDue
  stats := Clock.stats
  beginAdvance := Clock.beginAdvance
  takeDue := Clock.takeDue
  finishAdvance := Clock.finishAdvance

/-! ## What each operation does -/

theorem schedule_eq_ok {k k' : Clock} {cont : Option Nat} {kind : Kind} {d : Int} {id : Nat}
    (h : k.schedule cont kind d = .ok (id, k')) :
    ∃ c, cont = some c ∧ k.isDestroyed c = false ∧
      (id, k'.queue) = k.queue.arm c kind d k.now ∧
      k'.now = k.now ∧ k'.advancing = k.advancing ∧ k'.destroyed = k.destroyed := by
  cases cont with
  | none => simp [schedule] at h
  | some c =>
    simp only [schedule] at h
    split at h
    · cases h
    · rename_i hd
      simp only [Bool.not_eq_true] at hd
      obtain ⟨rfl, rfl⟩ := Prod.mk.inj (Except.ok.inj h)
      exact ⟨c, rfl, hd, rfl, rfl, rfl, rfl⟩

theorem schedule_eq_error {k : Clock} {cont : Option Nat} {kind : Kind} {d : Int} {e : Fault}
    (h : k.schedule cont kind d = .error e) :
    cont = none ∨ ∃ c, cont = some c ∧ k.isDestroyed c = true := by
  cases cont with
  | none => exact Or.inl rfl
  | some c =>
    simp only [schedule] at h
    split at h
    · rename_i hd
      exact Or.inr ⟨c, rfl, hd⟩
    · cases h

theorem takeDue_eq_some {k k' : Clock} {t : Time} {f : Firing} :
    k.takeDue t = some (f, k') ↔
      ∃ q, k.queue.popDue t false = some (f, q) ∧
        k' = { k with queue := q, now := if f.due.after k.now then f.due else k.now,
                      stats := { k.stats with fired := k.stats.fired + 1 } } := by
  unfold takeDue
  split
  · simp_all
  · rename_i f' q' hp
    simp only [Option.some.injEq, Prod.mk.injEq]
    constructor
    · rintro ⟨rfl, rfl⟩
      exact ⟨q', hp, rfl⟩
    · rintro ⟨q, hq, rfl⟩
      obtain ⟨rfl, rfl⟩ := Prod.mk.inj (Option.some.inj (hp.symm.trans hq))
      exact ⟨rfl, rfl⟩

theorem takeDue_eq_none {k : Clock} {t : Time} :
    k.takeDue t = none ↔ k.queue.popDue t false = none := by
  unfold takeDue
  split <;> simp_all

@[simp] theorem finishAdvance_now (k : Clock) (t : Time) :
    (k.finishAdvance t).now = if t.after k.now then t else k.now := rfl

@[simp] theorem finishAdvance_queue (k : Clock) (t : Time) :
    (k.finishAdvance t).queue = k.queue := rfl

theorem beginAdvance_eq_some {k k' : Clock} :
    k.beginAdvance = some k' ↔ k.advancing = false ∧ k' = { k with advancing := true } := by
  unfold beginAdvance
  cases k.advancing <;> simp [eq_comm]

@[simp] theorem newContinuation_now (k : Clock) : k.newContinuation.2.now = k.now := rfl
@[simp] theorem newContinuation_queue (k : Clock) : k.newContinuation.2.queue = k.queue := rfl
@[simp] theorem newContinuation_advancing (k : Clock) :
    k.newContinuation.2.advancing = k.advancing := rfl

@[simp] theorem destroyContinuation_now (k : Clock) (c : Option Nat) :
    (k.destroyContinuation c).now = k.now := by
  unfold destroyContinuation; split <;> (try split) <;> rfl

@[simp] theorem destroyContinuation_queue (k : Clock) (c : Option Nat) :
    (k.destroyContinuation c).queue = k.queue := by
  unfold destroyContinuation; split <;> (try split) <;> rfl

@[simp] theorem destroyContinuation_advancing (k : Clock) (c : Option Nat) :
    (k.destroyContinuation c).advancing = k.advancing := by
  unfold destroyContinuation; split <;> (try split) <;> rfl

@[simp] theorem cancel_now (k : Clock) (a : Option Nat) : (k.cancel a).2.now = k.now := by
  unfold cancel; split <;> rfl

@[simp] theorem cancel_advancing (k : Clock) (a : Option Nat) :
    (k.cancel a).2.advancing = k.advancing := by
  unfold cancel; split <;> rfl

/-- A cancel leaves the queue as it is, or removes one pending action from it. -/
theorem cancel_queue (k : Clock) (a : Option Nat) :
    (k.cancel a).2.queue = k.queue ∨ ∃ id, k.queue.cancel id = some (k.cancel a).2.queue := by
  unfold cancel
  split
  · rename_i q hq
    cases a with
    | none => simp at hq
    | some id => exact Or.inr ⟨id, hq⟩
  · exact Or.inl rfl

/-- What a call that runs no handler does to a clock, read once off the port: a read, a refused
advance or a refused arming keeps the clock; otherwise the call arms, cancels, makes a
continuation or destroys one. -/
inductive CallEffect (k : Clock) : Port.Call → Port.Reply → Clock → Prop
  | keep {c : Port.Call} {r : Port.Reply} : CallEffect k c r k
  | once {r : Port.Reply} {k' : Clock} {cont : Option Nat} {d : Int} {id : Nat} :
      k.schedule cont .once (max d 0) = .ok (id, k') → CallEffect k (.scheduleOnce cont d) r k'
  | every {r : Port.Reply} {k' : Clock} {cont : Option Nat} {d : Int} {id : Nat} :
      k.schedule cont .every (max d minPeriod) = .ok (id, k') →
        CallEffect k (.scheduleEvery cont d) r k'
  | cancel {a : Option Nat} :
      CallEffect k (.cancel a) (.canceled ((k.cancel a).1.map fun _ => ())) (k.cancel a).2
  | newContinuation : CallEffect k .newContinuation (.cont (k.destroyed.size + 1)) k.newContinuation.2
  | destroy {x : Option Nat} : CallEffect k (.destroy x) .done (k.destroyContinuation x)

theorem callEffect_of_call {k k' : Clock} {c : Port.Call} {r : Port.Reply}
    (h : port.call k c = some (r, k')) : CallEffect k c r k' := by
  cases c with
  | scheduleOnce cont d =>
    simp only [Port.call, port, scheduleOnce, Option.some.injEq] at h
    rcases Port.armReply_cases h with ⟨rfl, -⟩ | ⟨id, hs, -⟩
    · exact .keep
    · exact .once hs
  | scheduleEvery cont d =>
    simp only [Port.call, port, scheduleEvery, Option.some.injEq] at h
    rcases Port.armReply_cases h with ⟨rfl, -⟩ | ⟨id, hs, -⟩
    · exact .keep
    · exact .every hs
  | cancel a =>
    simp only [Port.call, port, Option.some.injEq, Prod.mk.injEq] at h
    obtain ⟨rfl, rfl⟩ := h
    exact .cancel
  | newContinuation =>
    simp only [Port.call, port, Option.some.injEq, Prod.mk.injEq] at h
    obtain ⟨rfl, rfl⟩ := h
    exact .newContinuation
  | destroy x =>
    simp only [Port.call, port, Option.some.injEq, Prod.mk.injEq] at h
    obtain ⟨rfl, rfl⟩ := h
    exact .destroy
  | advance d | advanceTo t =>
    -- an advance runs no handler only when it is refused, which keeps the clock
    by_cases hb : k.beginAdvance.isSome = true
    · simp [Port.call, port, hb] at h
    · simp only [Port.call, port, hb, Bool.false_eq_true, if_false, Option.some.injEq,
        Prod.mk.injEq] at h
      obtain ⟨-, rfl⟩ := h
      exact .keep
  | now | isDestroyed _ | pending | nextDue | stats =>
    simp only [Port.call, port, Option.some.injEq, Prod.mk.injEq] at h
    obtain ⟨-, rfl⟩ := h
    exact .keep

/-- What a call that runs no handler does to a clock: the time and whether an advance runs stay as
they are, and the queue stays, gains an action armed from now for a clamped duration, or loses a
canceled action. -/
theorem call_cases {k k' : Clock} {c : Port.Call} {r : Port.Reply}
    (h : port.call k c = some (r, k')) :
    k'.now = k.now ∧ k'.advancing = k.advancing ∧
      (k'.queue = k.queue ∨
        (∃ cont kind d, 0 ≤ d ∧ (kind = .every → minPeriod ≤ d) ∧
          k'.queue = (k.queue.arm cont kind d k.now).2) ∨
        ∃ id, k.queue.cancel id = some k'.queue) := by
  cases callEffect_of_call h with
  | keep => exact ⟨rfl, rfl, Or.inl rfl⟩
  | once hs =>
    obtain ⟨c, -, -, hq, hn, ha, -⟩ := schedule_eq_ok hs
    exact ⟨hn, ha, Or.inr (Or.inl ⟨c, .once, _, by omega, by simp, congrArg Prod.snd hq⟩)⟩
  | every hs =>
    obtain ⟨c, -, -, hq, hn, ha, -⟩ := schedule_eq_ok hs
    exact ⟨hn, ha, Or.inr (Or.inl ⟨c, .every, _, by unfold minPeriod; omega, fun _ => by omega,
      congrArg Prod.snd hq⟩)⟩
  | @cancel a => exact ⟨cancel_now k a, cancel_advancing k a, (cancel_queue k a).imp id Or.inr⟩
  | newContinuation | destroy => simp

end Clock

end HostDispatch
