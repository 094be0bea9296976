import Mathlib
import HostDispatch.Config.Loop
import HostDispatch.Config.Parse

/-!
# Which configurations are valid

Checking a configuration reports every problem at once. This module states what is reported
without the loop that collects it: one fault for each scheduler or logging setting that fails its
check, in a fixed order; then, timer by timer, the fault of the timer's first failing check and a
duplicate-name fault when an earlier timer has its name (whether or not that earlier timer was
valid); then, check by check, the fault of its first failing check (`faults_eq`).

From it follows what a valid configuration is (`Settings.Valid`), declared setting by setting:
checking finds nothing exactly when the configuration is valid (`validate_eq_ok_none_iff`). Checking
does not always return: a cron timer whose expression makes the cron reader crash passes the crash
on, and only such a timer does (`validate_crashes_iff`).
-/

namespace HostDispatch

namespace Settings

/-! ## Settings read one by one -/

/-- A duration setting that passes its check: blank, or a duration that is not negative. -/
def DurationOk (raw : String) : Prop :=
  Text.trim raw = "" ∨ ∃ d, Duration.parse (Text.trim raw) = .ok d ∧ 0 ≤ d

/-- What a duration setting reads as: zero when blank, else the duration its text names, which
must not be negative. -/
theorem durationField_eq_ok_iff {path raw : String} {d : Int} :
    durationField path raw = .ok d ↔
      (Text.trim raw = "" ∧ d = 0) ∨
        (Text.trim raw ≠ "" ∧ Duration.parse (Text.trim raw) = .ok d ∧ 0 ≤ d) := by
  unfold durationField
  by_cases hb : Text.trim raw = ""
  · simp [hb, eq_comm]
  · simp only [hb, if_false, ne_eq, not_false_eq_true, true_and, false_and, false_or]
    cases hp : Duration.parse (Text.trim raw) with
    | error e => simp
    | ok v =>
      by_cases hv : v < 0
      · simp only [hv, if_true, reduceCtorEq, Except.ok.injEq, false_iff, not_and, not_le]
        intro hvd
        omega
      · simp only [hv, if_false, Except.ok.injEq]
        constructor
        · rintro rfl
          exact ⟨rfl, by omega⟩
        · rintro ⟨rfl, -⟩
          rfl

theorem durationField_ok_of_durationOk {path raw : String} (h : DurationOk raw) :
    ∃ d, durationField path raw = .ok d ∧ 0 ≤ d := by
  rcases h with hb | ⟨d, hd, hnn⟩
  · exact ⟨0, durationField_eq_ok_iff.2 (.inl ⟨hb, rfl⟩), le_refl 0⟩
  · by_cases hb : Text.trim raw = ""
    · exact ⟨0, durationField_eq_ok_iff.2 (.inl ⟨hb, rfl⟩), le_refl 0⟩
    · exact ⟨d, durationField_eq_ok_iff.2 (.inr ⟨hb, hd, hnn⟩), hnn⟩

theorem durationFault_eq_none_iff {path raw : String} :
    durationFault path raw = none ↔ DurationOk raw := by
  constructor
  · intro h
    unfold durationFault at h
    split at h
    · rename_i d hd
      rcases durationField_eq_ok_iff.1 hd with ⟨hb, -⟩ | ⟨-, hp, hnn⟩
      · exact .inl hb
      · exact .inr ⟨d, hp, hnn⟩
    · cases h
  · intro h
    obtain ⟨d, hd, -⟩ := @durationField_ok_of_durationOk path raw h
    simp [durationFault, hd]

@[simp] theorem notEmpty_eq_ok_iff {module field value : String} :
    Validation.notEmpty module field value = .ok () ↔ value ≠ "" := by
  unfold Validation.notEmpty
  split <;> simp_all

@[simp] theorem oneOf_eq_ok_iff {module field value : String} {allowed : List String} :
    Validation.oneOf module field value allowed = .ok () ↔ value ∈ allowed := by
  unfold Validation.oneOf
  split <;> simp_all

/-! ## Timers and checks -/

/-- A timer's settings that pass their checks: a name, a known kind, and for a cron timer an
expression that reads and a zone that loads, for the others a period and a first period that pass
as durations. -/
structure TimerOk (t : Config.TimerSettings) : Prop where
  named : t.name ≠ ""
  known : t.kind ∈ timerKinds
  cron : t.kind = "cron" → (∃ s, parseCron t.cron = .ok s) ∧ ∃ z, timerZone t = .ok z
  periods : t.kind ≠ "cron" → DurationOk t.period ∧ DurationOk t.initialPeriod

/-- A timer whose check does not return: a named cron timer whose expression crashes the cron
reader. -/
def Crashes (t : Config.TimerSettings) : Prop :=
  t.name ≠ "" ∧ t.kind = "cron" ∧ ∃ m, parseCron t.cron = .error (.inr m)

/-- A check's settings that pass: a name, a URL, an interval that names a positive duration, and a
timeout that passes as a duration. -/
structure CheckOk (k : Config.CheckSettings) : Prop where
  named : k.name ≠ ""
  url : k.url ≠ ""
  interval : Text.trim k.interval ≠ "" ∧ ∃ d, Duration.parse (Text.trim k.interval) = .ok d ∧ 0 < d
  timeout : DurationOk k.timeout

/-- A timer's check finds nothing exactly when its settings pass, whatever its place. -/
theorem timerFault_eq_ok_none_iff (i : Nat) (t : Config.TimerSettings) :
    timerFault i t = .ok none ↔ TimerOk t := by
  dsimp only [timerFault]
  split
  · rename_i hn
    simp only [Except.ok.injEq, reduceCtorEq, false_iff]
    exact fun h => by simp [Validation.notEmpty, h.named] at hn
  rename_i hn
  have named := notEmpty_eq_ok_iff.1 hn
  split
  · rename_i hk
    simp only [Except.ok.injEq, reduceCtorEq, false_iff]
    exact fun h => by simp [Validation.oneOf, h.known] at hk
  rename_i hk
  have known := oneOf_eq_ok_iff.1 hk
  by_cases hc : t.kind = "cron"
  · -- a cron timer: the expression must read and the zone must load
    simp only [hc, if_true]
    split
    · rename_i f hp
      simp only [Except.ok.injEq, reduceCtorEq, false_iff]
      exact fun h => by obtain ⟨s, hs⟩ := (h.cron hc).1; simp [hs] at hp
    · rename_i m hp
      simp only [reduceCtorEq, false_iff]
      exact fun h => by obtain ⟨s, hs⟩ := (h.cron hc).1; simp [hs] at hp
    rename_i s hp
    split
    · rename_i e hz
      simp only [Except.ok.injEq, reduceCtorEq, false_iff]
      exact fun h => by obtain ⟨z, hz'⟩ := (h.cron hc).2; simp [hz'] at hz
    rename_i z hz
    simp only [true_iff]
    exact ⟨named, known, fun _ => ⟨⟨s, hp⟩, z, hz⟩, fun h => absurd hc h⟩
  · -- any other timer: both periods must pass as durations
    simp only [hc, if_false]
    have periods : TimerOk t ↔ DurationOk t.period ∧ DurationOk t.initialPeriod :=
      ⟨fun h => h.periods hc, fun h => ⟨named, known, fun h' => absurd h' hc, fun _ => h⟩⟩
    rw [periods, ← @durationFault_eq_none_iff ("timers[" ++ toString i ++ "]." ++ "period"),
      ← @durationFault_eq_none_iff ("timers[" ++ toString i ++ "]." ++ "initial_period")]
    split <;> simp_all

/-- A timer's check fails to return exactly when the timer crashes the cron reader. -/
theorem timerFault_crashes_iff (i : Nat) (t : Config.TimerSettings) :
    (∃ m, timerFault i t = .error m) ↔ Crashes t := by
  dsimp only [timerFault, Crashes]
  split
  · rename_i hn
    simp only [reduceCtorEq, exists_false, false_iff, not_and]
    exact fun h => by simp [Validation.notEmpty, h] at hn
  rename_i hn
  have named := notEmpty_eq_ok_iff.1 hn
  split
  · rename_i hk
    simp only [reduceCtorEq, exists_false, false_iff, not_and]
    exact fun _ hc => by simp [Validation.oneOf, hc, timerKinds] at hk
  by_cases hc : t.kind = "cron"
  · simp only [hc, if_true, named, ne_eq, not_false_eq_true, true_and]
    split
    · simp_all
    · simp_all
    · rename_i hp
      simp only [hp, reduceCtorEq, exists_false, iff_false]
      split <;> simp
  · simp only [hc, if_false, false_and, and_false, iff_false, not_exists]
    intro m
    split <;> simp

/-- A check's check finds nothing exactly when its settings pass, whatever its place. -/
theorem checkFault_eq_none_iff (i : Nat) (k : Config.CheckSettings) :
    checkFault i k = none ↔ CheckOk k := by
  dsimp only [checkFault]
  split
  · rename_i hn
    simp only [reduceCtorEq, false_iff]
    exact fun h => by simp [Validation.notEmpty, h.named] at hn
  rename_i hn
  split
  · rename_i hu
    simp only [reduceCtorEq, false_iff]
    exact fun h => by simp [Validation.notEmpty, h.url] at hu
  rename_i hu
  split
  · rename_i e hd
    simp only [reduceCtorEq, false_iff]
    rintro ⟨-, -, ⟨hb, d, hp, hpos⟩, -⟩
    rw [durationField_eq_ok_iff.2 (.inr ⟨hb, hp, hpos.le⟩)] at hd
    cases hd
  rename_i d hd
  -- the interval read; it must be positive, then the timeout must pass
  have interval : (Text.trim k.interval ≠ "" ∧
      ∃ d, Duration.parse (Text.trim k.interval) = .ok d ∧ 0 < d) ↔ 0 < d := by
    rcases durationField_eq_ok_iff.1 hd with ⟨hb, rfl⟩ | ⟨hb, hp, -⟩
    · simp [hb]
    · refine ⟨fun ⟨_, d', hp', hpos⟩ => ?_, fun hpos => ⟨hb, d, hp, hpos⟩⟩
      rw [hp] at hp'
      cases hp'
      exact hpos
  have check : CheckOk k ↔ 0 < d ∧ DurationOk k.timeout :=
    ⟨fun h => ⟨interval.1 h.interval, h.timeout⟩, fun h =>
      ⟨notEmpty_eq_ok_iff.1 hn, notEmpty_eq_ok_iff.1 hu, interval.2 h.1, h.2⟩⟩
  rw [check, ← @durationFault_eq_none_iff ("checks[" ++ toString i ++ "]." ++ "timeout")]
  split
  · rename_i hle
    simp only [reduceCtorEq, false_iff, not_and]
    exact fun h => absurd hle (by omega)
  · rename_i hle
    simp only [iff_and_self]
    exact fun _ => by omega

/-! ## The report without the loop -/

@[simp] theorem except_ok_bind {ε α β : Type} (a : α) (f : α → Except ε β) :
    (Except.ok a >>= f) = f a := rfl

@[simp] theorem except_error_bind {ε α β : Type} (e : ε) (f : α → Except ε β) :
    (Except.error e >>= f) = Except.error e := rfl

@[simp] theorem except_pure {ε α : Type} (a : α) : (pure a : Except ε α) = Except.ok a := rfl

theorem reduceOption_cons {α : Type} (o : Option α) (l : List (Option α)) :
    (o :: l).reduceOption = o.toList ++ l.reduceOption := by
  cases o <;> simp

/-- The fault of a count that must not be negative. -/
def negativeFault (field : String) (n : Int) : Option Fault :=
  if n < 0 then some (.invalid "config" field (toString n) "must be >= 0" "") else none

/-- The fault of a setting that is set to a value it does not allow; an empty one passes. -/
def choiceFault (field value : String) (allowed : List String) : Option Fault :=
  if value = "" then none else failure (Validation.oneOf "config" field value allowed)

/-- The faults of the scheduler and logging settings, one for each that fails its check, in the
order workers, queue size, least period, longest sleep, level, format. -/
def settingFaults (c : Settings) : List Fault :=
  [negativeFault "scheduler.workers" c.scheduler.workers,
   negativeFault "scheduler.queue_size" c.scheduler.queueSize,
   durationFault "scheduler.min_period" c.scheduler.minPeriod,
   durationFault "scheduler.max_sleep" c.scheduler.maxSleep,
   choiceFault "logging.level" c.logging.level levels,
   choiceFault "logging.format" c.logging.format ["console", "json"]].reduceOption

/-- The fault of a timer whose name an earlier timer has. -/
def duplicateFault (earlier : List Config.TimerSettings) (t : Config.TimerSettings) :
    Option Fault :=
  if t.name ∈ earlier.map (·.name) then
    some (.invalid "config" ("timers[" ++ toString earlier.length ++ "].name") t.name
      "duplicate name" "")
  else none

/-- The report on the timers that follow `earlier` ones: for each, the fault of its first failing
check and then its duplicate-name fault. A timer that crashes the cron reader ends the report. -/
def timerReport (earlier : List Config.TimerSettings) :
    List Config.TimerSettings → Except String (List Fault)
  | [] => .ok []
  | t :: ts => do
    let f ← timerFault earlier.length t
    let rest ← timerReport (earlier ++ [t]) ts
    pure (f.toList ++ (duplicateFault earlier t).toList ++ rest)

/-- The faults of the checks, each the fault of its first failing check. -/
def checkReport (ks : List Config.CheckSettings) : List Fault :=
  ks.zipIdx.filterMap fun (k, i) => checkFault i k

/-- The timer loop of `faults` run over the timers after `earlier` ones, with the names of those
collected: it adds the report on them. -/
theorem forIn_timers (earlier ts : List Config.TimerSettings) (out : List Fault) :
    forIn (m := Except String) (ts.zipIdx earlier.length) (out, earlier.map (·.name))
      (fun x __s => do
        let __do_lift ← timerFault x.2 x.1
        if __s.2.contains x.1.name = true then
          pure (ForInStep.yield (__s.1 ++ __do_lift.toList ++
            [Fault.invalid "config" ("timers[" ++ toString x.2 ++ "].name") x.1.name
              "duplicate name" ""], __s.2 ++ [x.1.name]))
        else pure (ForInStep.yield (__s.1 ++ __do_lift.toList, __s.2 ++ [x.1.name]))) =
      (timerReport earlier ts).map fun r => (out ++ r, (earlier ++ ts).map (·.name)) := by
  induction ts generalizing earlier out with
  | nil => simp [timerReport, Except.map, pure, Except.pure]
  | cons t ts ih =>
    have hlen : earlier.length + 1 = (earlier ++ [t]).length := by simp
    have hnames : earlier.map (·.name) ++ [t.name] = (earlier ++ [t]).map (·.name) := by simp
    rw [List.zipIdx_cons, List.forIn_cons]
    cases hf : timerFault earlier.length t with
    | error m => simp [timerReport, hf, Except.map]
    | ok f =>
      -- one turn: the timer's fault, then its duplicate-name fault when an earlier timer has
      -- its name; the rest of the loop is the induction hypothesis
      by_cases hdup : t.name ∈ earlier.map (·.name)
      · have hc : (earlier.map (·.name)).contains t.name = true := by simpa using hdup
        simp only [except_ok_bind, hc, if_true, pure_bind]
        rw [hlen, hnames, ih]
        simp only [timerReport, hf, except_ok_bind]
        cases timerReport (earlier ++ [t]) ts <;> simp [duplicateFault, hdup, Except.map]
      · have hc : (earlier.map (·.name)).contains t.name = false := by simpa using hdup
        simp only [except_ok_bind, hc, Bool.false_eq_true, if_false, pure_bind]
        rw [hlen, hnames, ih]
        simp only [timerReport, hf, except_ok_bind]
        cases timerReport (earlier ++ [t]) ts <;> simp [duplicateFault, hdup, Except.map]

/-- The timer loop of `faults` from its start. -/
theorem forIn_timers_start (ts : List Config.TimerSettings) (out : List Fault) :
    forIn (m := Except String) ts.zipIdx (out, [])
      (fun x __s => do
        let __do_lift ← timerFault x.2 x.1
        if __s.2.contains x.1.name = true then
          pure (ForInStep.yield (__s.1 ++ __do_lift.toList ++
            [Fault.invalid "config" ("timers[" ++ toString x.2 ++ "].name") x.1.name
              "duplicate name" ""], __s.2 ++ [x.1.name]))
        else pure (ForInStep.yield (__s.1 ++ __do_lift.toList, __s.2 ++ [x.1.name]))) =
      (timerReport [] ts).map fun r => (out ++ r, ts.map (·.name)) :=
  forIn_timers [] ts out

/-- The check loop of `faults` adds the fault of each check, in order. -/
theorem forIn_checks (ks : List Config.CheckSettings) (n : Nat) (out : List Fault) :
    forIn (m := Except String) (ks.zipIdx n) out
      (fun x __s => pure (ForInStep.yield (__s ++ (checkFault x.2 x.1).toList))) =
      .ok (out ++ (ks.zipIdx n).filterMap fun (k, i) => checkFault i k) := by
  induction ks generalizing n out with
  | nil => simp
  | cons k ks ih =>
    rw [List.zipIdx_cons, List.forIn_cons]
    simp only [pure_bind, ih]
    cases h : checkFault n k <;> simp [h]

theorem negativeFault_toList (field : String) (n : Int) :
    (negativeFault field n).toList =
      if n < 0 then [.invalid "config" field (toString n) "must be >= 0" ""] else [] := by
  unfold negativeFault
  split <;> rfl

/-- Checking a configuration reports one fault for each scheduler or logging setting that fails,
then the report on the timers, then the fault of each failing check. -/
theorem faults_eq (c : Settings) :
    c.faults = (timerReport [] c.timers).map fun ts =>
      settingFaults c ++ ts ++ checkReport c.checks := by
  unfold faults
  simp only [forIn_timers_start, forIn_checks]
  cases timerReport [] c.timers with
  | error m => rfl
  | ok r =>
    simp only [Except.map, except_ok_bind, except_pure, settingFaults, reduceOption_cons,
      List.reduceOption_nil, negativeFault_toList, choiceFault, checkReport,
      List.append_nil, List.nil_append, List.append_assoc]

/-! ## Valid configurations -/

/-- A configuration that passes every check, setting by setting. -/
structure Valid (c : Settings) : Prop where
  workers : 0 ≤ c.scheduler.workers
  queueSize : 0 ≤ c.scheduler.queueSize
  minPeriod : DurationOk c.scheduler.minPeriod
  maxSleep : DurationOk c.scheduler.maxSleep
  level : c.logging.level = "" ∨ c.logging.level ∈ levels
  format : c.logging.format = "" ∨ c.logging.format ∈ ["console", "json"]
  timers : ∀ t ∈ c.timers, TimerOk t
  distinct : (c.timers.map (·.name)).Nodup
  checks : ∀ k ∈ c.checks, CheckOk k

theorem negativeFault_eq_none_iff {field : String} {n : Int} :
    negativeFault field n = none ↔ 0 ≤ n := by
  unfold negativeFault
  split <;> simp <;> omega

theorem choiceFault_eq_none_iff {field value : String} {allowed : List String} :
    choiceFault field value allowed = none ↔ value = "" ∨ value ∈ allowed := by
  unfold choiceFault failure
  by_cases hv : value = ""
  · simp [hv]
  · simp only [hv, if_false, false_or]
    rw [← @oneOf_eq_ok_iff "config" field]
    split <;> simp_all

/-- The scheduler and logging settings report nothing exactly when each passes. -/
theorem settingFaults_eq_nil_iff (c : Settings) :
    settingFaults c = [] ↔
      0 ≤ c.scheduler.workers ∧ 0 ≤ c.scheduler.queueSize ∧ DurationOk c.scheduler.minPeriod ∧
        DurationOk c.scheduler.maxSleep ∧ (c.logging.level = "" ∨ c.logging.level ∈ levels) ∧
        (c.logging.format = "" ∨ c.logging.format ∈ ["console", "json"]) := by
  simp only [settingFaults, reduceOption_cons, List.reduceOption_nil, List.append_eq_nil_iff,
    Option.toList_eq_nil_iff, negativeFault_eq_none_iff, durationFault_eq_none_iff,
    choiceFault_eq_none_iff, and_true]

theorem duplicateFault_eq_none_iff {earlier : List Config.TimerSettings}
    {t : Config.TimerSettings} : duplicateFault earlier t = none ↔ t.name ∉ earlier.map (·.name) := by
  unfold duplicateFault
  split <;> simp_all

theorem timerReport_cons_eq_ok_nil_iff {earlier ts : List Config.TimerSettings}
    {t : Config.TimerSettings} :
    timerReport earlier (t :: ts) = .ok [] ↔
      timerFault earlier.length t = .ok none ∧ duplicateFault earlier t = none ∧
        timerReport (earlier ++ [t]) ts = .ok [] := by
  simp only [timerReport]
  cases timerFault earlier.length t with
  | error m => simp
  | ok f =>
    cases timerReport (earlier ++ [t]) ts with
    | error m => simp
    | ok rest => cases f <;> cases duplicateFault earlier t <;> simp

/-- The timers after `earlier` ones report nothing exactly when each passes its checks, no two
share a name and none has the name of an earlier one. -/
theorem timerReport_eq_ok_nil_iff (earlier ts : List Config.TimerSettings) :
    timerReport earlier ts = .ok [] ↔
      (∀ t ∈ ts, TimerOk t) ∧ (ts.map (·.name)).Nodup ∧ ∀ t ∈ ts, t.name ∉ earlier.map (·.name) := by
  induction ts generalizing earlier with
  | nil => simp [timerReport]
  | cons t ts ih =>
    rw [timerReport_cons_eq_ok_nil_iff, timerFault_eq_ok_none_iff, duplicateFault_eq_none_iff, ih]
    simp only [List.forall_mem_cons, List.map_cons, List.nodup_cons, List.map_append,
      List.map_nil, List.mem_append, List.mem_singleton, not_or]
    -- a later timer must differ from this one in name; that is this one's name being fresh
    have fresh : (∀ x ∈ ts, x.name ≠ t.name) ↔ t.name ∉ ts.map (·.name) := by
      simp only [List.mem_map, not_exists, not_and]
    rw [← fresh]
    constructor
    · rintro ⟨hok, hdup, hoks, hnd, hlater⟩
      exact ⟨⟨hok, hoks⟩, ⟨fun x hx => (hlater x hx).2, hnd⟩, ⟨hdup, fun x hx => (hlater x hx).1⟩⟩
    · rintro ⟨⟨hok, hoks⟩, ⟨hfresh, hnd⟩, ⟨hdup, hlater⟩⟩
      exact ⟨hok, hdup, hoks, hnd, fun x hx => ⟨hlater x hx, hfresh x hx⟩⟩

/-- The timers after `earlier` ones end the report exactly when one of them crashes the cron
reader. -/
theorem timerReport_crashes_iff (earlier ts : List Config.TimerSettings) :
    (∃ m, timerReport earlier ts = .error m) ↔ ∃ t ∈ ts, Crashes t := by
  induction ts generalizing earlier with
  | nil => simp [timerReport]
  | cons t ts ih =>
    have split : (∃ x ∈ t :: ts, Crashes x) ↔ Crashes t ∨ ∃ x ∈ ts, Crashes x := by simp
    rw [split, ← timerFault_crashes_iff earlier.length, ← ih (earlier ++ [t])]
    simp only [timerReport]
    cases timerFault earlier.length t with
    | error m => simp
    | ok f => cases timerReport (earlier ++ [t]) ts <;> simp

/-- The checks report nothing exactly when each passes. -/
theorem checkReport_eq_nil_iff (ks : List Config.CheckSettings) :
    checkReport ks = [] ↔ ∀ k ∈ ks, CheckOk k := by
  unfold checkReport
  rw [List.filterMap_eq_nil_iff]
  constructor
  · intro h k hk
    obtain ⟨i, hi⟩ : ∃ i, (k, i) ∈ ks.zipIdx := by
      rw [← List.zipIdx_map_fst 0 ks, List.mem_map] at hk
      obtain ⟨⟨k', i⟩, hki, rfl⟩ := hk
      exact ⟨i, hki⟩
    exact (checkFault_eq_none_iff i k).1 (h (k, i) hi)
  · rintro h ⟨k, i⟩ hki
    exact (checkFault_eq_none_iff i k).2 (h k (List.fst_mem_of_mem_zipIdx hki))

/-- A timer that passes its checks reads its cron expression without a crash. -/
theorem TimerOk.not_crashes {t : Config.TimerSettings} (h : TimerOk t) : ¬ Crashes t := by
  rintro ⟨-, hc, m, hm⟩
  obtain ⟨s, hs⟩ := (h.cron hc).1
  rw [hs] at hm
  cases hm

theorem join_eq_none_iff {fs : List Fault} : Fault.join fs = none ↔ fs = [] := by
  cases fs <;> simp [Fault.join]

/-! ## What checking reports -/

/-- Checking a configuration joins, in order, one fault for each scheduler or logging setting that
fails, the report on the timers and the fault of each failing check; a timer that crashes the cron
reader makes checking crash. -/
theorem validate_eq (c : Settings) :
    c.validate = (timerReport [] c.timers).map fun ts =>
      Fault.join (settingFaults c ++ ts ++ checkReport c.checks) := by
  unfold validate
  rw [faults_eq]
  cases timerReport [] c.timers <;> rfl

/-- Checking finds nothing exactly when the configuration is valid. -/
theorem validate_eq_ok_none_iff (c : Settings) : c.validate = .ok none ↔ c.Valid := by
  rw [validate_eq]
  cases hr : timerReport [] c.timers with
  | error m =>
    simp only [Except.map, reduceCtorEq, false_iff]
    intro hv
    obtain ⟨t, ht, hcrash⟩ := (timerReport_crashes_iff [] c.timers).1 ⟨m, hr⟩
    exact (hv.timers t ht).not_crashes hcrash
  | ok r =>
    have timers := timerReport_eq_ok_nil_iff [] c.timers
    rw [hr, Except.ok.injEq] at timers
    simp only [Except.map, Except.ok.injEq, join_eq_none_iff, List.append_eq_nil_iff]
    rw [settingFaults_eq_nil_iff, checkReport_eq_nil_iff, timers]
    simp only [List.map_nil, List.not_mem_nil, not_false_eq_true, implies_true, and_true]
    constructor
    · rintro ⟨⟨⟨hw, hq, hmin, hmax, hl, hf⟩, hts, hnd⟩, hks⟩
      exact ⟨hw, hq, hmin, hmax, hl, hf, hts, hnd, hks⟩
    · rintro ⟨hw, hq, hmin, hmax, hl, hf, hts, hnd, hks⟩
      exact ⟨⟨⟨hw, hq, hmin, hmax, hl, hf⟩, hts, hnd⟩, hks⟩

/-- Checking does not return exactly when some timer crashes the cron reader. -/
theorem validate_crashes_iff (c : Settings) :
    (∃ m, c.validate = .error m) ↔ ∃ t ∈ c.timers, Crashes t := by
  rw [validate_eq, ← timerReport_crashes_iff []]
  cases timerReport [] c.timers <;> simp [Except.map]

/-- Reading a file gives a configuration exactly when its text reads as that configuration and
checking it finds nothing. -/
theorem parse_eq_ok_iff {path text : String} {c : Settings} :
    parse path text = .ok c ↔ read path text = .ok c ∧ c.validate = .ok none := by
  unfold parse settle
  cases read path text with
  | error f => simp
  | ok c' =>
    simp only [Except.ok.injEq]
    cases hv : c'.validate with
    | error m =>
      simp only [reduceCtorEq, false_iff, not_and]
      rintro rfl
      simp [hv]
    | ok o =>
      cases o with
      | some f =>
        simp only [reduceCtorEq, false_iff, not_and]
        rintro rfl
        simp [hv]
      | none =>
        simp only [Outcome.ok.injEq]
        constructor
        · rintro rfl
          exact ⟨rfl, hv⟩
        · rintro ⟨rfl, -⟩
          rfl

/-- A configuration read from a file is valid. -/
theorem valid_of_parse_eq_ok {path text : String} {c : Settings} (h : parse path text = .ok c) :
    c.Valid :=
  (validate_eq_ok_none_iff c).1 (parse_eq_ok_iff.1 h).2

/-- An outcome is a given configuration when checking it against that one says so; this lets a
concrete reading be settled by evaluation. -/
theorem Outcome.eq_ok_of_check {o : Outcome} {c : Settings}
    (h : (match o with | .ok c' => decide (c' = c) | _ => false) = true) : o = .ok c := by
  rcases o with c' | f | m <;> simp_all

end Settings

/-! ## The loop of an accepted configuration -/

namespace LoopConfig

/-- A loop configuration that the loop accepts, every count and duration in it above zero. -/
structure Ready (l : LoopConfig) : Prop where
  valid : l.validate = .ok ()
  workers : 0 < l.workers
  queueSize : 0 < l.queueSize
  minPeriod : 0 < l.minPeriod
  maxSleep : 0 < l.maxSleep

/-- Filling in the defaults of a loop configuration that asks for its own pool, with counts that
are not negative and durations above zero, gives one the loop accepts. -/
theorem withDefaults_ready {l : LoopConfig} (hown : l.delivery = .own) (hw : 0 ≤ l.workers)
    (hq : 0 ≤ l.queueSize) (hp : 0 < l.minPeriod) (hs : 0 < l.maxSleep) : l.withDefaults.Ready := by
  have workers : 0 < l.withDefaults.workers := by
    simp only [withDefaults]
    split <;> omega
  have queueSize : 0 < l.withDefaults.queueSize := by
    simp only [withDefaults]
    split <;> omega
  refine ⟨?_, workers, queueSize, ?_, ?_⟩
  · have h1 : ¬ l.withDefaults.workers ≤ 0 := by omega
    have h2 : ¬ l.withDefaults.queueSize ≤ 0 := by omega
    have hown' : l.withDefaults.delivery = .own := hown
    simp [validate, Validation.positive, hown', h1, h2]
  · simp only [withDefaults]
    split <;> omega
  · simp only [withDefaults]
    split <;> omega

end LoopConfig

namespace Settings

/-- How a loop takes a configuration's scheduler settings: each count as it is and its default for
zero, each duration as its text reads and its default for zero. -/
structure Honours (c : Settings) (l : LoopConfig) : Prop where
  workers : l.workers = if c.scheduler.workers = 0 then 4 else c.scheduler.workers
  queueSize : l.queueSize = if c.scheduler.queueSize = 0 then 100 else c.scheduler.queueSize
  minPeriod : ∃ d, durationField "scheduler.min_period" c.scheduler.minPeriod = .ok d ∧
    l.minPeriod = if d = 0 then HostDispatch.minPeriod else d
  maxSleep : ∃ d, durationField "scheduler.max_sleep" c.scheduler.maxSleep = .ok d ∧
    l.maxSleep = if d = 0 then defaultMaxSleep else d

/-- A duration setting that reads, with a default for blank or zero text. -/
theorem durationOrDefault_eq {path raw : String} {d default : Int}
    (hd : durationField path raw = .ok d) :
    durationOrDefault path raw default = .ok (if d ≤ 0 then default else d) := by
  simp [durationOrDefault, hd]

/-- Every configuration that reading accepts gives a loop configuration, and the loop accepts it
once its defaults are filled in: every count and duration in it is above zero, and each is the
configured one unless that is zero, when it is the default. -/
theorem accepted_configuration_makes_ready_loop {path text : String} {c : Settings}
    (h : parse path text = .ok c) :
    ∃ l, c.loopConfig = .ok l ∧ l.withDefaults.Ready ∧ c.Honours l.withDefaults := by
  have hv := valid_of_parse_eq_ok h
  obtain ⟨p, hp, hp0⟩ := @durationField_ok_of_durationOk "scheduler.min_period" _ hv.minPeriod
  obtain ⟨m, hm, hm0⟩ := @durationField_ok_of_durationOk "scheduler.max_sleep" _ hv.maxSleep
  have hmin : (0 : Int) < HostDispatch.minPeriod := by decide
  have hmax : (0 : Int) < defaultMaxSleep := by decide
  refine ⟨{ name := c.scheduler.name, workers := c.scheduler.workers,
            queueSize := c.scheduler.queueSize,
            minPeriod := if p ≤ 0 then HostDispatch.minPeriod else p,
            maxSleep := if m ≤ 0 then defaultMaxSleep else m }, ?_, ?_, ?_⟩
  · simp [loopConfig, durationOrDefault_eq hp, durationOrDefault_eq hm]
  · apply LoopConfig.withDefaults_ready rfl hv.workers hv.queueSize
    · show 0 < if p ≤ 0 then HostDispatch.minPeriod else p
      split <;> omega
    · show 0 < if m ≤ 0 then defaultMaxSleep else m
      split <;> omega
  · -- the defaults that `withDefaults` fills in agree with those already filled in
    refine ⟨rfl, rfl, ⟨p, hp, ?_⟩, ⟨m, hm, ?_⟩⟩
    · simp only [LoopConfig.withDefaults]
      by_cases h0 : p = 0
      · simp [h0, HostDispatch.minPeriod]
      · have : ¬ p ≤ 0 := by omega
        simp [h0, this]
    · simp only [LoopConfig.withDefaults]
      by_cases h0 : m = 0
      · simp [h0, defaultMaxSleep, Time.nanosPerSecond]
      · have : ¬ m ≤ 0 := by omega
        simp [h0, this]

/-- A JSON file that sets zero workers and a least period of zero seconds is accepted, and its loop
runs with the default workers and least period. -/
theorem zero_scheduler_settings_make_ready_loop :
    parse "c.json" "\x7b\"scheduler\":\x7b\"workers\":0,\"min_period\":\"0s\"\x7d\x7d" =
      .ok { defaults with scheduler := { defaults.scheduler with workers := 0, minPeriod := "0s" } } ∧
    ∃ l, (Settings.loopConfig { defaults with
        scheduler := { defaults.scheduler with workers := 0, minPeriod := "0s" } }) = .ok l ∧
      l.withDefaults.Ready ∧ Honours { defaults with
        scheduler := { defaults.scheduler with workers := 0, minPeriod := "0s" } } l.withDefaults :=
  have h := Outcome.eq_ok_of_check (by decide +kernel)
  ⟨h, accepted_configuration_makes_ready_loop h⟩

end Settings

end HostDispatch
