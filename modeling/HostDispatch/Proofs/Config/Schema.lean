import Mathlib
import HostDispatch.Proofs.Config.MemberOrder

/-!
# What a configuration document names

A document names settings by paths of keys, each key matched to a setting of its group exactly
or else up to case. Decoding over a configuration changes only what the document names: a setting
it does not name keeps the value it had (`decode_keeps`). And strict decoding refuses a key that
names no setting of its group, at any depth of groups and of lists of groups (`decode_stray`).

The groups and their keys are written out once more as a schema (`settingsShape`), in the form the
documentation gives them, and the decoder is shown to read documents by that schema.
-/

namespace HostDispatch

namespace Json

/-- A document names the setting at a path: each key names a member, up to case, of the object
that the keys before it reach. -/
def Mentions : Json → List String → Prop
  | _, [] => True
  | .obj ms, k :: ks => ∃ kv ∈ ms, Config.fold kv.1 = Config.fold k ∧ Mentions kv.2 ks
  | _, _ :: _ => False

/-- Putting members in key order names nothing new. -/
theorem Mentions.of_sortKeys {path : List String} : ∀ {j : Json}, j.sortKeys.Mentions path →
    j.Mentions path := by
  induction path with
  | nil => intro _ _; trivial
  | cons k ks ih =>
    intro j h
    cases j with
    | obj ms =>
      rw [Config.sortKeys_obj] at h
      obtain ⟨kv, hkv, hk, hm⟩ := h
      obtain ⟨kv₀, hkv₀, rfl⟩ := List.mem_map.1 ((perm_sortMembers _).mem_iff.1 hkv)
      exact ⟨kv₀, hkv₀, hk, ih hm⟩
    | arr xs => rw [Config.sortKeys_arr] at h; exact h.elim
    | _ => exact h

end Json

namespace Config

variable {α β : Type}

/-! ## Settings left alone -/

/-- A setting of a record: the keys that name it in a document, and how to read it. -/
structure Setting (α : Type) where
  path : List String
  {γ : Type}
  read : α → γ

/-- A setting of a part of a record, as a setting of the record under the part's key. -/
def Setting.under (k : String) (get : β → α) (s : Setting α) : Setting β :=
  ⟨k :: s.path, s.read ∘ get⟩

namespace Field

/-- A field that reads the same out of what it decodes, when the document does not name the
path. -/
def Keeps {γ : Type} (path : List String) (read : α → γ) (f : Field α) : Prop :=
  ∀ p j a, ¬ j.Mentions path → read (value (f p j a)) = read a

/-- Every document names the empty path. -/
theorem keeps_nil {γ : Type} (read : α → γ) (f : Field α) : f.Keeps [] read :=
  fun _ _ _ h => absurd trivial h

theorem Keeps.on {γ : Type} {path : List String} {read : β → γ} {get : α → β} {set : α → β → α}
    {g : Field β} (hg : g.Keeps path read) (hgs : ∀ a x, get (set a x) = x) :
    (Field.on get set g).Keeps path (read ∘ get) := by
  intro p j a hn
  simp only [Function.comp_apply, value_on, hgs]
  exact hg p j (get a) hn

/-- A group keeps a setting named `n :: rest` when each of its settings leaves it alone, or is
the setting `n` and keeps the rest of the path. -/
theorem Keeps.group {γ : Type} {root ty : String} {strict : Bool} {fields : List (String × Field α)}
    {n : String} {rest : List String} {read : α → γ} (ho : ∀ e ∈ fields, e.2.Oblivious)
    (hf : ∀ e ∈ fields, (∀ p j a, read (value (e.2 p j a)) = read a) ∨
      (fold e.1 = fold n ∧ e.2.Keeps rest read)) :
    (Config.group root ty strict fields).Keeps (n :: rest) read := by
  intro p j a hn
  cases j with
  | obj ms =>
    rw [value_group_obj ho]
    -- each member decodes into a setting that leaves the read value alone
    refine foldl_keeps (P := fun b => read b = read a) ms rfl fun b kv hkv hb => ?_
    cases he : entryOf fields kv.1 with
    | none => rwa [value_memberStep_of_none he]
    | some e =>
      obtain ⟨hem, hfold⟩ := entryOf_mem he
      rw [memberStep_of_entry he]
      rcases hf e hem with hkeep | ⟨hname, hk⟩
      · rw [hkeep]; exact hb
      · rw [hk _ _ _ fun hm => hn ⟨kv, hkv, hfold.symm.trans hname, hm⟩]; exact hb
  | _ => rfl

end Field

section Groups

variable (root : String) (strict : Bool)

/-- The scheduler's settings. -/
def schedulerSettings : List (Setting Scheduler) :=
  [⟨["name"], Scheduler.name⟩, ⟨["workers"], Scheduler.workers⟩,
   ⟨["queue_size"], Scheduler.queueSize⟩, ⟨["min_period"], Scheduler.minPeriod⟩,
   ⟨["max_sleep"], Scheduler.maxSleep⟩]

/-- The logging settings. -/
def loggingSettings : List (Setting Logging) :=
  [⟨["level"], Logging.level⟩, ⟨["format"], Logging.format⟩]

/-- The metrics settings. -/
def metricsSettings : List (Setting MetricsSettings) :=
  [⟨["enabled"], MetricsSettings.enabled⟩, ⟨["namespace"], MetricsSettings.space⟩,
   ⟨["listen"], MetricsSettings.listen⟩, ⟨["labels"], MetricsSettings.labels⟩]

theorem keeps_schedulerField : ∀ s ∈ schedulerSettings, (schedulerField root strict).Keeps s.path s.read := by
  intro s hs
  simp only [schedulerSettings, List.mem_cons, List.not_mem_nil, or_false] at hs
  rw [schedulerField_eq]
  -- a setting is left alone by the others, which write other fields of the record
  rcases hs with rfl | rfl | rfl | rfl | rfl <;>
    refine Field.Keeps.group (fun e he => (orderless_schedulerEntries root e he).oblivious)
      fun e he => ?_ <;>
    simp only [schedulerEntries, List.mem_cons, List.not_mem_nil, or_false] at he <;>
    rcases he with rfl | rfl | rfl | rfl | rfl
  all_goals first
    | exact .inl fun _ _ _ => rfl
    | exact .inr ⟨rfl, Field.keeps_nil _ _⟩

theorem keeps_loggingField : ∀ s ∈ loggingSettings, (loggingField root strict).Keeps s.path s.read := by
  intro s hs
  simp only [loggingSettings, List.mem_cons, List.not_mem_nil, or_false] at hs
  rw [loggingField_eq]
  rcases hs with rfl | rfl <;>
    refine Field.Keeps.group (fun e he => (orderless_loggingEntries root e he).oblivious)
      fun e he => ?_ <;>
    simp only [loggingEntries, List.mem_cons, List.not_mem_nil, or_false] at he <;>
    rcases he with rfl | rfl
  all_goals first
    | exact .inl fun _ _ _ => rfl
    | exact .inr ⟨rfl, Field.keeps_nil _ _⟩

theorem keeps_metricsField : ∀ s ∈ metricsSettings, (metricsField root strict).Keeps s.path s.read := by
  intro s hs
  simp only [metricsSettings, List.mem_cons, List.not_mem_nil, or_false] at hs
  rw [metricsField_eq]
  rcases hs with rfl | rfl | rfl | rfl <;>
    refine Field.Keeps.group (fun e he => (orderless_metricsEntries root e he).oblivious)
      fun e he => ?_ <;>
    simp only [metricsEntries, List.mem_cons, List.not_mem_nil, or_false] at he <;>
    rcases he with rfl | rfl | rfl | rfl
  all_goals first
    | exact .inl fun _ _ _ => rfl
    | exact .inr ⟨rfl, Field.keeps_nil _ _⟩

end Groups

end Config

/-- The settings of a configuration, each by the keys that name it: the settings of the scheduler,
logging and metrics groups, and the lists of timers and checks. -/
def Settings.all : List (Config.Setting Settings) :=
  Config.schedulerSettings.map (·.under "scheduler" Settings.scheduler) ++
  Config.loggingSettings.map (·.under "logging" Settings.logging) ++
  Config.metricsSettings.map (·.under "metrics" Settings.metrics) ++
  [⟨["timers"], Settings.timers⟩, ⟨["checks"], Settings.checks⟩]

namespace Config

theorem keeps_settingsField (strict : Bool) :
    ∀ s ∈ Settings.all, (settingsField strict).Keeps s.path s.read := by
  intro s hs
  rw [settingsField_eq]
  simp only [Settings.all, List.mem_append, List.mem_map, List.mem_cons, List.not_mem_nil,
    or_false] at hs
  have ho : ∀ e ∈ settingsEntries strict, e.2.Oblivious :=
    fun e he => (orderless_settingsEntries strict e he).oblivious
  rcases hs with ((⟨s, hs, rfl⟩ | ⟨s, hs, rfl⟩) | ⟨s, hs, rfl⟩) | rfl | rfl <;>
    refine Field.Keeps.group ho fun e he => ?_ <;>
    simp only [settingsEntries, List.mem_cons, List.not_mem_nil, or_false] at he <;>
    rcases he with rfl | rfl | rfl | rfl | rfl
  all_goals first
    | exact .inl fun _ _ _ => rfl
    | exact .inr ⟨rfl, (keeps_schedulerField _ _ s hs).on fun _ _ => rfl⟩
    | exact .inr ⟨rfl, (keeps_loggingField _ _ s hs).on fun _ _ => rfl⟩
    | exact .inr ⟨rfl, (keeps_metricsField _ _ s hs).on fun _ _ => rfl⟩
    | exact .inr ⟨rfl, Field.keeps_nil _ _⟩

end Config

namespace Config

variable {α : Type}

/-! ## Keys that name no setting -/

/-- How a document is read: a value read whole, a group of named settings, or a list of elements
of one shape. -/
inductive Shape where
  | value
  | group (fields : List (String × Shape))
  | list (elem : Shape)

/-- A group of settings each read whole. -/
def Shape.leaves (names : List String) : Shape := .group (names.map fun n => (n, .value))

/-- A key that names no setting of its group, somewhere in a document read by a shape. Keys are
matched to settings as the decoder matches them (`entryOf`). -/
inductive Shape.Stray : Shape → Json → Prop
  | unknown {fs : List (String × Shape)} {ms : List (String × Json)} {kv : String × Json} :
      kv ∈ ms → entryOf fs kv.1 = none → Stray (.group fs) (.obj ms)
  | within {fs : List (String × Shape)} {ms : List (String × Json)} {kv : String × Json}
      {sf : String × Shape} :
      kv ∈ ms → entryOf fs kv.1 = some sf → Stray sf.2 kv.2 → Stray (.group fs) (.obj ms)
  | item {s : Shape} {xs : List Json} {x : Json} : x ∈ xs → Stray s x → Stray (.list s) (.arr xs)

/-- The keys of a configuration, group by group, as the documentation lists them. -/
def settingsShape : Shape :=
  .group [("scheduler", .leaves ["name", "workers", "queue_size", "min_period", "max_sleep"]),
    ("logging", .leaves ["level", "format"]),
    ("metrics", .leaves ["enabled", "namespace", "listen", "labels"]),
    ("timers", .list (.leaves ["name", "kind", "period", "initial_period", "cron", "location"])),
    ("checks", .list (.leaves ["name", "url", "method", "interval", "timeout"]))]

section Match

variable {δ ε : Type} {R : String × δ → String × ε → Prop}

/-- Two lists of entries with the same names in the same order: a search by name finds
corresponding entries in both. -/
theorem find?_forall₂ {l₁ : List (String × δ)} {l₂ : List (String × ε)} (h : List.Forall₂ R l₁ l₂)
    (hR : ∀ a b, R a b → a.1 = b.1) (q : String → Bool) :
    Option.Rel R (l₁.find? fun a => q a.1) (l₂.find? fun b => q b.1) := by
  induction h with
  | nil => exact .none
  | @cons a b _ _ hab _ ih =>
    rw [List.find?_cons, List.find?_cons, hR a b hab]
    cases q b.1
    · exact ih
    · exact .some hab

theorem entryOf_forall₂ {l₁ : List (String × δ)} {l₂ : List (String × ε)} (h : List.Forall₂ R l₁ l₂)
    (hR : ∀ a b, R a b → a.1 = b.1) (k : String) : Option.Rel R (entryOf l₁ k) (entryOf l₂ k) := by
  unfold entryOf
  have hexact := find?_forall₂ h hR (· == k)
  revert hexact
  generalize l₁.find? (fun a => a.1 == k) = o₁
  generalize l₂.find? (fun b => b.1 == k) = o₂
  rintro (hab | _)
  · exact .some hab
  · exact find?_forall₂ h hR fun n => fold n == fold k

end Match

namespace Field

/-- A field that meets a fault on every document with a key that names no setting. -/
def Refuses (s : Shape) (f : Field α) : Prop := ∀ p j c, s.Stray j → faults (f p j c) = true

/-- A value read whole has no keys of its own to refuse. -/
theorem refuses_value (f : Field α) : f.Refuses .value := fun _ _ _ h => nomatch h

theorem Refuses.on {β : Type} {s : Shape} {get : α → β} {set : α → β → α} {g : Field β}
    (hg : g.Refuses s) : (Field.on get set g).Refuses s := by
  intro p j c h
  rw [faults_on]
  exact hg p j _ h

/-- A strict group refuses a key that names none of its settings, and what its settings refuse
under the keys that name them. -/
theorem Refuses.group {root ty : String} {fields : List (String × Field α)}
    {fs : List (String × Shape)} (ho : ∀ e ∈ fields, e.2.Oblivious)
    (hs : ∀ e ∈ fields, e.2.Steady)
    (hf : List.Forall₂ (fun e sf => e.1 = sf.1 ∧ e.2.Refuses sf.2) fields fs) :
    (Config.group root ty true fields).Refuses (.group fs) := by
  intro p j c h
  have hmatch := entryOf_forall₂ hf (fun _ _ h => h.1)
  cases h with
  | @unknown _ ms kv hkv hnone =>
    rw [faults_group_obj ho hs]
    refine List.any_eq_true.2 ⟨kv, hkv, ?_⟩
    cases he : entryOf fields kv.1 with
    | none => exact faults_memberStep_of_none he
    | some e =>
      have hr := hmatch kv.1
      rw [he, hnone] at hr
      cases hr
  | @within _ ms kv sf hkv hsome hstray =>
    rw [faults_group_obj ho hs]
    refine List.any_eq_true.2 ⟨kv, hkv, ?_⟩
    cases he : entryOf fields kv.1 with
    | none => exact faults_memberStep_of_none he
    | some e =>
      have hr := hmatch kv.1
      rw [he, hsome] at hr
      cases hr with
      | some hes =>
        rw [memberStep_of_entry he]
        exact hes.2 _ _ _ hstray

/-- A strict group of settings that each read their own part refuses exactly its unknown keys. -/
theorem refuses_leaves_of_orderless {root ty : String} {fields : List (String × Field α)}
    {r : α → α → Prop} (hf : ∀ e ∈ fields, e.2.Orderless r) :
    (Config.group root ty true fields).Refuses (.leaves (fields.map Prod.fst)) := by
  refine Refuses.group (fun e he => (hf e he).oblivious) (fun e he => (hf e he).steady) ?_
  rw [List.map_map, List.forall₂_map_right_iff, List.forall₂_same]
  exact fun e _ => ⟨rfl, refuses_value _⟩

/-- A list refuses what any of its elements refuses. -/
theorem Refuses.listOf [Inhabited α] {root ty : String} {elem : Field α} {zero : α} {s : Shape}
    (ho : elem.Oblivious) (hf : elem.Refuses s) : (Config.listOf root ty elem zero).Refuses (.list s) := by
  intro p j c h
  cases h with
  | @item _ xs x hx hstray =>
    have hobl : ∀ xi : Json × Nat,
        Config.Oblivious (elem (p ++ [toString xi.2]) xi.1 (c.getD xi.2 zero)) :=
      fun _ => ho _ _ _
    rw [listOf_arr, faults_mapM hobl]
    obtain ⟨i, hi⟩ := List.mem_iff_getElem?.1 hx
    exact List.any_eq_true.2 ⟨(x, i), List.mem_zipIdx_iff_getElem?.2 hi, hf _ _ _ hstray⟩

end Field

theorem refuses_settingsField : (settingsField true).Refuses settingsShape := by
  rw [settingsField_eq]
  refine Field.Refuses.group (fun e he => (orderless_settingsEntries true e he).oblivious)
    (fun e he => (orderless_settingsEntries true e he).steady) ?_
  have htimer := orderless_timerEntries "Config"
  have hcheck := orderless_checkEntries "Config"
  refine .cons ⟨rfl, .on ?_⟩ <| .cons ⟨rfl, .on ?_⟩ <| .cons ⟨rfl, .on ?_⟩ <|
    .cons ⟨rfl, .on ?_⟩ <| .cons ⟨rfl, .on ?_⟩ .nil
  · rw [schedulerField_eq]; exact Field.refuses_leaves_of_orderless (orderless_schedulerEntries _)
  · rw [loggingField_eq]; exact Field.refuses_leaves_of_orderless (orderless_loggingEntries _)
  · rw [metricsField_eq]; exact Field.refuses_leaves_of_orderless (orderless_metricsEntries _)
  · refine Field.Refuses.listOf (orderless_timerField _ _).oblivious ?_
    rw [timerField_eq]; exact Field.refuses_leaves_of_orderless htimer
  · refine Field.Refuses.listOf (orderless_checkField _ _).oblivious ?_
    rw [checkField_eq]; exact Field.refuses_leaves_of_orderless hcheck

end Config

namespace Settings

/-- Decoding a document over a configuration leaves every setting the document does not name as
it was. -/
theorem decode_keeps {strict : Bool} {j : Json} {base c : Settings}
    (h : decode strict j base = .ok c) :
    ∀ s ∈ Settings.all, ¬ j.Mentions s.path → s.read c = s.read base := by
  intro s hs hn
  have hc : (decode strict j base).toOption = some c := by rw [h]; rfl
  rw [decode_toOption] at hc
  split at hc
  · cases hc
  · cases hc
    exact Config.keeps_settingsField strict s hs [] j base hn

/-- Strict decoding fails on a document with a key that names no setting, at any depth. -/
theorem decode_stray {j : Json} (h : Config.settingsShape.Stray j) (base : Settings) :
    (decode true j base).toOption = none := by
  rw [decode_toOption, if_pos (Config.refuses_settingsField [] j base h)]

end Settings

end HostDispatch
