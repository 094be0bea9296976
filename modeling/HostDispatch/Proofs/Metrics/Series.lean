import HostDispatch.Proofs.Timer.Effects

/-!
# Reading a series back

The value of a series of a registry, zero while it is untouched, and how counting moves it: adding
to a series moves its own value and no other. A scenario without a registry reads every series as
zero, and counting leaves it so.
-/

namespace HostDispatch

namespace Metrics.Registry

/-- The value of a series, zero while it is untouched. -/
def value (r : Registry) (f : Family) (values : List String) : Int :=
  ((r.series.find? fun s => s.family == f && s.values == values).map (·.value)).getD 0

/-- Adding to a series moves its value by the amount added, and leaves every other series. -/
theorem value_add (r : Registry) (f f' : Family) (vs vs' : List String) (d : Int) :
    (r.add f vs d).value f' vs' = r.value f' vs' + if f' = f ∧ vs' = vs then d else 0 := by
  unfold add value
  split
  · rename_i hany
    -- The series is there: it is updated in place, and the search finds the same entry.
    rw [List.find?_map]
    have hsame : ((fun s : Series => s.family == f' && s.values == vs') ∘
        fun s => if s.family == f && s.values == vs then { s with value := s.value + d } else s) =
        fun s => s.family == f' && s.values == vs' := by
      funext s
      simp only [Function.comp]
      split <;> rfl
    rw [hsame]
    by_cases hm : f' = f ∧ vs' = vs
    · obtain ⟨rfl, rfl⟩ := hm
      obtain ⟨s, hs, hsp⟩ := List.any_eq_true.mp hany
      cases hfind : r.series.find? (fun s => s.family == f' && s.values == vs') with
      | none => exact absurd hsp (by simpa using List.find?_eq_none.mp hfind s hs)
      | some x =>
        have hx := List.find?_some hfind
        simp only [Bool.and_eq_true, beq_iff_eq] at hx
        simp [hx]
    · cases hfind : r.series.find? (fun s => s.family == f' && s.values == vs') with
      | none => simp [hm]
      | some x =>
        have hx := List.find?_some hfind
        simp only [Bool.and_eq_true, beq_iff_eq] at hx
        have hne : ¬(x.family = f ∧ x.values = vs) := fun h => hm ⟨hx.1 ▸ h.1, hx.2 ▸ h.2⟩
        simp [hne, hm]
  · rename_i hany
    -- The series is new: it goes at the end, where only a search for it reaches.
    simp only [Bool.not_eq_true, List.any_eq_false] at hany
    rw [List.find?_append]
    by_cases hm : f' = f ∧ vs' = vs
    · obtain ⟨rfl, rfl⟩ := hm
      have hnone : r.series.find? (fun s => s.family == f' && s.values == vs') = none :=
        List.find?_eq_none.mpr fun s hs => by simpa using hany s hs
      simp [hnone]
    · have hskip : [({ family := f, values := vs, value := d } : Series)].find?
          (fun s => s.family == f' && s.values == vs') = none := by
        simp only [List.find?_cons, List.find?_nil]
        split
        · rename_i h
          simp only [Bool.and_eq_true, beq_iff_eq] at h
          exact absurd ⟨h.1.symm, h.2.symm⟩ hm
        · rfl
      cases r.series.find? (fun s => s.family == f' && s.values == vs') <;> simp [hskip, hm]

theorem value_inc (r : Registry) (f f' : Family) (vs vs' : List String) :
    (r.inc f vs).value f' vs' = r.value f' vs' + if f' = f ∧ vs' = vs then 1 else 0 :=
  value_add r f f' vs vs' 1

end Metrics.Registry

namespace Scenario

/-- The value of a series in the scenario's registry; zero without one. -/
def World.metric (w : World) (f : Metrics.Family) (values : List String) : Int :=
  (w.metrics.map (·.value f values)).getD 0

/-- Counting adds one to its own series when the scenario keeps metrics. -/
theorem metric_count (f f' : Metrics.Family) (vs vs' : List String) (w : World) :
    (after (count f vs) w).metric f' vs' =
      w.metric f' vs' + if w.metrics.isSome ∧ f' = f ∧ vs' = vs then 1 else 0 := by
  cases hm : w.metrics with
  | none => simp [World.metric, hm]
  | some r =>
    simp only [after_count, World.metric, hm, Option.map_some, Option.getD_some,
      Metrics.Registry.value_inc, Option.isSome_some, true_and]

@[simp] theorem metrics_isSome_count (f : Metrics.Family) (vs : List String) (w : World) :
    (after (count f vs) w).metrics.isSome = w.metrics.isSome := by
  rw [after_count]
  cases w.metrics <;> rfl

end Scenario

end HostDispatch
