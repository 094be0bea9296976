import Mathlib
import HostDispatch.Config.Decode
import HostDispatch.Proofs.Data.JsonText

/-!
# Decoding does not depend on member order

A configuration object is decoded member by member, each member matched to a setting by its key,
exactly or else ignoring case. When no object of the document has two keys that are equal up to
case, the members match distinct settings, each decoding touches only its own setting, and the
order of the members does not matter: a document decodes alike with its members in any order, in
particular with every object's members sorted by key, which is how a written document reads back.
"Alike" is equality, but for the metrics labels, which form a map and are compared key by key.

The decoder's state only remembers the first fault; a decoding step never reads it. So a step is
described by the value it gives and whether it meets a fault (`value`, `faults`), and these are
computed like a pure fold: the value by folding the members' values, the faults by any member's
fault.
-/

namespace HostDispatch

namespace Json

mutual
/-- No object of the tree has two keys that are equal up to case. -/
def CaseDistinct : Json → Prop
  | .arr xs => CaseDistinctItems xs
  | .obj fs => (fs.map fun kv => Config.fold kv.1).Nodup ∧ CaseDistinctValues fs
  | _ => True

/-- `CaseDistinct` for each item. -/
def CaseDistinctItems : List Json → Prop
  | [] => True
  | x :: xs => CaseDistinct x ∧ CaseDistinctItems xs

/-- `CaseDistinct` for each member's value. -/
def CaseDistinctValues : List (String × Json) → Prop
  | [] => True
  | (_, v) :: fs => CaseDistinct v ∧ CaseDistinctValues fs
end

theorem caseDistinctItems_iff (xs : List Json) : CaseDistinctItems xs ↔ ∀ x ∈ xs, x.CaseDistinct := by
  induction xs with
  | nil => simp [CaseDistinctItems]
  | cons x xs ih => simp [CaseDistinctItems, ih]

theorem caseDistinctValues_iff (fs : List (String × Json)) :
    CaseDistinctValues fs ↔ ∀ kv ∈ fs, kv.2.CaseDistinct := by
  induction fs with
  | nil => simp [CaseDistinctValues]
  | cons kv fs ih => simp [CaseDistinctValues, ih]

theorem CaseDistinct.item {xs : List Json} (h : (Json.arr xs).CaseDistinct) {x : Json}
    (hx : x ∈ xs) : x.CaseDistinct := by
  rw [CaseDistinct, caseDistinctItems_iff] at h
  exact h x hx

theorem CaseDistinct.value {fs : List (String × Json)} (h : (Json.obj fs).CaseDistinct)
    {kv : String × Json} (hkv : kv ∈ fs) : kv.2.CaseDistinct := by
  rw [CaseDistinct, caseDistinctValues_iff] at h
  exact h.2 kv hkv

/-- Two members of an object of a case-distinct tree with keys equal up to case are one. -/
theorem CaseDistinct.eq_of_fold {fs : List (String × Json)} (h : (Json.obj fs).CaseDistinct)
    {kv kv' : String × Json} (hkv : kv ∈ fs) (hkv' : kv' ∈ fs)
    (he : Config.fold kv.1 = Config.fold kv'.1) : kv = kv' := by
  rw [CaseDistinct] at h
  exact List.inj_on_of_nodup_map h.1 hkv hkv' he

end Json

namespace Config

variable {α β γ : Type}

/-! ## Decoding steps as values and faults -/

/-- The value a decoding step gives. -/
def value (m : Decode α) : α := (m.run none).1

/-- Whether a decoding step meets a fault. -/
def faults (m : Decode α) : Bool := (m.run none).2.isSome

/-- A decoding step that does not read the fault met before it: from any start it gives its own
value, and it ends with a fault exactly when it started with one or meets one. -/
def Oblivious (m : Decode α) : Prop :=
  ∀ e, (m.run e).1 = value m ∧ (m.run e).2.isSome = (e.isSome || faults m)

theorem run_bind (m : Decode α) (k : α → Decode β) (e : Option String) :
    (m >>= k).run e = (k (m.run e).1).run (m.run e).2 := rfl

@[simp] theorem value_pure (a : α) : value (pure a : Decode α) = a := rfl

@[simp] theorem faults_pure (a : α) : faults (pure a : Decode α) = false := rfl

theorem oblivious_pure (a : α) : Oblivious (pure a : Decode α) :=
  fun e => ⟨rfl, by cases e <;> rfl⟩

@[simp] theorem faults_save (msg : String) : faults (save msg) = true := rfl

theorem oblivious_save (msg : String) : Oblivious (save msg) :=
  fun e => ⟨rfl, by cases e <;> rfl⟩

@[simp] theorem value_bind_pure (m : Decode α) (g : α → β) :
    value (m >>= fun a => pure (g a)) = g (value m) := rfl

@[simp] theorem faults_bind_pure (m : Decode α) (g : α → β) :
    faults (m >>= fun a => pure (g a)) = faults m := rfl

@[simp] theorem value_map (m : Decode α) (g : α → β) : value (g <$> m) = g (value m) := rfl

@[simp] theorem faults_map (m : Decode α) (g : α → β) : faults (g <$> m) = faults m := rfl

theorem value_bind {m : Decode α} {k : α → Decode β} (hk : Oblivious (k (value m))) :
    value (m >>= k) = value (k (value m)) :=
  (hk _).1

theorem faults_bind {m : Decode α} {k : α → Decode β} (hk : Oblivious (k (value m))) :
    faults (m >>= k) = (faults m || faults (k (value m))) :=
  (hk _).2

theorem Oblivious.bind {m : Decode α} {k : α → Decode β} (hm : Oblivious m)
    (hk : ∀ a, Oblivious (k a)) : Oblivious (m >>= k) := by
  intro e
  obtain ⟨hv, hf⟩ := hm e
  obtain ⟨hv', hf'⟩ := hk (value m) (m.run e).2
  rw [run_bind, hv, hv', hf', hf, value_bind (hk _), faults_bind (hk _), Bool.or_assoc]
  exact ⟨rfl, rfl⟩

theorem Oblivious.foldlM {s : β → γ → Decode β} (hs : ∀ a x, Oblivious (s a x)) :
    ∀ (xs : List γ) (a : β), Oblivious (xs.foldlM s a)
  | [], a => oblivious_pure a
  | x :: xs, a => (hs a x).bind fun b => Oblivious.foldlM hs xs b

/-- A fold of steps gives the fold of their values. -/
theorem value_foldlM {s : β → γ → Decode β} (hs : ∀ a x, Oblivious (s a x)) :
    ∀ (xs : List γ) (a : β), value (xs.foldlM s a) = xs.foldl (fun b x => value (s b x)) a
  | [], _ => rfl
  | x :: xs, a => by
    rw [List.foldlM_cons, value_bind (Oblivious.foldlM hs xs _), value_foldlM hs xs,
      List.foldl_cons]

/-- A fold of steps whose faults do not depend on the value so far meets a fault when one of its
steps does. -/
theorem faults_foldlM {s : β → γ → Decode β} (hs : ∀ a x, Oblivious (s a x))
    (hsteady : ∀ a b x, faults (s a x) = faults (s b x)) :
    ∀ (xs : List γ) (a : β), faults (xs.foldlM s a) = xs.any fun x => faults (s a x)
  | [], _ => rfl
  | x :: xs, a => by
    rw [List.foldlM_cons, faults_bind (Oblivious.foldlM hs xs _), faults_foldlM hs hsteady xs,
      List.any_cons]
    congr 1
    exact congrArg xs.any (funext fun y => hsteady _ _ y)

theorem Oblivious.mapM {s : γ → Decode β} (hs : ∀ x, Oblivious (s x)) :
    ∀ xs : List γ, Oblivious (xs.mapM s)
  | [] => oblivious_pure []
  | x :: xs => by
    rw [List.mapM_cons]
    exact (hs x).bind fun _ => (Oblivious.mapM hs xs).bind fun _ => oblivious_pure _

/-- Steps mapped over a list give the list of their values. -/
theorem value_mapM {s : γ → Decode β} (hs : ∀ x, Oblivious (s x)) :
    ∀ xs : List γ, value (xs.mapM s) = xs.map fun x => value (s x)
  | [] => rfl
  | x :: xs => by
    rw [List.mapM_cons, value_bind (k := fun b => xs.mapM s >>= fun bs => pure (b :: bs))
      ((Oblivious.mapM hs xs).bind fun _ => oblivious_pure _),
      value_bind_pure, value_mapM hs xs, List.map_cons]

/-- Steps mapped over a list meet a fault when one of them does. -/
theorem faults_mapM {s : γ → Decode β} (hs : ∀ x, Oblivious (s x)) :
    ∀ xs : List γ, faults (xs.mapM s) = xs.any fun x => faults (s x)
  | [] => rfl
  | x :: xs => by
    rw [List.mapM_cons, faults_bind (k := fun b => xs.mapM s >>= fun bs => pure (b :: bs))
      ((Oblivious.mapM hs xs).bind fun _ => oblivious_pure _),
      faults_bind_pure, faults_mapM hs xs, List.any_cons]

/-! ## Fields -/

namespace Field

/-- A field whose decoding never reads the fault met before it. -/
def Oblivious (f : Field α) : Prop := ∀ p j c, Config.Oblivious (f p j c)

/-- A field whose faults do not depend on the value it decodes over. -/
def Steady (f : Field α) : Prop := ∀ p j a b, faults (f p j a) = faults (f p j b)

/-- A field that decodes alike over alike values. -/
def Respects (r : α → α → Prop) (f : Field α) : Prop :=
  ∀ p j a b, r a b → r (value (f p j a)) (value (f p j b))

/-- A field that decodes a case-distinct document alike with its objects' members in key order:
alike values, and a fault exactly when there was one. -/
def Sorts (r : α → α → Prop) (f : Field α) : Prop :=
  ∀ p j a b, j.CaseDistinct → r a b →
    r (value (f p j a)) (value (f p j.sortKeys b)) ∧ faults (f p j a) = faults (f p j.sortKeys b)

/-- Two settings that give the same value decoded in either order. -/
def Commute (f g : Field α) : Prop :=
  ∀ p q j k a, value (g q k (value (f p j a))) = value (f p j (value (g q k a)))

/-- The setting of a group that `g` decodes on the part of the record that `get` reads and `set`
writes. -/
def on (get : α → β) (set : α → β → α) (g : Field β) : Field α :=
  fun p j c => do pure (set c (← g p j (get c)))

@[simp] theorem value_on (get : α → β) (set : α → β → α) (g : Field β) (p j c) :
    value (on get set g p j c) = set c (value (g p j (get c))) := rfl

@[simp] theorem faults_on (get : α → β) (set : α → β → α) (g : Field β) (p j c) :
    faults (on get set g p j c) = faults (g p j (get c)) := rfl

variable {get : α → β} {set : α → β → α} {g : Field β}

theorem Oblivious.on (hg : g.Oblivious) : (on get set g).Oblivious :=
  fun p j c => (hg p j (get c)).bind fun _ => oblivious_pure _

theorem Steady.on (hg : g.Steady) : (on get set g).Steady :=
  fun p j a b => hg p j (get a) (get b)

/-- A setting is decoded alike over alike records when its part of alike records is alike, and
writing alike parts into alike records gives alike records. -/
theorem Respects.on {r : α → α → Prop} {s : β → β → Prop} (hg : g.Respects s)
    (hget : ∀ a b, r a b → s (get a) (get b))
    (hset : ∀ a b x y, r a b → s x y → r (set a x) (set b y)) : (on get set g).Respects r :=
  fun p j a b hab => hset _ _ _ _ hab (hg p j _ _ (hget a b hab))

theorem Sorts.on {r : α → α → Prop} {s : β → β → Prop} (hg : g.Sorts s)
    (hget : ∀ a b, r a b → s (get a) (get b))
    (hset : ∀ a b x y, r a b → s x y → r (set a x) (set b y)) : (on get set g).Sorts r := by
  intro p j a b hj hab
  obtain ⟨hv, hf⟩ := hg p j (get a) (get b) hj (hget a b hab)
  exact ⟨hset _ _ _ _ hab hv, hf⟩

/-- Settings on parts that writing the other leaves alone commute. -/
theorem Commute.on {get' : α → γ} {set' : α → γ → α} {g' : Field γ}
    (h₁ : ∀ a y, get (set' a y) = get a) (h₂ : ∀ a x, get' (set a x) = get' a)
    (h : ∀ a x y, set' (set a x) y = set (set' a y) x) :
    Commute (on get set g) (on get' set' g') := by
  intro p q j k a
  simp only [value_on, h₁, h₂, h]

end Field

/-! ## Folds in any order -/

/-- A fold of steps that keep a relation keeps it. -/
theorem foldl_rel {r : β → β → Prop} {s : β → γ → β} (hs : ∀ a b x, r a b → r (s a x) (s b x)) :
    ∀ (xs : List γ) (a b : β), r a b → r (xs.foldl s a) (xs.foldl s b)
  | [], _, _, hab => hab
  | x :: xs, a, b, hab => foldl_rel hs xs _ _ (hs a b x hab)

/-- A fold of steps that keep a property of the value keeps it. -/
theorem foldl_keeps {P : β → Prop} {s : β → γ → β} (xs : List γ) {a : β} (ha : P a)
    (hs : ∀ b, ∀ x ∈ xs, P b → P (s b x)) : P (xs.foldl s a) := by
  induction xs generalizing a with
  | nil => exact ha
  | cons x xs ih =>
    exact ih (hs a x (List.mem_cons_self ..) ha) fun b y hy => hs b y (List.mem_cons_of_mem _ hy)

/-- A fold of steps that keep an equivalence and commute up to it gives, in any order of the
list, values related by it. -/
theorem foldl_rel_perm {r : β → β → Prop} (hr : Equivalence r) {s : β → γ → β}
    (hs : ∀ a b x, r a b → r (s a x) (s b x)) {l₁ l₂ : List γ} (hp : l₁.Perm l₂)
    (hc : ∀ x ∈ l₁, ∀ y ∈ l₁, ∀ a, r (s (s a x) y) (s (s a y) x)) (a : β) :
    r (l₁.foldl s a) (l₂.foldl s a) := by
  induction hp generalizing a with
  | nil => exact hr.refl _
  | cons x _ ih => exact ih (fun y hy z hz => hc y (by simp [hy]) z (by simp [hz])) _
  | swap x y l =>
    exact foldl_rel hs l _ _ (hc y (by simp) x (by simp) a)
  | trans h₁₂ _ ih₁ ih₂ =>
    exact hr.trans (ih₁ hc a)
      (ih₂ (fun x hx y hy => hc x (h₁₂.mem_iff.2 hx) y (h₁₂.mem_iff.2 hy)) a)

/-- Folding the members of a case-distinct object, and folding them in key order with their
values' members in key order, give related values, when the steps keep the relation, a member
steps alike with its value's members in key order, and members whose keys differ up to case
commute. -/
theorem foldl_sortKeys_members {r : β → β → Prop} (hr : Equivalence r)
    {step : β → String × Json → β} {ms : List (String × Json)} (hj : (Json.obj ms).CaseDistinct)
    (hresp : ∀ a b kv, r a b → r (step a kv) (step b kv))
    (hsort : ∀ a b kv, kv ∈ ms → r a b → r (step a kv) (step b (kv.1, kv.2.sortKeys)))
    (hcomm : ∀ a (x y : String × Json), fold x.1 ≠ fold y.1 →
      r (step (step a x) y) (step (step a y) x))
    {a b : β} (hab : r a b) :
    r (ms.foldl step a) ((Json.sortMembers (ms.map fun kv => (kv.1, kv.2.sortKeys))).foldl step b) := by
  let sv : String × Json → String × Json := fun kv => (kv.1, kv.2.sortKeys)
  -- first every member's value is put in key order, then the members themselves
  have hvalues : ∀ l : List (String × Json), (∀ kv ∈ l, kv ∈ ms) → ∀ a b, r a b →
      r (l.foldl step a) ((l.map sv).foldl step b) := by
    intro l hl
    induction l with
    | nil => exact fun _ _ hab => hab
    | cons kv l ih =>
      intro a b hab
      exact ih (fun kv' h => hl kv' (List.mem_cons_of_mem _ h)) _ _ (hsort a b kv (hl kv (by simp)) hab)
  refine hr.trans (hvalues ms (fun _ h => h) a b hab)
    (foldl_rel_perm hr hresp (Json.perm_sortMembers _).symm ?_ b)
  intro x hx y hy c
  by_cases hxy : x = y
  · subst hxy; exact hr.refl _
  · obtain ⟨kx, hkx, rfl⟩ := List.mem_map.1 hx
    obtain ⟨ky, hky, rfl⟩ := List.mem_map.1 hy
    exact hcomm c (sv kx) (sv ky) fun h => hxy (by rw [hj.eq_of_fold hkx hky h])

theorem any_congr_of_mem {l : List γ} {f g : γ → Bool} (h : ∀ x ∈ l, f x = g x) :
    l.any f = l.any g := by
  rw [Bool.eq_iff_iff, List.any_eq_true, List.any_eq_true]
  exact exists_congr fun x => and_congr_right fun hx => by rw [h x hx]

/-- Any member of a case-distinct object meets a fault exactly when any member meets one in key
order, with its value's members in key order, when each member and its value in key order do. -/
theorem any_sortKeys_members {g : String × Json → Bool} {ms : List (String × Json)}
    (h : ∀ kv ∈ ms, g kv = g (kv.1, kv.2.sortKeys)) :
    ms.any g = (Json.sortMembers (ms.map fun kv => (kv.1, kv.2.sortKeys))).any g := by
  rw [(Json.perm_sortMembers _).any_eq, List.any_map]
  exact any_congr_of_mem fun kv hkv => h kv hkv

theorem sortKeys_arr (xs : List Json) : (Json.arr xs).sortKeys = .arr (xs.map Json.sortKeys) := by
  simp [Json.sortKeys]

theorem sortKeys_obj (ms : List (String × Json)) :
    (Json.obj ms).sortKeys = .obj (Json.sortMembers (ms.map fun kv => (kv.1, kv.2.sortKeys))) := by
  simp [Json.sortKeys]

/-! ## Groups -/

/-- The setting a member is decoded into: the one its key names, else one its key names up to
case. -/
def entryOf {δ : Type} (fields : List (String × δ)) (k : String) : Option (String × δ) :=
  (fields.find? (·.1 == k)).orElse fun _ => fields.find? fun f => fold f.1 == fold k

/-- The setting a member is decoded into is a setting of the group, named by the member's key up
to case. -/
theorem entryOf_mem {δ : Type} {fields : List (String × δ)} {k : String} {e : String × δ}
    (h : entryOf fields k = some e) : e ∈ fields ∧ fold e.1 = fold k := by
  unfold entryOf at h
  cases hx : fields.find? (·.1 == k) with
  | some e' =>
    rw [hx, Option.orElse_some] at h
    cases h
    have hk : e.1 = k := by simpa using List.find?_some hx
    exact ⟨List.mem_of_find?_eq_some hx, by rw [hk]⟩
  | none =>
    rw [hx, Option.orElse_none] at h
    exact ⟨List.mem_of_find?_eq_some h, by simpa using List.find?_some h⟩

/-- One member decoded over the group's value so far, as `group` decodes it. -/
def memberStep (strict : Bool) (fields : List (String × Field α)) (path : List String) (acc : α)
    (kv : String × Json) : Decode α :=
  match entryOf fields kv.1 with
  | some (name, f) => f (path ++ [name]) kv.2 acc
  | none => do
    if strict then save ("json: unknown field " ++ Text.quote kv.1)
    pure acc

theorem group_obj (root ty : String) (strict : Bool) (fields : List (String × Field α))
    (path : List String) (ms : List (String × Json)) (cur : α) :
    group root ty strict fields path (.obj ms) cur = ms.foldlM (memberStep strict fields path) cur :=
  rfl

section Member

variable {strict : Bool} {fields : List (String × Field α)} {path : List String}

theorem memberStep_of_entry {acc : α} {kv : String × Json} {e : String × Field α}
    (h : entryOf fields kv.1 = some e) :
    memberStep strict fields path acc kv = e.2 (path ++ [e.1]) kv.2 acc := by
  simp [memberStep, h]

theorem value_memberStep_of_none {acc : α} {kv : String × Json} (h : entryOf fields kv.1 = none) :
    value (memberStep strict fields path acc kv) = acc := by
  cases strict <;> simp [memberStep, h]

theorem faults_memberStep_of_none {acc : α} {kv : String × Json}
    (h : entryOf fields kv.1 = none) : faults (memberStep strict fields path acc kv) = strict := by
  cases strict <;> simp [memberStep, h]

theorem oblivious_memberStep (hf : ∀ e ∈ fields, e.2.Oblivious) (acc : α) (kv : String × Json) :
    Oblivious (memberStep strict fields path acc kv) := by
  cases he : entryOf fields kv.1 with
  | some e => rw [memberStep_of_entry he]; exact hf e (entryOf_mem he).1 _ _ _
  | none =>
    simp only [memberStep, he]
    cases strict
    · exact (oblivious_pure ()).bind fun _ => oblivious_pure acc
    · exact (oblivious_save _).bind fun _ => oblivious_pure acc

theorem faults_memberStep_steady (hf : ∀ e ∈ fields, e.2.Steady) (a b : α) (kv : String × Json) :
    faults (memberStep strict fields path a kv) = faults (memberStep strict fields path b kv) := by
  cases he : entryOf fields kv.1 with
  | some e =>
    rw [memberStep_of_entry he, memberStep_of_entry he]
    exact hf e (entryOf_mem he).1 _ _ _ _
  | none => rw [faults_memberStep_of_none he, faults_memberStep_of_none he]

end Member

section Group

variable {root ty : String} {strict : Bool} {fields : List (String × Field α)}

theorem value_group_obj (hf : ∀ e ∈ fields, e.2.Oblivious) (p : List String)
    (ms : List (String × Json)) (c : α) :
    value (group root ty strict fields p (.obj ms) c) =
      ms.foldl (fun a kv => value (memberStep strict fields p a kv)) c := by
  rw [group_obj, value_foldlM (oblivious_memberStep hf)]

theorem faults_group_obj (hf : ∀ e ∈ fields, e.2.Oblivious) (hs : ∀ e ∈ fields, e.2.Steady)
    (p : List String) (ms : List (String × Json)) (c : α) :
    faults (group root ty strict fields p (.obj ms) c) =
      ms.any fun kv => faults (memberStep strict fields p c kv) := by
  rw [group_obj, faults_foldlM (oblivious_memberStep hf) (faults_memberStep_steady hs)]

theorem Field.Oblivious.group (hf : ∀ e ∈ fields, e.2.Oblivious) :
    (group root ty strict fields).Oblivious := by
  intro p j c
  cases j with
  | obj ms => rw [group_obj]; exact Oblivious.foldlM (oblivious_memberStep hf) ms c
  | null => exact oblivious_pure c
  | _ => exact (oblivious_save _).bind fun _ => oblivious_pure c

theorem Field.Steady.group (hf : ∀ e ∈ fields, e.2.Oblivious) (hs : ∀ e ∈ fields, e.2.Steady) :
    (group root ty strict fields).Steady := by
  intro p j a b
  cases j with
  | obj ms =>
    rw [faults_group_obj hf hs, faults_group_obj hf hs]
    exact congrArg ms.any (funext fun kv => faults_memberStep_steady hs a b kv)
  | _ => rfl

/-- A member decodes alike over alike values when its setting does. -/
theorem memberStep_respects {r : α → α → Prop} (hf : ∀ e ∈ fields, e.2.Respects r) {path : List String}
    {a b : α} (kv : String × Json) (hab : r a b) :
    r (value (memberStep strict fields path a kv)) (value (memberStep strict fields path b kv)) := by
  cases he : entryOf fields kv.1 with
  | some e =>
    rw [memberStep_of_entry he, memberStep_of_entry he]
    exact hf e (entryOf_mem he).1 _ _ _ _ hab
  | none => rwa [value_memberStep_of_none he, value_memberStep_of_none he]

theorem Field.Respects.group {r : α → α → Prop} (ho : ∀ e ∈ fields, e.2.Oblivious)
    (hf : ∀ e ∈ fields, e.2.Respects r) : (group root ty strict fields).Respects r := by
  intro p j a b hab
  cases j with
  | obj ms =>
    rw [value_group_obj ho, value_group_obj ho]
    exact foldl_rel (fun a b kv => memberStep_respects hf kv) ms a b hab
  | _ => exact hab

/-- A member decodes alike with its value's members in key order, when its setting does. -/
theorem memberStep_sorts {r : α → α → Prop} (hf : ∀ e ∈ fields, e.2.Sorts r) {path : List String}
    {a b : α} {kv : String × Json} (hkv : kv.2.CaseDistinct) (hab : r a b) :
    r (value (memberStep strict fields path a kv))
        (value (memberStep strict fields path b (kv.1, kv.2.sortKeys))) ∧
      faults (memberStep strict fields path a kv) =
        faults (memberStep strict fields path b (kv.1, kv.2.sortKeys)) := by
  cases he : entryOf fields kv.1 with
  | some e =>
    have he' : entryOf fields (kv.1, kv.2.sortKeys).1 = some e := he
    rw [memberStep_of_entry he, memberStep_of_entry he']
    exact hf e (entryOf_mem he).1 _ _ _ _ hkv hab
  | none =>
    have he' : entryOf fields (kv.1, kv.2.sortKeys).1 = none := he
    rw [value_memberStep_of_none he, value_memberStep_of_none he', faults_memberStep_of_none he,
      faults_memberStep_of_none he']
    exact ⟨hab, rfl⟩

/-- Members whose keys differ up to case decode into distinct settings, which commute. -/
theorem memberStep_commute (hc : ∀ e₁ ∈ fields, ∀ e₂ ∈ fields, e₁.1 ≠ e₂.1 → e₁.2.Commute e₂.2)
    {path : List String} (a : α) {x y : String × Json} (hxy : fold x.1 ≠ fold y.1) :
    value (memberStep strict fields path (value (memberStep strict fields path a x)) y) =
      value (memberStep strict fields path (value (memberStep strict fields path a y)) x) := by
  cases hx : entryOf fields x.1 with
  | none => rw [value_memberStep_of_none hx, value_memberStep_of_none hx]
  | some ex =>
    cases hy : entryOf fields y.1 with
    | none => rw [value_memberStep_of_none hy, value_memberStep_of_none hy]
    | some ey =>
      obtain ⟨hex, hfx⟩ := entryOf_mem hx
      obtain ⟨hey, hfy⟩ := entryOf_mem hy
      have hne : ex.1 ≠ ey.1 := fun h => hxy (by rw [← hfx, ← hfy, h])
      rw [memberStep_of_entry hx, memberStep_of_entry hy, memberStep_of_entry hy,
        memberStep_of_entry hx]
      exact hc ex hex ey hey hne _ _ _ _ a

/-- A group decodes a case-distinct document alike with its objects' members in key order, when
its settings do and settings of distinct names commute. -/
theorem Field.Sorts.group {r : α → α → Prop} (hr : Equivalence r)
    (ho : ∀ e ∈ fields, e.2.Oblivious) (hs : ∀ e ∈ fields, e.2.Steady)
    (hresp : ∀ e ∈ fields, e.2.Respects r) (hf : ∀ e ∈ fields, e.2.Sorts r)
    (hc : ∀ e₁ ∈ fields, ∀ e₂ ∈ fields, e₁.1 ≠ e₂.1 → e₁.2.Commute e₂.2) :
    (group root ty strict fields).Sorts r := by
  intro p j a b hj hab
  cases j with
  | obj ms =>
    rw [sortKeys_obj, value_group_obj ho, value_group_obj ho, faults_group_obj ho hs,
      faults_group_obj ho hs]
    refine ⟨foldl_sortKeys_members hr hj (fun a b kv => memberStep_respects hresp kv)
      (fun a b kv hkv hab => (memberStep_sorts hf (hj.value hkv) hab).1)
      (fun a x y hxy => by rw [memberStep_commute hc a hxy]; exact hr.refl _) hab, ?_⟩
    simp only [faults_memberStep_steady hs a b]
    exact any_sortKeys_members fun kv hkv => (memberStep_sorts hf (hj.value hkv) (hr.refl b)).2
  | arr xs => exact ⟨hab, rfl⟩
  | _ => exact ⟨hab, rfl⟩

end Group

theorem Field.respects_eq (f : Field α) : f.Respects Eq := by
  intro p j a b h
  rw [h]

/-! ## Texts, numbers and truth values -/

section Leaves

variable (root : String)

theorem oblivious_strValue : (strValue root).Oblivious := by
  intro p j c
  cases j <;> first | exact oblivious_pure _ | exact (oblivious_save _).bind fun _ => oblivious_pure _

theorem steady_strValue : (strValue root).Steady := by
  intro p j a b
  cases j <;> rfl

/-- A text is read alike from a value with its members in key order: only the kind of a value
that is not a text shows in the fault. -/
theorem strValue_sortKeys (p : List String) (j : Json) (c : String) :
    strValue root p j.sortKeys c = strValue root p j c := by
  cases j <;> simp [Json.sortKeys, strValue, kindWord]

theorem sorts_strValue : (strValue root).Sorts Eq := by
  intro p j a b _ hab
  subst hab
  cases j <;> exact ⟨rfl, rfl⟩

theorem oblivious_intValue : (intValue root).Oblivious := by
  intro p j c
  cases j with
  | num t =>
    simp only [intValue]
    split
    · exact oblivious_pure _
    · exact (oblivious_save _).bind fun _ => oblivious_pure _
  | _ => first | exact oblivious_pure _ | exact (oblivious_save _).bind fun _ => oblivious_pure _

theorem steady_intValue : (intValue root).Steady := by
  intro p j a b
  cases j with
  | num t => simp only [intValue]; split <;> rfl
  | _ => rfl

theorem sorts_intValue : (intValue root).Sorts Eq := by
  intro p j a b _ hab
  subst hab
  cases j <;> exact ⟨rfl, rfl⟩

theorem oblivious_boolValue : (boolValue root).Oblivious := by
  intro p j c
  cases j <;> first | exact oblivious_pure _ | exact (oblivious_save _).bind fun _ => oblivious_pure _

theorem steady_boolValue : (boolValue root).Steady := by
  intro p j a b
  cases j <;> rfl

theorem sorts_boolValue : (boolValue root).Sorts Eq := by
  intro p j a b _ hab
  subst hab
  cases j <;> exact ⟨rfl, rfl⟩

end Leaves

/-! ## Labels -/

/-- Label lists alike: as the maps they stand for, they give every key the same value. -/
def LabelsAlike (ls ls' : List (String × String)) : Prop := ∀ k, ls.lookup k = ls'.lookup k

theorem labelsAlike_equivalence : Equivalence LabelsAlike :=
  ⟨fun _ _ => rfl, fun h k => (h k).symm, fun h₁ h₂ k => (h₁ k).trans (h₂ k)⟩

theorem lookup_cons_eq_ite (x k v : String) (ls : List (String × String)) :
    ((k, v) :: ls).lookup x = if x = k then some v else ls.lookup x := by
  by_cases h : x = k
  · subst h; simp
  · simp [List.lookup_cons, beq_false_of_ne h, h]

/-- Overwriting the labels named `k` changes the value of `k`, when there is one. -/
theorem lookup_map_label (k v x : String) (ls : List (String × String)) :
    (ls.map fun (k', v') => if k' == k then (k', v) else (k', v')).lookup x =
      if x = k ∧ ls.any (·.1 == k) then some v else ls.lookup x := by
  induction ls with
  | nil => simp
  | cons p ls ih =>
    obtain ⟨k', v'⟩ := p
    by_cases h1 : k' = k
    · subst h1
      simp only [List.map_cons, beq_self_eq_true, if_true, lookup_cons_eq_ite, ih,
        List.any_cons, Bool.true_or]
      by_cases h2 : x = k' <;> simp [h2]
    · simp only [List.map_cons, beq_false_of_ne h1, Bool.false_eq_true, if_false,
        lookup_cons_eq_ite, ih, List.any_cons, Bool.false_or]
      by_cases h2 : x = k'
      · subst h2; simp [h1]
      · simp [h2]

theorem lookup_eq_none_of_not_any {k : String} {ls : List (String × String)}
    (h : ¬ ls.any (·.1 == k) = true) : ls.lookup k = none := by
  induction ls with
  | nil => rfl
  | cons p ls ih =>
    obtain ⟨k', v'⟩ := p
    simp only [List.any_cons, Bool.or_eq_true, not_or] at h
    have hk : k ≠ k' := fun e => h.1 (by simp [e])
    rw [lookup_cons_eq_ite, if_neg hk, ih h.2]

/-- Setting a label changes the value of its key and no other. -/
theorem lookup_setLabel (k v : String) (ls : List (String × String)) (x : String) :
    (setLabel k v ls).lookup x = if x = k then some v else ls.lookup x := by
  unfold setLabel
  split
  · rename_i hany
    rw [lookup_map_label]
    by_cases hx : x = k <;> simp [hx, hany]
  · rename_i hnone
    rw [List.lookup_append]
    by_cases hx : x = k
    · subst hx
      simp [lookup_eq_none_of_not_any hnone]
    · simp [hx]

theorem setLabel_alike {ls ls' : List (String × String)} (h : LabelsAlike ls ls') (k v : String) :
    LabelsAlike (setLabel k v ls) (setLabel k v ls') := by
  intro x
  rw [lookup_setLabel, lookup_setLabel, h x]

/-- Labels of distinct keys set in either order give the same map. -/
theorem setLabel_comm {k₁ k₂ : String} (h : k₁ ≠ k₂) (v₁ v₂ : String) (ls : List (String × String)) :
    LabelsAlike (setLabel k₂ v₂ (setLabel k₁ v₁ ls)) (setLabel k₁ v₁ (setLabel k₂ v₂ ls)) := by
  intro x
  simp only [lookup_setLabel]
  by_cases h₁ : x = k₁
  · subst h₁; simp [h]
  · simp [h₁]

/-- One member of a label map decoded over the labels so far. -/
def labelStep (root : String) (path : List String) (acc : List (String × String))
    (kv : String × Json) : Decode (List (String × String)) :=
  strValue root (path ++ [kv.1]) kv.2 "" >>= fun s => pure (setLabel kv.1 s acc)

theorem labelMap_obj (root : String) (path : List String) (ms : List (String × Json))
    (cur : List (String × String)) : labelMap root path (.obj ms) cur = ms.foldlM (labelStep root path) cur :=
  rfl

section LabelMap

variable (root : String) (path : List String)

theorem oblivious_labelStep (acc : List (String × String)) (kv : String × Json) :
    Oblivious (labelStep root path acc kv) :=
  (oblivious_strValue root _ _ _).bind fun _ => oblivious_pure _

theorem value_labelStep (acc : List (String × String)) (kv : String × Json) :
    value (labelStep root path acc kv) =
      setLabel kv.1 (value (strValue root (path ++ [kv.1]) kv.2 "")) acc :=
  rfl

theorem faults_labelStep (acc : List (String × String)) (kv : String × Json) :
    faults (labelStep root path acc kv) = faults (strValue root (path ++ [kv.1]) kv.2 "") :=
  rfl

theorem labelStep_alike {a b : List (String × String)} (h : LabelsAlike a b) (kv : String × Json) :
    LabelsAlike (value (labelStep root path a kv)) (value (labelStep root path b kv)) :=
  setLabel_alike h _ _

theorem oblivious_labelMap : (labelMap root).Oblivious := by
  intro p j c
  cases j with
  | obj ms => rw [labelMap_obj]; exact Oblivious.foldlM (oblivious_labelStep root p) ms c
  | null => exact oblivious_pure _
  | _ => exact (oblivious_save _).bind fun _ => oblivious_pure c

theorem steady_labelMap : (labelMap root).Steady := by
  intro p j a b
  cases j with
  | obj ms =>
    rw [labelMap_obj, labelMap_obj,
      faults_foldlM (oblivious_labelStep root p) (fun _ _ _ => rfl),
      faults_foldlM (oblivious_labelStep root p) (fun _ _ _ => rfl)]
    rfl
  | _ => rfl

theorem respects_labelMap : (labelMap root).Respects LabelsAlike := by
  intro p j a b hab
  cases j with
  | obj ms =>
    rw [labelMap_obj, labelMap_obj, value_foldlM (oblivious_labelStep root p),
      value_foldlM (oblivious_labelStep root p)]
    exact foldl_rel (r := LabelsAlike) (fun a b kv h => labelStep_alike root p h kv) ms a b hab
  | null => exact labelsAlike_equivalence.refl _
  | _ => exact hab

/-- A label map decodes alike with its members in key order: the labels are set in another
order, but each key to the same text. -/
theorem sorts_labelMap : (labelMap root).Sorts LabelsAlike := by
  intro p j a b hj hab
  cases j with
  | obj ms =>
    rw [sortKeys_obj, labelMap_obj, labelMap_obj, value_foldlM (oblivious_labelStep root p),
      value_foldlM (oblivious_labelStep root p),
      faults_foldlM (oblivious_labelStep root p) (fun _ _ _ => rfl),
      faults_foldlM (oblivious_labelStep root p) (fun _ _ _ => rfl)]
    refine ⟨foldl_sortKeys_members labelsAlike_equivalence hj
      (fun a b kv h => labelStep_alike root p h kv) (fun a b kv _ h => ?_)
      (fun a x y hxy => setLabel_comm (fun e => hxy (by rw [e])) _ _ _) hab, ?_⟩
    · rw [value_labelStep, value_labelStep, strValue_sortKeys]
      exact setLabel_alike h _ _
    · exact any_sortKeys_members fun kv _ => by rw [faults_labelStep, faults_labelStep, strValue_sortKeys]
  | null => exact ⟨labelsAlike_equivalence.refl _, rfl⟩
  | arr xs => exact ⟨hab, rfl⟩
  | _ => exact ⟨hab, rfl⟩

end LabelMap

/-! ## Settings that decode alike in any order -/

namespace Field

/-- A field whose decoding is described by its value and faults, keeps a relation on the values it
decodes over, and decodes a case-distinct document alike with its objects' members in key order. -/
structure Orderless (r : α → α → Prop) (f : Field α) : Prop where
  oblivious : f.Oblivious
  steady : f.Steady
  respects : f.Respects r
  sorts : f.Sorts r

theorem Orderless.on {r : α → α → Prop} {s : β → β → Prop} {get : α → β} {set : α → β → α}
    {g : Field β} (hg : g.Orderless s) (hget : ∀ a b, r a b → s (get a) (get b))
    (hset : ∀ a b x y, r a b → s x y → r (set a x) (set b y)) : (Field.on get set g).Orderless r :=
  ⟨hg.oblivious.on, hg.steady.on, hg.respects.on hget hset, hg.sorts.on hget hset⟩

/-- A part decoded exactly gives a record decoded exactly. -/
theorem Orderless.on_eq {get : α → β} {set : α → β → α} {g : Field β} (hg : g.Orderless Eq) :
    (Field.on get set g).Orderless Eq :=
  hg.on (fun _ _ h => congrArg get h) fun _ _ _ _ h h' => by rw [h, h']

/-- A group whose settings decode alike in any order, and commute when their names differ, does. -/
theorem Orderless.group {root ty : String} {strict : Bool} {fields : List (String × Field α)}
    {r : α → α → Prop} (hr : Equivalence r) (hf : ∀ e ∈ fields, e.2.Orderless r)
    (hc : ∀ e₁ ∈ fields, ∀ e₂ ∈ fields, e₁.1 ≠ e₂.1 → e₁.2.Commute e₂.2) :
    (Config.group root ty strict fields).Orderless r := by
  have ho : ∀ e ∈ fields, e.2.Oblivious := fun e he => (hf e he).oblivious
  have hs : ∀ e ∈ fields, e.2.Steady := fun e he => (hf e he).steady
  have hresp : ∀ e ∈ fields, e.2.Respects r := fun e he => (hf e he).respects
  exact ⟨Oblivious.group ho, Steady.group ho hs, Respects.group ho hresp,
    Sorts.group hr ho hs hresp (fun e he => (hf e he).sorts) hc⟩

end Field

theorem orderless_strValue (root : String) : (strValue root).Orderless Eq :=
  ⟨oblivious_strValue root, steady_strValue root, Field.respects_eq _, sorts_strValue root⟩

theorem orderless_intValue (root : String) : (intValue root).Orderless Eq :=
  ⟨oblivious_intValue root, steady_intValue root, Field.respects_eq _, sorts_intValue root⟩

theorem orderless_boolValue (root : String) : (boolValue root).Orderless Eq :=
  ⟨oblivious_boolValue root, steady_boolValue root, Field.respects_eq _, sorts_boolValue root⟩

theorem orderless_labelMap (root : String) : (labelMap root).Orderless LabelsAlike :=
  ⟨oblivious_labelMap root, steady_labelMap root, respects_labelMap root, sorts_labelMap root⟩

section Lists

variable [Inhabited α] (root ty : String) {elem : Field α} (zero : α)

theorem listOf_arr (p : List String) (xs : List Json) (cur : List α) :
    listOf root ty elem zero p (.arr xs) cur =
      xs.zipIdx.mapM fun (x, i) => elem (p ++ [toString i]) x (cur.getD i zero) :=
  rfl

/-- A list decodes alike in any order when its elements do: each element is decoded on its own,
over the element at its place. -/
theorem Field.Orderless.listOf (hf : elem.Orderless Eq) : (listOf root ty elem zero).Orderless Eq := by
  have ho : ∀ (p : List String) (cur : List α) (xi : Json × Nat),
      Config.Oblivious (elem (p ++ [toString xi.2]) xi.1 (cur.getD xi.2 zero)) :=
    fun _ _ _ => hf.oblivious _ _ _
  refine ⟨?_, ?_, Field.respects_eq _, ?_⟩
  · intro p j c
    cases j with
    | arr xs => rw [listOf_arr]; exact Oblivious.mapM (ho p c) _
    | null => exact oblivious_pure _
    | _ => exact (oblivious_save _).bind fun _ => oblivious_pure c
  · intro p j a b
    cases j with
    | arr xs =>
      rw [listOf_arr, listOf_arr, faults_mapM (ho p a), faults_mapM (ho p b)]
      exact List.any_congr rfl fun _ => hf.steady _ _ _ _
    | _ => rfl
  · intro p j a b hj hab
    subst hab
    cases j with
    | arr xs =>
      rw [sortKeys_arr, listOf_arr, listOf_arr, value_mapM (ho p a), value_mapM (ho p a),
        faults_mapM (ho p a), faults_mapM (ho p a), List.zipIdx_map, List.map_map, List.any_map]
      have hitem : ∀ xi ∈ xs.zipIdx, xi.1.CaseDistinct :=
        fun xi hxi => hj.item (List.fst_mem_of_mem_zipIdx hxi)
      exact ⟨List.map_congr_left fun xi hxi => (hf.sorts _ _ _ _ (hitem xi hxi) rfl).1,
        any_congr_of_mem fun xi hxi => (hf.sorts _ _ _ _ (hitem xi hxi) rfl).2⟩
    | _ => exact ⟨rfl, rfl⟩

end Lists

/-! ## The configuration's groups

Each group is written again as a list of settings that each decode their own part of the record
(`Field.on`); these are the groups of the decoder, by definition. -/

/-- Metrics settings alike: equal, but for the labels, which are alike as maps. -/
structure MetricsSettings.Alike (m m' : MetricsSettings) : Prop where
  enabled : m.enabled = m'.enabled
  space : m.space = m'.space
  listen : m.listen = m'.listen
  labels : LabelsAlike m.labels m'.labels

theorem MetricsSettings.alike_equivalence : Equivalence MetricsSettings.Alike where
  refl _ := ⟨rfl, rfl, rfl, labelsAlike_equivalence.refl _⟩
  symm h := ⟨h.enabled.symm, h.space.symm, h.listen.symm, labelsAlike_equivalence.symm h.labels⟩
  trans h h' := ⟨h.enabled.trans h'.enabled, h.space.trans h'.space, h.listen.trans h'.listen,
    labelsAlike_equivalence.trans h.labels h'.labels⟩

section Groups

variable (root : String) (strict : Bool)

/-- The scheduler's settings. -/
def schedulerEntries : List (String × Field Scheduler) :=
  [("name", Field.on Scheduler.name (fun c x => { c with name := x }) (strValue root)),
   ("workers", Field.on Scheduler.workers (fun c x => { c with workers := x }) (intValue root)),
   ("queue_size", Field.on Scheduler.queueSize (fun c x => { c with queueSize := x })
      (intValue root)),
   ("min_period", Field.on Scheduler.minPeriod (fun c x => { c with minPeriod := x })
      (strValue root)),
   ("max_sleep", Field.on Scheduler.maxSleep (fun c x => { c with maxSleep := x }) (strValue root))]

theorem schedulerField_eq :
    schedulerField root strict = group root "config.SchedulerConfig" strict (schedulerEntries root) :=
  rfl

theorem orderless_schedulerEntries : ∀ e ∈ schedulerEntries root, e.2.Orderless Eq := by
  intro e he
  simp only [schedulerEntries, List.mem_cons, List.not_mem_nil, or_false] at he
  rcases he with rfl | rfl | rfl | rfl | rfl
  all_goals first | exact (orderless_strValue root).on_eq | exact (orderless_intValue root).on_eq

theorem commute_schedulerEntries :
    ∀ e₁ ∈ schedulerEntries root, ∀ e₂ ∈ schedulerEntries root, e₁.1 ≠ e₂.1 → e₁.2.Commute e₂.2 := by
  intro e₁ h₁ e₂ h₂ hne
  simp only [schedulerEntries, List.mem_cons, List.not_mem_nil, or_false] at h₁ h₂
  -- settings of distinct names write distinct fields of the record
  rcases h₁ with rfl | rfl | rfl | rfl | rfl <;> rcases h₂ with rfl | rfl | rfl | rfl | rfl
  all_goals first
    | exact absurd rfl hne
    | exact Field.Commute.on (fun _ _ => rfl) (fun _ _ => rfl) (fun _ _ _ => rfl)

theorem orderless_schedulerField : (schedulerField root strict).Orderless Eq := by
  rw [schedulerField_eq]
  exact Field.Orderless.group eq_equivalence (orderless_schedulerEntries root)
    (commute_schedulerEntries root)

/-- The logging settings. -/
def loggingEntries : List (String × Field Logging) :=
  [("level", Field.on Logging.level (fun c x => { c with level := x }) (strValue root)),
   ("format", Field.on Logging.format (fun c x => { c with format := x }) (strValue root))]

theorem loggingField_eq :
    loggingField root strict = group root "config.LoggingConfig" strict (loggingEntries root) :=
  rfl

theorem orderless_loggingEntries : ∀ e ∈ loggingEntries root, e.2.Orderless Eq := by
  intro e he
  simp only [loggingEntries, List.mem_cons, List.not_mem_nil, or_false] at he
  rcases he with rfl | rfl <;> exact (orderless_strValue root).on_eq

theorem commute_loggingEntries :
    ∀ e₁ ∈ loggingEntries root, ∀ e₂ ∈ loggingEntries root, e₁.1 ≠ e₂.1 → e₁.2.Commute e₂.2 := by
  intro e₁ h₁ e₂ h₂ hne
  simp only [loggingEntries, List.mem_cons, List.not_mem_nil, or_false] at h₁ h₂
  rcases h₁ with rfl | rfl <;> rcases h₂ with rfl | rfl
  all_goals first
    | exact absurd rfl hne
    | exact Field.Commute.on (fun _ _ => rfl) (fun _ _ => rfl) (fun _ _ _ => rfl)

theorem orderless_loggingField : (loggingField root strict).Orderless Eq := by
  rw [loggingField_eq]
  exact Field.Orderless.group eq_equivalence (orderless_loggingEntries root)
    (commute_loggingEntries root)

/-- The metrics settings. -/
def metricsEntries : List (String × Field MetricsSettings) :=
  [("enabled", Field.on MetricsSettings.enabled (fun c x => { c with enabled := x })
      (boolValue root)),
   ("namespace", Field.on MetricsSettings.space (fun c x => { c with space := x }) (strValue root)),
   ("listen", Field.on MetricsSettings.listen (fun c x => { c with listen := x }) (strValue root)),
   ("labels", Field.on MetricsSettings.labels (fun c x => { c with labels := x }) (labelMap root))]

theorem metricsField_eq :
    metricsField root strict = group root "config.MetricsConfig" strict (metricsEntries root) :=
  rfl

theorem orderless_metricsEntries : ∀ e ∈ metricsEntries root, e.2.Orderless MetricsSettings.Alike := by
  intro e he
  simp only [metricsEntries, List.mem_cons, List.not_mem_nil, or_false] at he
  rcases he with rfl | rfl | rfl | rfl
  · exact (orderless_boolValue root).on (fun _ _ h => h.enabled)
      fun _ _ _ _ h hx => ⟨hx, h.space, h.listen, h.labels⟩
  · exact (orderless_strValue root).on (fun _ _ h => h.space)
      fun _ _ _ _ h hx => ⟨h.enabled, hx, h.listen, h.labels⟩
  · exact (orderless_strValue root).on (fun _ _ h => h.listen)
      fun _ _ _ _ h hx => ⟨h.enabled, h.space, hx, h.labels⟩
  · exact (orderless_labelMap root).on (fun _ _ h => h.labels)
      fun _ _ _ _ h hx => ⟨h.enabled, h.space, h.listen, hx⟩

theorem commute_metricsEntries :
    ∀ e₁ ∈ metricsEntries root, ∀ e₂ ∈ metricsEntries root, e₁.1 ≠ e₂.1 → e₁.2.Commute e₂.2 := by
  intro e₁ h₁ e₂ h₂ hne
  simp only [metricsEntries, List.mem_cons, List.not_mem_nil, or_false] at h₁ h₂
  rcases h₁ with rfl | rfl | rfl | rfl <;> rcases h₂ with rfl | rfl | rfl | rfl
  all_goals first
    | exact absurd rfl hne
    | exact Field.Commute.on (fun _ _ => rfl) (fun _ _ => rfl) (fun _ _ _ => rfl)

theorem orderless_metricsField : (metricsField root strict).Orderless MetricsSettings.Alike := by
  rw [metricsField_eq]
  exact Field.Orderless.group MetricsSettings.alike_equivalence (orderless_metricsEntries root)
    (commute_metricsEntries root)

/-- A timer's settings. -/
def timerEntries : List (String × Field TimerSettings) :=
  [("name", Field.on TimerSettings.name (fun c x => { c with name := x }) (strValue root)),
   ("kind", Field.on TimerSettings.kind (fun c x => { c with kind := x }) (strValue root)),
   ("period", Field.on TimerSettings.period (fun c x => { c with period := x }) (strValue root)),
   ("initial_period", Field.on TimerSettings.initialPeriod
      (fun c x => { c with initialPeriod := x }) (strValue root)),
   ("cron", Field.on TimerSettings.cron (fun c x => { c with cron := x }) (strValue root)),
   ("location", Field.on TimerSettings.location (fun c x => { c with location := x })
      (strValue root))]

theorem timerField_eq :
    timerField root strict = group root "config.TimerConfig" strict (timerEntries root) :=
  rfl

theorem orderless_timerEntries : ∀ e ∈ timerEntries root, e.2.Orderless Eq := by
  intro e he
  simp only [timerEntries, List.mem_cons, List.not_mem_nil, or_false] at he
  rcases he with rfl | rfl | rfl | rfl | rfl | rfl <;> exact (orderless_strValue root).on_eq

theorem commute_timerEntries :
    ∀ e₁ ∈ timerEntries root, ∀ e₂ ∈ timerEntries root, e₁.1 ≠ e₂.1 → e₁.2.Commute e₂.2 := by
  intro e₁ h₁ e₂ h₂ hne
  simp only [timerEntries, List.mem_cons, List.not_mem_nil, or_false] at h₁ h₂
  rcases h₁ with rfl | rfl | rfl | rfl | rfl | rfl <;>
    rcases h₂ with rfl | rfl | rfl | rfl | rfl | rfl
  all_goals first
    | exact absurd rfl hne
    | exact Field.Commute.on (fun _ _ => rfl) (fun _ _ => rfl) (fun _ _ _ => rfl)

theorem orderless_timerField : (timerField root strict).Orderless Eq := by
  rw [timerField_eq]
  exact Field.Orderless.group eq_equivalence (orderless_timerEntries root)
    (commute_timerEntries root)

/-- A check's settings. -/
def checkEntries : List (String × Field CheckSettings) :=
  [("name", Field.on CheckSettings.name (fun c x => { c with name := x }) (strValue root)),
   ("url", Field.on CheckSettings.url (fun c x => { c with url := x }) (strValue root)),
   ("method", Field.on CheckSettings.method (fun c x => { c with method := x }) (strValue root)),
   ("interval", Field.on CheckSettings.interval (fun c x => { c with interval := x })
      (strValue root)),
   ("timeout", Field.on CheckSettings.timeout (fun c x => { c with timeout := x }) (strValue root))]

theorem checkField_eq :
    checkField root strict = group root "config.CheckConfig" strict (checkEntries root) :=
  rfl

theorem orderless_checkEntries : ∀ e ∈ checkEntries root, e.2.Orderless Eq := by
  intro e he
  simp only [checkEntries, List.mem_cons, List.not_mem_nil, or_false] at he
  rcases he with rfl | rfl | rfl | rfl | rfl <;> exact (orderless_strValue root).on_eq

theorem commute_checkEntries :
    ∀ e₁ ∈ checkEntries root, ∀ e₂ ∈ checkEntries root, e₁.1 ≠ e₂.1 → e₁.2.Commute e₂.2 := by
  intro e₁ h₁ e₂ h₂ hne
  simp only [checkEntries, List.mem_cons, List.not_mem_nil, or_false] at h₁ h₂
  rcases h₁ with rfl | rfl | rfl | rfl | rfl <;> rcases h₂ with rfl | rfl | rfl | rfl | rfl
  all_goals first
    | exact absurd rfl hne
    | exact Field.Commute.on (fun _ _ => rfl) (fun _ _ => rfl) (fun _ _ _ => rfl)

theorem orderless_checkField : (checkField root strict).Orderless Eq := by
  rw [checkField_eq]
  exact Field.Orderless.group eq_equivalence (orderless_checkEntries root)
    (commute_checkEntries root)

end Groups

end Config

/-- Configurations alike: equal, but for the metrics labels, which are alike as maps. -/
structure Settings.Alike (c c' : Settings) : Prop where
  scheduler : c.scheduler = c'.scheduler
  logging : c.logging = c'.logging
  metrics : c.metrics.Alike c'.metrics
  timers : c.timers = c'.timers
  checks : c.checks = c'.checks

theorem Settings.alike_equivalence : Equivalence Settings.Alike where
  refl _ := ⟨rfl, rfl, Config.MetricsSettings.alike_equivalence.refl _, rfl, rfl⟩
  symm h := ⟨h.scheduler.symm, h.logging.symm,
    Config.MetricsSettings.alike_equivalence.symm h.metrics, h.timers.symm, h.checks.symm⟩
  trans h h' := ⟨h.scheduler.trans h'.scheduler, h.logging.trans h'.logging,
    Config.MetricsSettings.alike_equivalence.trans h.metrics h'.metrics, h.timers.trans h'.timers,
    h.checks.trans h'.checks⟩

namespace Config

/-- The configuration's groups. -/
def settingsEntries (strict : Bool) : List (String × Field Settings) :=
  [("scheduler", Field.on Settings.scheduler (fun c x => { c with scheduler := x })
      (schedulerField "Config" strict)),
   ("logging", Field.on Settings.logging (fun c x => { c with logging := x })
      (loggingField "Config" strict)),
   ("metrics", Field.on Settings.metrics (fun c x => { c with metrics := x })
      (metricsField "Config" strict)),
   ("timers", Field.on Settings.timers (fun c x => { c with timers := x })
      (listOf "Config" "[]config.TimerConfig" (timerField "Config" strict) default)),
   ("checks", Field.on Settings.checks (fun c x => { c with checks := x })
      (listOf "Config" "[]config.CheckConfig" (checkField "Config" strict) default))]

theorem settingsField_eq (strict : Bool) :
    settingsField strict = group "Config" "config.Config" strict (settingsEntries strict) :=
  rfl

theorem orderless_settingsEntries (strict : Bool) : ∀ e ∈ settingsEntries strict, e.2.Orderless Settings.Alike := by
  intro e he
  simp only [settingsEntries, List.mem_cons, List.not_mem_nil, or_false] at he
  rcases he with rfl | rfl | rfl | rfl | rfl
  · exact (orderless_schedulerField _ _).on (fun _ _ h => h.scheduler)
      fun _ _ _ _ h hx => ⟨hx, h.logging, h.metrics, h.timers, h.checks⟩
  · exact (orderless_loggingField _ _).on (fun _ _ h => h.logging)
      fun _ _ _ _ h hx => ⟨h.scheduler, hx, h.metrics, h.timers, h.checks⟩
  · exact (orderless_metricsField _ _).on (fun _ _ h => h.metrics)
      fun _ _ _ _ h hx => ⟨h.scheduler, h.logging, hx, h.timers, h.checks⟩
  · exact ((orderless_timerField _ _).listOf _ _ _).on (fun _ _ h => h.timers)
      fun _ _ _ _ h hx => ⟨h.scheduler, h.logging, h.metrics, hx, h.checks⟩
  · exact ((orderless_checkField _ _).listOf _ _ _).on (fun _ _ h => h.checks)
      fun _ _ _ _ h hx => ⟨h.scheduler, h.logging, h.metrics, h.timers, hx⟩

theorem commute_settingsEntries (strict : Bool) :
    ∀ e₁ ∈ settingsEntries strict, ∀ e₂ ∈ settingsEntries strict, e₁.1 ≠ e₂.1 → e₁.2.Commute e₂.2 := by
  intro e₁ h₁ e₂ h₂ hne
  simp only [settingsEntries, List.mem_cons, List.not_mem_nil, or_false] at h₁ h₂
  rcases h₁ with rfl | rfl | rfl | rfl | rfl <;> rcases h₂ with rfl | rfl | rfl | rfl | rfl
  all_goals first
    | exact absurd rfl hne
    | exact Field.Commute.on (fun _ _ => rfl) (fun _ _ => rfl) (fun _ _ _ => rfl)

theorem orderless_settingsField (strict : Bool) : (settingsField strict).Orderless Settings.Alike := by
  rw [settingsField_eq]
  exact Field.Orderless.group Settings.alike_equivalence (orderless_settingsEntries strict)
    (commute_settingsEntries strict)

end Config

namespace Settings

/-- Decoding gives the configuration it decodes when it meets no fault. -/
theorem decode_toOption (strict : Bool) (j : Json) (base : Settings) :
    (decode strict j base).toOption =
      if Config.faults (Config.settingsField strict [] j base) then none
      else some (Config.value (Config.settingsField strict [] j base)) := by
  unfold decode Config.faults Config.value
  rcases (Config.settingsField strict [] j base).run none with ⟨c, _ | e⟩ <;> rfl

/-- A case-distinct document decodes alike with every object's members in key order: both
decodings fail, or both give configurations alike. -/
theorem decode_sortKeys (strict : Bool) {j : Json} (hj : j.CaseDistinct) (base : Settings) :
    Option.Rel Alike (decode strict j base).toOption (decode strict j.sortKeys base).toOption := by
  obtain ⟨hv, hf⟩ := (Config.orderless_settingsField strict).sorts [] j base base hj
    (alike_equivalence.refl base)
  rw [decode_toOption, decode_toOption, hf]
  split
  · exact Option.Rel.none
  · exact Option.Rel.some hv

end Settings

end HostDispatch
