import HostDispatch.Proofs.Config.Schema
import HostDispatch.Proofs.Config.Validity

/-!
# YAML and JSON configuration files

A configuration file is read as YAML or as JSON by its name. A YAML file is read as a tree and
written as JSON text with every object's members in key order, since a YAML map keeps no order;
that text is then read as a JSON file is. The two formats meet in one strict decoder and differ
only in the order in which it sees each object's members.

Main statement: `Settings.yaml_and_json_read_alike`. Take a YAML text that reads as a tree, and a
JSON text that holds the same tree up to the order of members (numbers written as JSON writes
them). When no object of the tree has two keys equal up to case, both files fail or both give
configurations alike. In both formats a setting the tree does not name keeps its default, and a
key that names no setting, even up to case, makes both fail. A JSON text with anything but blanks
after its first value fails.

Keys equal up to case are where the formats part: the decoder matches a key to a setting up to
case, so two such keys set one setting and the later one wins, which in JSON is the later in the
text and in YAML the later in key order (`keys_equal_up_to_case_read_apart`).
-/

namespace HostDispatch

namespace Settings

variable {c c' : Settings}

/-- The configuration a reading gives, if it gives one. -/
def Outcome.ok? : Outcome → Option Settings
  | .ok c => some c
  | _ => none

theorem except_eq_ok_of_toOption {ε α : Type} {x : Except ε α} {a : α} (h : x.toOption = some a) :
    x = .ok a := by
  cases x with
  | error e => cases h
  | ok b => cases h; rfl

/-! ## Checking alike configurations -/

/-- Checking reads no metrics setting, so alike configurations check alike. -/
theorem validate_congr (h : c.Alike c') : c.validate = c'.validate := by
  obtain ⟨s, l, m, t, k⟩ := c
  obtain ⟨s', l', m', t', k'⟩ := c'
  obtain ⟨rfl, rfl, -, rfl, rfl⟩ := h
  rfl

theorem settle_congr (h : c.Alike c') : Option.Rel Alike (settle c).ok? (settle c').ok? := by
  unfold settle
  rw [← validate_congr h]
  cases c.validate with
  | error m => exact .none
  | ok o =>
    cases o with
    | none => exact .some h
    | some f => exact .none

theorem eq_of_settle {c₀ : Settings} (h : (settle c₀).ok? = some c) : c₀ = c := by
  unfold settle at h
  split at h
  · cases h
  · cases h
  · exact Option.some.inj h

theorem ok?_parse (path text : String) :
    (parse path text).ok? = (read path text).toOption.bind fun c => (settle c).ok? := by
  unfold parse
  cases read path text <;> rfl

/-- A configuration a file gives is the one it reads. -/
theorem read_of_ok? {path text : String} (h : (parse path text).ok? = some c) :
    read path text = .ok c := by
  rw [ok?_parse] at h
  obtain ⟨c₀, hc₀, hs⟩ := Option.bind_eq_some_iff.mp h
  rw [← eq_of_settle hs]
  cases hr : read path text with
  | error f => rw [hr] at hc₀; cases hc₀
  | ok c₁ => rw [hr] at hc₀; cases hc₀; rfl

/-- Readings alike are checked alike. -/
theorem parse_alike {path path' text text' : String}
    (h : Option.Rel Alike (read path text).toOption (read path' text').toOption) :
    Option.Rel Alike (parse path text).ok? (parse path' text').ok? := by
  rw [ok?_parse, ok?_parse]
  generalize (read path text).toOption = a at h ⊢
  generalize (read path' text').toOption = b at h ⊢
  cases h with
  | none => exact .none
  | some hc => exact settle_congr hc

/-! ## What each format hands to the decoder -/

theorem trailing_eq_none_iff (rest : List Char) (format path : String) :
    trailing rest format path = none ↔ Json.next rest = .finished := by
  unfold trailing
  split
  · simp_all
  · simp_all
  · split <;> simp_all

/-- JSON text is its first value decoded, when nothing but blanks follows it. -/
theorem ofJsonText_toOption {format path : String} {cs : List Char} {j : Json} {rest : List Char}
    (hn : Json.next cs = .value j rest) :
    (ofJsonText format path cs).toOption =
      if Json.next rest = .finished then (decode true j defaults).toOption else none := by
  unfold ofJsonText
  simp only [hn]
  cases hd : decode true j defaults with
  | error e =>
    -- a decoding fault is thrown before what follows is looked at
    simp [Except.mapError, bind, Except.bind, Except.toOption]
  | ok c =>
    cases ht : trailing rest format path with
    | none =>
      rw [if_pos ((trailing_eq_none_iff rest format path).mp ht)]
      simp [Except.mapError, bind, Except.bind, Except.toOption, pure, Except.pure]
    | some f =>
      have hf : Json.next rest ≠ .finished := fun h => by
        rw [(trailing_eq_none_iff rest format path).mpr h] at ht
        cases ht
      rw [if_neg hf]
      simp [Except.mapError, bind, Except.bind, Except.toOption, throw, throwThe,
        MonadExceptOf.throw]

/-- A JSON file is its first value decoded, when nothing but blanks follows it. -/
theorem read_json {path text : String} {j : Json} {rest : List Char}
    (hp : isYaml path = false) (hn : Json.next text.toList = .value j rest) :
    (read path text).toOption =
      if Json.next rest = .finished then (decode true j defaults).toOption else none := by
  unfold read
  rw [hp, if_neg Bool.false_ne_true]
  exact ofJsonText_toOption hn

/-- A YAML file is the tree it reads as, each object's members in key order, decoded. -/
theorem read_yaml {path text : String} {j : Json} (hp : isYaml path = true)
    (hy : Yaml.toJson text = .ok (some j)) (hl : j.Literal) :
    (read path text).toOption = (decode true j.sortKeys defaults).toOption := by
  unfold read
  rw [hp, if_pos rfl, hy]
  exact (ofJsonText_toOption (Json.next_render hl)).trans (if_pos rfl)

end Settings

namespace Json

/-- Digits that do not start with a zero are a number as JSON writes it. -/
theorem numberText_of_digits {t : String} (hd : Digits t.toList) (h0 : t.toList.head? ≠ some '0') :
    NumberText t :=
  ⟨[], t.toList, [], [], by simp, .inl rfl, .inr ⟨hd, h0⟩, .inl rfl, .inl rfl⟩

end Json

namespace Config

/-- Putting members in key order keeps a key that names no setting, at any depth. -/
theorem Shape.Stray.sortKeys {s : Shape} {j : Json} (h : s.Stray j) : s.Stray j.sortKeys := by
  induction h with
  | @unknown fs ms kv hkv hn =>
    rw [sortKeys_obj]
    have hmem : (kv.1, kv.2.sortKeys) ∈ Json.sortMembers (ms.map fun kv => (kv.1, kv.2.sortKeys)) :=
      (Json.perm_sortMembers _).mem_iff.mpr (List.mem_map_of_mem hkv)
    exact @Stray.unknown fs _ (kv.1, kv.2.sortKeys) hmem hn
  | @within fs ms kv sf hkv he _ ih =>
    rw [sortKeys_obj]
    have hmem : (kv.1, kv.2.sortKeys) ∈ Json.sortMembers (ms.map fun kv => (kv.1, kv.2.sortKeys)) :=
      (Json.perm_sortMembers _).mem_iff.mpr (List.mem_map_of_mem hkv)
    exact @Stray.within fs _ (kv.1, kv.2.sortKeys) sf hmem he ih
  | item hx _ ih =>
    rw [sortKeys_arr]
    exact .item (List.mem_map_of_mem hx) ih

end Config

namespace Settings

/-- What a YAML file and a JSON file that hold one tree `T` promise. -/
structure ReadAlike (T : Json) (yamlPath yamlText jsonPath jsonText : String) : Prop where
  /-- When no object of the tree has two keys equal up to case, both fail or both give
  configurations alike. -/
  alike : T.CaseDistinct →
    Option.Rel Alike (parse yamlPath yamlText).ok? (parse jsonPath jsonText).ok?
  /-- A configuration either gives keeps the default of every setting the tree does not name,
  even up to case. -/
  keeps : ∀ c, (parse yamlPath yamlText).ok? = some c ∨ (parse jsonPath jsonText).ok? = some c →
    ∀ s ∈ Settings.all, ¬ T.Mentions s.path → s.read c = s.read defaults
  /-- A key that names no setting, even up to case, at any depth, makes both fail. -/
  stray : Config.settingsShape.Stray T →
    (parse yamlPath yamlText).ok? = none ∧ (parse jsonPath jsonText).ok? = none
  /-- A JSON file with anything but blanks after its first value fails. -/
  trailingData : ∀ (text : String) (j : Json) (more : List Char),
    Json.next text.toList = .value j more → Json.next more ≠ .finished →
      (parse jsonPath text).ok? = none

/-- **YAML and JSON files are read alike.** A YAML file and a JSON file that hold the same tree, up
to the order of object members, keep every promise of `ReadAlike`. -/
theorem yaml_and_json_read_alike {T T' : Json} {yamlPath jsonPath yamlText jsonText : String}
    {rest : List Char} (hyp : isYaml yamlPath = true) (hjp : isYaml jsonPath = false)
    (hY : Yaml.toJson yamlText = .ok (some T')) (hT' : T'.sortKeys = T.sortKeys) (hL : T'.Literal)
    (hJ : Json.next jsonText.toList = .value T rest) (hend : Json.next rest = .finished) :
    ReadAlike T yamlPath yamlText jsonPath jsonText := by
  -- the YAML file decodes the tree in key order, the JSON file the tree as written
  have hyaml : (read yamlPath yamlText).toOption = (decode true T.sortKeys defaults).toOption := by
    rw [read_yaml hyp hY hL, hT']
  have hjson : (read jsonPath jsonText).toOption = (decode true T defaults).toOption := by
    rw [read_json hjp hJ, if_pos hend]
  refine ⟨fun hT => ?_, fun c hc s hs hn => ?_, fun hs => ⟨?_, ?_⟩, fun text j more hn hmore => ?_⟩
  · apply parse_alike
    rw [hyaml, hjson]
    have hrel := decode_sortKeys true hT defaults
    generalize (decode true T defaults).toOption = a at hrel ⊢
    generalize (decode true T.sortKeys defaults).toOption = b at hrel ⊢
    cases hrel with
    | none => exact .none
    | some h => exact .some (alike_equivalence.symm h)
  · rcases hc with hc | hc
    · have hr : (read yamlPath yamlText).toOption = some c := by rw [read_of_ok? hc]; rfl
      rw [hyaml] at hr
      exact decode_keeps (except_eq_ok_of_toOption hr) s hs fun hm => hn (Json.Mentions.of_sortKeys hm)
    · have hr : (read jsonPath jsonText).toOption = some c := by rw [read_of_ok? hc]; rfl
      rw [hjson] at hr
      exact decode_keeps (except_eq_ok_of_toOption hr) s hs hn
  · rw [ok?_parse, hyaml, decode_stray hs.sortKeys]
    rfl
  · rw [ok?_parse, hjson, decode_stray hs]
    rfl
  · rw [ok?_parse, read_json hjp hn, if_neg hmore]
    rfl

/-- A scheduler and a logging group, written in YAML and in JSON in other orders, are read alike. -/
theorem scheduler_and_logging_read_alike :
    isYaml "c.yaml" = true ∧ isYaml "c.json" = false ∧
    Yaml.toJson "scheduler:\n  workers: 2\nlogging:\n  level: debug\n" =
      .ok (some (.obj [("logging", .obj [("level", .str "debug")]),
        ("scheduler", .obj [("workers", .num "2")])])) ∧
    Json.sortKeys (.obj [("logging", .obj [("level", .str "debug")]),
        ("scheduler", .obj [("workers", .num "2")])]) =
      Json.sortKeys (.obj [("scheduler", .obj [("workers", .num "2")]),
        ("logging", .obj [("level", .str "debug")])]) ∧
    Json.Literal (.obj [("logging", .obj [("level", .str "debug")]),
        ("scheduler", .obj [("workers", .num "2")])]) ∧
    Json.next "\x7b\"scheduler\":\x7b\"workers\":2\x7d,\"logging\":\x7b\"level\":\"debug\"\x7d\x7d".toList =
      .value (.obj [("scheduler", .obj [("workers", .num "2")]),
        ("logging", .obj [("level", .str "debug")])]) [] ∧
    Json.next [] = .finished ∧
    ReadAlike (.obj [("scheduler", .obj [("workers", .num "2")]),
        ("logging", .obj [("level", .str "debug")])]) "c.yaml"
      "scheduler:\n  workers: 2\nlogging:\n  level: debug\n" "c.json"
      "\x7b\"scheduler\":\x7b\"workers\":2\x7d,\"logging\":\x7b\"level\":\"debug\"\x7d\x7d" := by
  have hY : Yaml.toJson "scheduler:\n  workers: 2\nlogging:\n  level: debug\n" =
      .ok (some (.obj [("logging", .obj [("level", .str "debug")]),
        ("scheduler", .obj [("workers", .num "2")])])) :=
    except_eq_ok_of_toOption (by decide +kernel)
  have hT' : Json.sortKeys (.obj [("logging", .obj [("level", .str "debug")]),
        ("scheduler", .obj [("workers", .num "2")])]) =
      Json.sortKeys (.obj [("scheduler", .obj [("workers", .num "2")]),
        ("logging", .obj [("level", .str "debug")])]) := by decide +kernel
  have hL : Json.Literal (.obj [("logging", .obj [("level", .str "debug")]),
      ("scheduler", .obj [("workers", .num "2")])]) := by
    intro t ht
    simp [Json.numbers] at ht
    subst ht
    exact Json.numberText_of_digits ⟨by simp, by simp⟩ (by simp)
  have hJ : Json.next "\x7b\"scheduler\":\x7b\"workers\":2\x7d,\"logging\":\x7b\"level\":\"debug\"\x7d\x7d".toList =
      .value (.obj [("scheduler", .obj [("workers", .num "2")]),
        ("logging", .obj [("level", .str "debug")])]) [] := by decide +kernel
  have hy : isYaml "c.yaml" = true := by decide +kernel
  have hj : isYaml "c.json" = false := by decide +kernel
  exact ⟨hy, hj, hY, hT', hL, hJ, rfl, yaml_and_json_read_alike hy hj hY hT' hL hJ rfl⟩

/-- Two keys equal up to case name one setting, and the later one wins: in JSON the later in the
text, in YAML the later in key order, where `Workers` comes before `workers`. So a scheduler with
`workers: 1` and `Workers: 2` gets one worker from YAML and two from JSON, though both files hold
the same tree. -/
theorem keys_equal_up_to_case_read_apart :
    isYaml "x.yaml" = true ∧ isYaml "x.json" = false ∧
    Yaml.toJson "scheduler:\n  workers: 1\n  Workers: 2\n" =
      .ok (some (.obj [("scheduler", .obj [("Workers", .num "2"), ("workers", .num "1")])])) ∧
    Json.sortKeys (.obj [("scheduler", .obj [("Workers", .num "2"), ("workers", .num "1")])]) =
      Json.sortKeys (.obj [("scheduler", .obj [("workers", .num "1"), ("Workers", .num "2")])]) ∧
    Json.Literal (.obj [("scheduler", .obj [("Workers", .num "2"), ("workers", .num "1")])]) ∧
    Json.next "\x7b\"scheduler\":\x7b\"workers\":1,\"Workers\":2\x7d\x7d".toList =
      .value (.obj [("scheduler", .obj [("workers", .num "1"), ("Workers", .num "2")])]) [] ∧
    Json.next [] = .finished ∧
    (parse "x.yaml" "scheduler:\n  workers: 1\n  Workers: 2\n").ok?.map (·.scheduler.workers) =
      some 1 ∧
    (parse "x.json" "\x7b\"scheduler\":\x7b\"workers\":1,\"Workers\":2\x7d\x7d").ok?.map
      (·.scheduler.workers) = some 2 ∧
    ¬ Option.Rel Alike (parse "x.yaml" "scheduler:\n  workers: 1\n  Workers: 2\n").ok?
      (parse "x.json" "\x7b\"scheduler\":\x7b\"workers\":1,\"Workers\":2\x7d\x7d").ok? := by
  have hL : Json.Literal (.obj [("scheduler", .obj [("Workers", .num "2"), ("workers", .num "1")])]) := by
    intro t ht
    simp [Json.numbers] at ht
    rcases ht with rfl | rfl <;> exact Json.numberText_of_digits ⟨by simp, by simp⟩ (by simp)
  have hyaml : (parse "x.yaml" "scheduler:\n  workers: 1\n  Workers: 2\n").ok?.map
      (·.scheduler.workers) = some 1 := by decide +kernel
  have hjson : (parse "x.json" "\x7b\"scheduler\":\x7b\"workers\":1,\"Workers\":2\x7d\x7d").ok?.map
      (·.scheduler.workers) = some 2 := by decide +kernel
  refine ⟨by decide +kernel, by decide +kernel, except_eq_ok_of_toOption (by decide +kernel),
    by decide +kernel, hL, by decide +kernel, rfl, hyaml, hjson, fun hrel => ?_⟩
  generalize (parse "x.yaml" "scheduler:\n  workers: 1\n  Workers: 2\n").ok? = a at hrel hyaml
  generalize (parse "x.json" "\x7b\"scheduler\":\x7b\"workers\":1,\"Workers\":2\x7d\x7d").ok? = b
    at hrel hjson
  cases hrel with
  | none => cases hyaml
  | some h =>
    simp only [Option.map_some, Option.some.injEq] at hyaml hjson
    rw [h.scheduler] at hyaml
    omega

end Settings

end HostDispatch
