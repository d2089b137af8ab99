import HealthWatch.Proofs.AcceptedConfig

/-!
# Which configurations are accepted

The rules of a configuration are stated here without an order: `Config.Valid` says what each
setting and each dependency must satisfy, and `Violation.Broken` says what it means that one
rule is broken.  Checking looks at the settings one after another and then at the dependencies
in whatever order they come (`Config.check`).  It accepts exactly the valid configurations, as
they are, and tells of the others a broken rule: the first one on the settings if there is one,
and otherwise one of a dependency (`parse_validates`).
-/

namespace HealthWatch

/-! ## What is blank -/

namespace Text

/-- The code points that have the property White_Space. -/
def WhiteSpace (n : Nat) : Prop :=
  (0x09 ≤ n ∧ n ≤ 0x0d) ∨ n = 0x20 ∨ n = 0x85 ∨ n = 0xa0 ∨ n = 0x1680 ∨
    (0x2000 ≤ n ∧ n ≤ 0x200a) ∨ n = 0x2028 ∨ n = 0x2029 ∨ n = 0x202f ∨ n = 0x205f ∨ n = 0x3000

/-- A text in which nothing but white space stands. -/
def Blank (s : String) : Prop := ∀ c ∈ s.toList, WhiteSpace c.toNat

theorem isWhiteSpace_iff (c : Char) : isWhiteSpace c = true ↔ WhiteSpace c.toNat := by
  simp only [isWhiteSpace, whiteSpaces, List.contains_eq_mem, decide_eq_true_eq, List.mem_cons,
    List.not_mem_nil, or_false, WhiteSpace]
  omega

theorem isBlank_iff (s : String) : isBlank s = true ↔ Blank s := by
  simp only [isBlank, List.all_eq_true, isWhiteSpace_iff, Blank]

end Text

open HealthWatch.Text

/-! ## What is valid -/

/-- A kind that can be reached: its address or its connection string is not blank, or its
scheme is one of the two that can be asked. -/
def DependencyKind.Sound : DependencyKind → Prop
  | .tcp address | .redis address _ _ => ¬Blank address
  | .postgres url | .mongo url => ¬Blank url
  | .http url _ => url.scheme = "http" ∨ url.scheme = "https"

/-- A dependency that is valid under its name, be it enabled or not. -/
structure DependencyConfig.Valid (name : String) (d : DependencyConfig) : Prop where
  name : ¬Blank name
  delay : d.connectRetryDelaySecs ≤ 3600
  kind : d.kind.Sound

/-- A configuration all of whose settings are within their limits and all of whose dependencies
are valid. -/
structure Config.Valid (c : Config) : Prop where
  interval : 1 ≤ c.health.intervalSecs ∧ c.health.intervalSecs ≤ 86400
  ceiling : 1 ≤ c.health.probeCeilingSecs ∧ c.health.probeCeilingSecs ≤ 3600
  attempts : 1 ≤ c.health.retryAttempts
  delay : c.health.retryDelaySecs ≤ 3600
  path : c.metrics.enabled = true → ∃ rest, c.metrics.path = "/" ++ rest
  dependencies : ∀ name d, c.dependencies.get? name = some d → d.Valid name

/-! ## What is broken -/

/-- A dependency breaks a rule. -/
def DependencyViolation.Broken (d : DependencyConfig) : DependencyViolation → Prop
  | .delayTooLong => 3600 < d.connectRetryDelaySecs
  | .blankAddress => ∃ address, Blank address ∧
      (d.kind = .tcp address ∨ ∃ password db, d.kind = .redis address password db)
  | .blankConnectionString => ∃ url, Blank url ∧ (d.kind = .postgres url ∨ d.kind = .mongo url)
  | .unsupportedScheme scheme => ∃ url detailed, d.kind = .http url detailed ∧
      url.scheme = scheme ∧ scheme ≠ "http" ∧ scheme ≠ "https"

/-- A configuration breaks a rule. -/
def Violation.Broken (c : Config) : Violation → Prop
  | .intervalOutOfRange => ¬(1 ≤ c.health.intervalSecs ∧ c.health.intervalSecs ≤ 86400)
  | .ceilingOutOfRange => ¬(1 ≤ c.health.probeCeilingSecs ∧ c.health.probeCeilingSecs ≤ 3600)
  | .noAttempts => c.health.retryAttempts = 0
  | .delayTooLong => 3600 < c.health.retryDelaySecs
  | .relativeMetricsPath path =>
    c.metrics.enabled = true ∧ c.metrics.path = path ∧ ¬∃ rest, path = "/" ++ rest
  | .blankName => ∃ name d, c.dependencies.get? name = some d ∧ Blank name
  | .dependency name v => ∃ d, c.dependencies.get? name = some d ∧ v.Broken d

/-- The place of a rule: the settings in their order, then all that is asked of dependencies. -/
def Violation.rank : Violation → Nat
  | .intervalOutOfRange => 0
  | .ceilingOutOfRange => 1
  | .noAttempts => 2
  | .delayTooLong => 3
  | .relativeMetricsPath _ => 4
  | .blankName | .dependency .. => 5

/-- What is wrong with a dependency, as a message begins with it. -/
def DependencyViolation.subject : DependencyViolation → String
  | .delayTooLong => "connect_retry_delay_secs"
  | .blankAddress => "address"
  | .blankConnectionString => "connection string"
  | .unsupportedScheme scheme => "unsupported url scheme '" ++ scheme ++ "'"

/-- The setting or the dependency that breaks a rule, as a message begins with it. -/
def Violation.subject : Violation → String
  | .intervalOutOfRange => "health.interval_secs"
  | .ceilingOutOfRange => "health.probe_ceiling_secs"
  | .noAttempts => "health.retry_attempts"
  | .delayTooLong => "health.retry_delay_secs"
  | .relativeMetricsPath _ => "metrics.path"
  | .blankName => "dependency names"
  | .dependency name v => "invalid dependency '" ++ name ++ "': " ++ v.subject

theorem DependencyViolation.subject_message (v : DependencyViolation) :
    ∃ rest, v.message = v.subject ++ rest := by
  cases v with
  | delayTooLong => exact ⟨" must be at most 3600", by decide⟩
  | blankAddress => exact ⟨" must not be empty", by decide⟩
  | blankConnectionString => exact ⟨" must not be empty", by decide⟩
  | unsupportedScheme scheme => exact ⟨"", String.append_empty.symm⟩

/-- Every message names what breaks the rule. -/
theorem Violation.subject_message (v : Violation) : ∃ rest, v.message = v.subject ++ rest := by
  cases v with
  | intervalOutOfRange => exact ⟨" must be between 1 and 86400", by decide⟩
  | ceilingOutOfRange => exact ⟨" must be between 1 and 3600", by decide⟩
  | noAttempts => exact ⟨" must be at least 1", by decide⟩
  | delayTooLong => exact ⟨" must be at most 3600", by decide⟩
  | relativeMetricsPath path =>
      have hsplit : "metrics.path must start with '/': " =
          "metrics.path" ++ " must start with '/': " := by decide
      refine ⟨" must start with '/': " ++ path, ?_⟩
      calc (relativeMetricsPath path).message
          = "metrics.path must start with '/': " ++ path := rfl
        _ = "metrics.path" ++ (" must start with '/': " ++ path) := by
            rw [hsplit, String.append_assoc]
  | blankName => exact ⟨" must not be empty", by decide⟩
  | dependency name v =>
      obtain ⟨rest, hrest⟩ := v.subject_message
      have hcolon : "': " = "'" ++ ": " := by decide
      refine ⟨rest, ?_⟩
      calc (dependency name v).message
          = "invalid dependency '" ++ name ++ "'" ++ ": " ++ v.message := rfl
        _ = "invalid dependency '" ++ name ++ "': " ++ v.subject ++ rest := by
            rw [hrest, hcolon]
            simp only [String.append_assoc]

/-! ## One rule after another -/

/-- What is found of a kind of dependency is a rule that it breaks. -/
theorem DependencyKind.broken_of_violation {d : DependencyConfig} {v : DependencyViolation}
    (h : d.kind.violation? = some v) : v.Broken d := by
  unfold violation? at h
  split at h
  · next address hkind =>
    obtain ⟨hblank, hv⟩ := Option.ite_none_right_eq_some.mp h
    cases hv
    exact ⟨address, (isBlank_iff address).mp hblank, .inl hkind⟩
  · next address password db hkind =>
    obtain ⟨hblank, hv⟩ := Option.ite_none_right_eq_some.mp h
    cases hv
    exact ⟨address, (isBlank_iff address).mp hblank, .inr ⟨password, db, hkind⟩⟩
  · next url hkind =>
    obtain ⟨hblank, hv⟩ := Option.ite_none_right_eq_some.mp h
    cases hv
    exact ⟨url, (isBlank_iff url).mp hblank, .inl hkind⟩
  · next url hkind =>
    obtain ⟨hblank, hv⟩ := Option.ite_none_right_eq_some.mp h
    cases hv
    exact ⟨url, (isBlank_iff url).mp hblank, .inr hkind⟩
  · next url detailed hkind =>
    obtain ⟨hscheme, hv⟩ := Option.ite_none_left_eq_some.mp h
    cases hv
    exact ⟨url, detailed, hkind, rfl, not_or.mp hscheme⟩

/-- Nothing is found of a kind exactly if it is sound. -/
theorem DependencyKind.violation?_eq_none_iff (kind : DependencyKind) :
    kind.violation? = none ↔ kind.Sound := by
  cases kind with
  | tcp address => simp [violation?, Sound, ← isBlank_iff]
  | postgres url => simp [violation?, Sound, ← isBlank_iff]
  | mongo uri => simp [violation?, Sound, ← isBlank_iff]
  | redis address password db => simp [violation?, Sound, ← isBlank_iff]
  | http url detailed => simp [violation?, Sound, Decidable.or_iff_not_imp_left]

/-- Nothing is found of a dependency exactly if it is valid under its name. -/
theorem entryViolation?_eq_none_iff (name : String) (d : DependencyConfig) :
    entryViolation? (name, d) = none ↔ d.Valid name := by
  have hdelay : d.violation? = none ↔ d.connectRetryDelaySecs ≤ 3600 ∧ d.kind.Sound := by
    have hwait : maxWaitSecs = 3600 := rfl
    rw [DependencyConfig.violation?, ← DependencyKind.violation?_eq_none_iff, hwait]
    split
    · simp only [reduceCtorEq, false_iff]
      omega
    · next hshort => simp only [Nat.not_lt.mp hshort, true_and]
  have hname : entryViolation? (name, d) = none ↔ ¬Blank name ∧ d.violation? = none := by
    rw [entryViolation?, ← isBlank_iff]
    split
    · next hblank => simp [hblank]
    · next hblank => simp [hblank]
  rw [hname, hdelay]
  exact ⟨fun ⟨hblank, hwait, hsound⟩ => ⟨hblank, hwait, hsound⟩,
    fun h => ⟨h.name, h.delay, h.kind⟩⟩

namespace Config

variable {c : Config} {v : Violation}

/-- What is found of a dependency of a configuration is a rule that it breaks, and no rule on
the settings. -/
theorem entry_broken {name : String} {d : DependencyConfig}
    (hget : c.dependencies.get? name = some d) (h : entryViolation? (name, d) = some v) :
    v.Broken c ∧ v.rank = 5 := by
  rw [entryViolation?] at h
  split at h
  · next hblank =>
    cases h
    exact ⟨⟨name, d, hget, (isBlank_iff name).mp hblank⟩, rfl⟩
  · obtain ⟨w, hw, rfl⟩ := Option.map_eq_some_iff.mp h
    refine ⟨⟨d, hget, ?_⟩, rfl⟩
    rw [DependencyConfig.violation?] at hw
    split at hw
    · next hlong =>
      cases hw
      exact hlong
    · exact DependencyKind.broken_of_violation hw

/-- Nothing is found of the settings on probing exactly if they are within their limits. -/
theorem health_eq_none_iff : c.health.violation? = none ↔
    (1 ≤ c.health.intervalSecs ∧ c.health.intervalSecs ≤ 86400) ∧
      (1 ≤ c.health.probeCeilingSecs ∧ c.health.probeCeilingSecs ≤ 3600) ∧
      1 ≤ c.health.retryAttempts ∧ c.health.retryDelaySecs ≤ 3600 := by
  have hinterval : maxIntervalSecs = 86400 := rfl
  have hwait : maxWaitSecs = 3600 := rfl
  rw [HealthConfig.violation?]
  repeat' split
  all_goals simp only [reduceCtorEq, false_iff, true_iff]
  all_goals omega

/-- What is found of the settings on probing is the first of their rules that is broken. -/
theorem health_first (h : c.health.violation? = some v) :
    v.Broken c ∧ ∀ w : Violation, w.Broken c → v.rank ≤ w.rank := by
  have hinterval : maxIntervalSecs = 86400 := rfl
  have hwait : maxWaitSecs = 3600 := rfl
  rw [HealthConfig.violation?] at h
  -- a rule of a lesser rank is on a field that was looked at before
  repeat' split at h
  all_goals cases h
  all_goals
    refine ⟨by simp only [Violation.Broken]; omega, fun w hw => ?_⟩
    cases w <;> simp only [Violation.Broken, Violation.rank] at hw ⊢ <;> omega

/-- If the settings on probing are within their limits, a broken rule has a greater rank. -/
theorem four_le_rank (hhealth : c.health.violation? = none) {w : Violation} (hw : w.Broken c) :
    4 ≤ w.rank := by
  obtain ⟨hinterval, hceiling, hattempts, hdelay⟩ := health_eq_none_iff.mp hhealth
  cases w <;> simp only [Violation.Broken, Violation.rank] at hw ⊢ <;> omega

theorem head?_eq_slash_iff (path : String) :
    path.toList.head? = some '/' ↔ ∃ rest, path = "/" ++ rest := by
  constructor
  · intro h
    obtain ⟨rest, hrest⟩ := List.head?_eq_some_iff.mp h
    refine ⟨String.ofList rest, ?_⟩
    rw [← String.toList_inj, hrest]
    simp
  · rintro ⟨rest, rfl⟩
    rw [String.toList_append]
    rfl

/-- Nothing is found of the path exactly if it begins with a slash or is not shown. -/
theorem metrics_eq_none_iff : c.metrics.violation? = none ↔
    (c.metrics.enabled = true → ∃ rest, c.metrics.path = "/" ++ rest) := by
  simp only [MetricsConfig.violation?, ← head?_eq_slash_iff]
  simp

theorem metrics_broken (h : c.metrics.violation? = some v) : v.Broken c ∧ v.rank = 4 := by
  rw [MetricsConfig.violation?] at h
  obtain ⟨⟨henabled, hhead⟩, hv⟩ := Option.ite_none_right_eq_some.mp h
  cases hv
  rw [ne_eq, head?_eq_slash_iff] at hhead
  exact ⟨⟨henabled, rfl, hhead⟩, rfl⟩

/-! ## All rules -/

/-- The first rule that is found broken if the dependencies are looked at in a given order. -/
def violationIn? (c : Config) (order : List (String × DependencyConfig)) : Option Violation :=
  c.health.violation? <|> c.metrics.violation? <|> order.findSome? entryViolation?

/-- A configuration that was read, after it has been checked in this order. -/
def check (c : Config) (order : List (String × DependencyConfig)) : Except ConfigError Config :=
  match c.violationIn? order with
  | some violation => .error (.invalid violation)
  | none => .ok c

variable {order : List (String × DependencyConfig)}

/-- In whatever order the dependencies are looked at, nothing is found exactly if the
configuration is valid. -/
theorem violationIn?_eq_none_iff (horder : order.Perm c.dependencies.entries) :
    c.violationIn? order = none ↔ c.Valid := by
  have hentries : order.findSome? entryViolation? = none ↔
      ∀ name d, c.dependencies.get? name = some d → d.Valid name := by
    rw [List.findSome?_eq_none_iff]
    constructor
    · intro h name d hget
      have hmem := horder.mem_iff.mpr (NameMap.get?_eq_some_iff.mp hget)
      exact (entryViolation?_eq_none_iff name d).mp (h (name, d) hmem)
    · rintro h ⟨name, d⟩ hmem
      have hget := NameMap.get?_eq_some_iff.mpr (horder.mem_iff.mp hmem)
      exact (entryViolation?_eq_none_iff name d).mpr (h name d hget)
  have hall : c.violationIn? order = none ↔ c.health.violation? = none ∧
      c.metrics.violation? = none ∧ order.findSome? entryViolation? = none := by
    rw [violationIn?]
    cases c.health.violation? <;> cases c.metrics.violation? <;> simp
  rw [hall, health_eq_none_iff, metrics_eq_none_iff, hentries]
  constructor
  · rintro ⟨⟨hinterval, hceiling, hattempts, hdelay⟩, hpath, hdependencies⟩
    exact ⟨hinterval, hceiling, hattempts, hdelay, hpath, hdependencies⟩
  · intro h
    exact ⟨⟨h.interval, h.ceiling, h.attempts, h.delay⟩, h.path, h.dependencies⟩

/-- In whatever order the dependencies are looked at, what is found is a rule that is broken, and
no rule before it is. -/
theorem violationIn?_first (horder : order.Perm c.dependencies.entries)
    (h : c.violationIn? order = some v) :
    v.Broken c ∧ ∀ w : Violation, w.Broken c → v.rank ≤ w.rank := by
  rw [violationIn?] at h
  cases hhealth : c.health.violation? with
  | some u =>
      rw [hhealth] at h
      cases h
      exact health_first hhealth
  | none =>
      rw [hhealth] at h
      have hfour : ∀ w : Violation, w.Broken c → 4 ≤ w.rank := fun w hw => four_le_rank hhealth hw
      cases hmetrics : c.metrics.violation? with
      | some u =>
          rw [hmetrics] at h
          cases h
          obtain ⟨hbroken, hrank⟩ := metrics_broken hmetrics
          exact ⟨hbroken, fun w hw => hrank ▸ hfour w hw⟩
      | none =>
          rw [hmetrics] at h
          obtain ⟨⟨name, d⟩, hmem, hv⟩ := List.exists_of_findSome?_eq_some h
          have hget := NameMap.get?_eq_some_iff.mpr (horder.mem_iff.mp hmem)
          obtain ⟨hbroken, hrank⟩ := entry_broken hget hv
          refine ⟨hbroken, fun w hw => ?_⟩
          have hpath := metrics_eq_none_iff.mp hmetrics
          -- the path is in order, so a rule of rank four is not broken
          cases w with
          | relativeMetricsPath path =>
              obtain ⟨henabled, rfl, hslash⟩ := hw
              exact absurd (hpath henabled) hslash
          | blankName => exact Nat.le_of_eq hrank
          | dependency name w => exact Nat.le_of_eq hrank
          | _ => exact absurd (hfour _ hw) (by decide)

/-- **Validation.**  A text that was read as a configuration is checked with its dependencies in
some order.  In every order, it is accepted exactly if it is valid, as it was read; and
otherwise the error tells a broken rule, before which no other one is broken, and its message
names the setting or the dependency. -/
theorem parse_validates {language : Language} {text : String}
    (hread : (language.readDocument text).bind ofDocument? = some c) :
    parse language text = c.check c.dependencies.entries ∧
      ∀ order : List (String × DependencyConfig), order.Perm c.dependencies.entries →
        (∀ accepted, c.check order = .ok accepted ↔ accepted = c ∧ c.Valid) ∧
          (¬c.Valid → ∃ v : Violation, c.check order = .error (.invalid v) ∧ v.Broken c ∧
            (∀ w : Violation, w.Broken c → v.rank ≤ w.rank) ∧
            ∃ rest, (ConfigError.invalid v).message = v.subject ++ rest) := by
  constructor
  · rw [parse, hread]
    rfl
  intro order horder
  have hnone := violationIn?_eq_none_iff horder
  rw [check]
  cases hfound : c.violationIn? order with
  | none =>
      have hvalid : c.Valid := hnone.mp hfound
      refine ⟨fun accepted => ?_, fun hinvalid => absurd hvalid hinvalid⟩
      simp only [Except.ok.injEq, hvalid, and_true]
      exact eq_comm
  | some v =>
      have hinvalid : ¬c.Valid := fun hvalid => by
        rw [hnone.mpr hvalid] at hfound
        cases hfound
      obtain ⟨hbroken, hfirst⟩ := violationIn?_first horder hfound
      refine ⟨fun accepted => ?_, fun _ => ⟨v, rfl, hbroken, hfirst, v.subject_message⟩⟩
      simp [hinvalid]

/-- Two dependencies, of which one has a blank name and the other one an unknown scheme. -/
def twoBroken : String :=
  "dependencies:\n" ++
  "  \" \":\n    kind: tcp\n    address: cache:1\n" ++
  "  store:\n    enabled: false\n    kind: http\n    url: ftp://store/\n"

theorem twoBroken_validates :
    ∃ c, (Language.yaml.readDocument twoBroken).bind ofDocument? = some c ∧
      c.dependencies.size = 2 ∧ parse .yaml twoBroken = c.check c.dependencies.entries ∧
      ∃ v : Violation, c.check c.dependencies.entries.reverse = .error (.invalid v) ∧
        v.Broken c ∧ (∀ w : Violation, w.Broken c → v.rank ≤ w.rank) ∧
        ∃ rest, (ConfigError.invalid v).message = v.subject ++ rest := by
  have hread : ((Language.yaml.readDocument twoBroken).bind ofDocument?).any
      (fun c => c.dependencies.size = 2 && (c.dependencies.get? " ").isSome) = true := by
    decide +kernel
  obtain ⟨c, hc, hsize⟩ := (Option.any_eq_true _ _).mp hread
  simp only [Bool.and_eq_true, decide_eq_true_eq] at hsize
  obtain ⟨hsize, hblank⟩ := hsize
  obtain ⟨d, hd⟩ := Option.isSome_iff_exists.mp hblank
  have hinvalid : ¬c.Valid := fun h =>
    (h.dependencies " " d hd).name ((isBlank_iff " ").mp (by decide))
  obtain ⟨hparse, hchecked⟩ := parse_validates hc
  exact ⟨c, hc, hsize, hparse, (hchecked _ (List.reverse_perm _)).2 hinvalid⟩

end Config

end HealthWatch
