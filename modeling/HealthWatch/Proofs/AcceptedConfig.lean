import HealthWatch.Config.Loading
import HealthWatch.Proofs.NameMapEntries

/-!
# Accepted configurations

What is known of a configuration that was accepted comes from two sides.  Its readers let no
count through that does not fit its field: a postcondition of readers (`Reading.Yields`) is
carried through their steps.  And it breaks no rule, so intervals, ceilings and delays are
within their limits (`InRange`), and metrics that are shown have a path that begins with a
slash.
-/

namespace HealthWatch

open HealthWatch.Document

/-! ## What readers give -/

namespace Document.Reading

variable {α β : Type}

/-- Whatever a reader gives, `p` holds of it. -/
def Yields (p : α → Prop) (r : Reading α) : Prop :=
  ∀ document jumps x, (r.run document).run jumps = some x → p x.1

theorem Yields.pure {p : α → Prop} {a : α} (h : p a) : Yields p (pure a : Reading α) := by
  intro document jumps x hx
  cases hx
  exact h

theorem Yields.bind {p : α → Prop} {q : β → Prop} {r : Reading α} {f : α → Reading β}
    (hr : r.Yields p) (hf : ∀ a, p a → (f a).Yields q) : (r >>= f).Yields q := by
  intro document jumps x hx
  obtain ⟨y, hy, hrest⟩ := Option.bind_eq_some_iff.mp hx
  exact hf y.1 (hr document jumps y hy) document y.2 x hrest

theorem Yields.trivial (r : Reading α) : r.Yields fun _ => True := fun _ _ _ _ => True.intro

/-- What a reader does first need not matter. -/
theorem Yields.after {q : β → Prop} {r : Reading α} {f : α → Reading β}
    (hf : ∀ a, (f a).Yields q) : (r >>= f).Yields q :=
  (Yields.trivial r).bind fun a _ => hf a

theorem Yields.failure {p : α → Prop} : Yields p (failure : Reading α) := by
  intro document jumps x hx
  cases hx

theorem Yields.lift {p : α → Prop} {a? : Option α} (h : ∀ a, a? = some a → p a) :
    Yields p ((a? : Option α) : Reading α) := by
  intro document jumps x hx
  obtain ⟨a, ha, hsome⟩ := Option.bind_eq_some_iff.mp hx
  cases hsome
  exact h a ha

theorem Yields.mapM {p : β → Prop} {f : α → Reading β} (hf : ∀ a, (f a).Yields p) (l : List α) :
    Yields (fun l' => ∀ b ∈ l', p b) (l.mapM f) := by
  induction l with
  | nil =>
      rw [List.mapM_nil]
      exact .pure (by simp)
  | cons a l ih =>
      rw [List.mapM_cons]
      refine (hf a).bind fun b hb => ih.bind fun l' hl' => .pure ?_
      exact List.forall_mem_cons.mpr ⟨hb, hl'⟩

theorem Yields.ofDocument {p : α → Prop} {read : Node → Reading α} {d : Document} {a : α}
    (hread : ∀ node, (read node).Yields p) (h : ofDocument? read d = some a) : p a := by
  obtain ⟨x, hx, rfl⟩ := Option.map_eq_some_iff.mp h
  exact hread _ _ _ _ hx

/-- A count that a node gives is below the bound. -/
theorem yields_natural (bound : Nat) (node : Node) : (node.natural bound).Yields (· < bound) := by
  refine .after fun part => ?_
  split
  · refine .lift fun n hn => ?_
    exact of_decide_eq_true (Option.filter_eq_some_iff.mp hn).2
  · exact .failure

theorem yields_field {p : α → Prop} {fields : List (String × Node)} {name : String}
    {default : α} {read : Node → Reading α} (hdefault : p default)
    (hread : ∀ node, (read node).Yields p) : (Node.field fields name default read).Yields p := by
  unfold Node.field
  split
  · exact hread _
  · exact .pure hdefault

end Document.Reading

open Document.Reading

/-! ## Counts that fit -/

/-- The counts of attempts of a configuration fit into 32 bits. -/
structure Config.Fits (config : Config) : Prop where
  attempts : config.health.retryAttempts < bound 32
  retries : ∀ e ∈ config.dependencies.entries, e.2.connectRetries < bound 32

theorem HealthConfig.yields_ofNode (node : Node) :
    (HealthConfig.ofNode node).Yields fun h => h.retryAttempts < bound 32 := by
  refine .after fun fields => .after fun _ => .after fun _ => ?_
  refine .bind (yields_field ?_ (yields_natural _)) fun attempts hattempts => ?_
  · decide
  · exact .after fun _ => .pure hattempts

theorem DependencyConfig.yields_ofNode (node : Node) :
    (DependencyConfig.ofNode node).Yields fun d => d.connectRetries < bound 32 := by
  have hconnect : ∀ fields, (ConnectConfig.ofFields fields).Yields
      fun c => c.connectRetries < bound 32 := by
    intro fields
    refine .after fun _ => ?_
    refine .bind (yields_field ?_ (yields_natural _)) fun retries hretries => ?_
    · decide
    · exact .after fun _ => .pure hretries
  refine .after fun node => .after fun entries => .after fun _ => .after fun own => ?_
  exact (hconnect _).bind fun connect hc => .after fun kind => .pure hc

theorem yields_dependenciesOfNode (node : Node) :
    (dependenciesOfNode node).Yields fun m => ∀ e ∈ m.entries, e.2.connectRetries < bound 32 := by
  refine .after fun entries => ?_
  have hentry : ∀ e : String × Node, Yields (fun x : String × DependencyConfig =>
      x.2.connectRetries < bound 32) (do return (e.1, ← DependencyConfig.ofNode e.2)) :=
    fun e => (DependencyConfig.yields_ofNode e.2).bind fun d hd => .pure hd
  refine .bind (.mapM hentry entries) fun l hl => .pure fun e he => ?_
  exact hl e (NameMap.mem_of_mem_ofList he)

theorem Config.fits_of_document {d : Document} {config : Config}
    (h : Config.ofDocument? d = some config) : config.Fits := by
  refine Yields.ofDocument (p := Config.Fits) (fun node => ?_) h
  refine .after fun fields => .after fun _ => ?_
  refine .bind (yields_field ?_ HealthConfig.yields_ofNode) fun health hhealth => ?_
  · decide
  refine .after fun _ => .after fun _ => ?_
  refine .bind (yields_field ?_ yields_dependenciesOfNode) fun dependencies hdependencies => ?_
  · exact fun e he => absurd he List.not_mem_nil
  · exact .pure ⟨hhealth, hdependencies⟩

/-! ## Rules that hold -/

namespace Config

/-- An accepted configuration was read, and breaks no rule. -/
theorem parse_eq_ok {language : Language} {text : String} {config : Config}
    (h : parse language text = .ok config) : config.Fits ∧ config.violation? = none := by
  unfold parse at h
  split at h
  · cases h
  · next read hread =>
    split at h
    · cases h
    · next hnone =>
      cases h
      obtain ⟨d, _, hd⟩ := Option.bind_eq_some_iff.mp hread
      exact ⟨fits_of_document hd, hnone⟩

theorem violation?_eq_none {config : Config} (h : config.violation? = none) :
    config.health.violation? = none ∧ config.metrics.violation? = none ∧
      ∀ e ∈ config.dependencies.entries, entryViolation? e = none := by
  rw [violation?] at h
  cases hhealth : config.health.violation? with
  | some v => simp [hhealth] at h
  | none =>
      cases hmetrics : config.metrics.violation? with
      | some v => simp [hhealth, hmetrics] at h
      | none => exact ⟨rfl, rfl, by simpa [hhealth, hmetrics] using h⟩

/-- If an accepted configuration shows the metrics, it does so at a path that begins with a
slash. -/
theorem metricsPath_head {config : Config} (h : config.violation? = none)
    (henabled : config.metrics.enabled = true) :
    config.metrics.path.toList.head? = some '/' := by
  obtain ⟨_, hmetrics, _⟩ := violation?_eq_none h
  refine Decidable.byContradiction fun hhead => ?_
  rw [MetricsConfig.violation?, if_pos ⟨henabled, hhead⟩] at hmetrics
  cases hmetrics

/-- The counts of a configuration are within their limits. -/
structure InRange (config : Config) : Prop where
  interval : 1 ≤ config.health.intervalSecs ∧ config.health.intervalSecs ≤ maxIntervalSecs
  ceiling : 1 ≤ config.health.probeCeilingSecs ∧ config.health.probeCeilingSecs ≤ maxWaitSecs
  attempts : 1 ≤ config.health.retryAttempts ∧ config.health.retryAttempts < bound 32
  delay : config.health.retryDelaySecs ≤ maxWaitSecs
  retries : ∀ e ∈ config.dependencies.entries,
    e.2.connectRetries < bound 32 ∧ e.2.connectRetryDelaySecs ≤ maxWaitSecs

theorem inRange_of_parse {language : Language} {text : String} {config : Config}
    (h : parse language text = .ok config) : config.InRange := by
  obtain ⟨hfits, hnone⟩ := parse_eq_ok h
  obtain ⟨hhealth, _, hentries⟩ := violation?_eq_none hnone
  have hprobing := hfits.attempts
  unfold HealthConfig.violation? at hhealth
  split at hhealth
  · cases hhealth
  split at hhealth
  · cases hhealth
  split at hhealth
  · cases hhealth
  split at hhealth
  · cases hhealth
  constructor
  case retries =>
    intro e he
    refine ⟨hfits.retries e he, ?_⟩
    have hentry := hentries e he
    unfold entryViolation? at hentry
    split at hentry
    · cases hentry
    · have hdependency := Option.map_eq_none_iff.mp hentry
      unfold DependencyConfig.violation? at hdependency
      split at hdependency
      · cases hdependency
      · omega
  all_goals omega

end Config

end HealthWatch
