import HealthWatch.Program
import HealthWatch.Proofs.AcceptedConfig
import Mathlib.Data.List.TakeWhile

/-!
# Where the metrics are found

A session serves its metrics at one path for as long as it lives: no step changes it
(`step_metricsPath`, by the turns that steps take).  The path is that of the configuration,
which has been looked at only so far as that it begins with a slash.

The path that is asked for ends at the first question mark of the target.  So the metrics of
an accepted configuration are found under their path if there is no question mark in it, and
cannot be found under it if there is one (`metrics_reachable`).
-/

namespace HealthWatch

/-! ## The path of a session -/

namespace Session

variable {δ Env : Type} [Dependency δ Env]

omit [Dependency δ Env] in
@[simp] theorem within_metricsPath (s : Session δ Env) (f : Service δ Env → Service δ Env) :
    (s.within f).metricsPath = s.metricsPath := rfl

theorem awaitReport_metricsPath (s : Session δ Env) (c : Connection) (head : Http.RequestHead)
    (id : Nat) : (s.awaitReport c head id).1.metricsPath = s.metricsPath := by
  have hturn := within_metricsPath s (·.turn id)
  unfold awaitReport
  generalize s.within (·.turn id) = t at hturn ⊢
  dsimp only
  split
  · exact hturn
  · split
    · rw [within_metricsPath, hturn]
    · exact hturn

omit [Dependency δ Env] in
theorem readRequest_metricsPath (s : Session δ Env) (c : Connection) :
    (s.readRequest c).1.metricsPath = s.metricsPath := by
  unfold readRequest
  split
  case h_1 => split <;> rfl
  case h_5 =>
    unfold beginServing
    split <;> rfl
  all_goals rfl

theorem proceed_metricsPath (s : Session δ Env) (c : Connection) :
    (s.proceed c).1.metricsPath = s.metricsPath := by
  unfold proceed
  split
  · exact awaitReport_metricsPath s c _ _
  · exact readRequest_metricsPath s c

theorem serve_metricsPath (fuel : Nat) (s : Session δ Env) (c : Connection) :
    (serve fuel s c).1.metricsPath = s.metricsPath := by
  induction fuel generalizing s c with
  | zero => rfl
  | succ fuel ih =>
      have hstep := proceed_metricsPath s c
      rw [serve]
      split
      · next s' c' heq =>
        rw [ih, ← hstep, heq]
      · next s' p heq =>
        rw [← hstep, heq]

mutual

theorem poll_metricsPath (s : Session δ Env) :
    (p : Pending) → (poll s p).1.metricsPath = s.metricsPath
  | .done _ | .sleeping _ | .task _ | .joining _ => by
      simp only [poll, within_metricsPath]
  | .serving c => by
      rw [poll]
      exact serve_metricsPath _ s c
  | .together l => by
      rw [poll]
      exact pollAll_metricsPath s l

theorem pollAll_metricsPath (s : Session δ Env) :
    (l : List Pending) → (pollAll s l).1.metricsPath = s.metricsPath
  | [] => by rw [pollAll]
  | p :: rest => by
      have hfirst := poll_metricsPath s p
      simp only [pollAll]
      rw [pollAll_metricsPath _ rest, hfirst]

end

theorem launch_metricsPath (s : Session δ Env) (f : Service δ Env → Service δ Env) :
    (s.launch f).1.metricsPath = s.metricsPath :=
  poll_metricsPath (s.within f) _

mutual

theorem begin_metricsPath (s : Session δ Env) :
    (st : Step δ) → (s.begin st).1.metricsPath = s.metricsPath
  | .advance _ => by
      rw [begin]
      exact poll_metricsPath s _
  | .register _ _ | .get _ | .all | .registry | .tallies | .metrics _ | .startTicker
  | .signalTicker | .tickerState => by
      simp only [begin, startTicker, within_metricsPath]
  | .closeAll | .report _ | .cycle => by
      simp only [begin, launch_metricsPath]
  | .connect name | .probe name _ => by
      simp only [begin, launchOn]
      split
      · exact launch_metricsPath s _
      · rfl
  | .health request => by
      simp only [begin, requestHealth]
      split
      · rfl
      · exact launch_metricsPath s _
  | .wire _ _ => by
      rw [begin]
      exact serve_metricsPath _ s _
  | .joinTicker => by
      simp only [begin]
      split
      · exact poll_metricsPath { s with joinable := none } _
      · rfl
  | .together steps => by
      simp only [begin]
      exact beginAll_metricsPath s steps

theorem beginAll_metricsPath (s : Session δ Env) :
    (steps : List (Step δ)) → (beginAll s steps).1.metricsPath = s.metricsPath
  | [] => by rw [beginAll]
  | st :: rest => by
      have hfirst := begin_metricsPath s st
      simp only [beginAll]
      rw [beginAll_metricsPath _ rest, hfirst]

end

theorem await_done (fuel : Nat) (s : Session δ Env) (a : Answer) :
    await fuel s (.done a) = (s, a) := by
  cases fuel <;> rw [await]

theorem await_metricsPath (fuel : Nat) (s : Session δ Env) (p : Pending) :
    (await fuel s p).1.metricsPath = s.metricsPath := by
  induction fuel generalizing s p with
  | zero => cases p <;> simp only [await]
  | succ fuel ih =>
      cases p
      case done a => rw [await_done]
      all_goals
        rw [await]
        · dsimp only
          generalize hpolled : poll s.turnLoops _ = polled
          have hpoll : polled.1.metricsPath = s.metricsPath := by
            rw [← hpolled, poll_metricsPath, turnLoops, within_metricsPath]
          split
          · exact hpoll
          · split
            · exact hpoll
            · rw [ih, poll_metricsPath, within_metricsPath, hpoll]
        · intro a ha
          cases ha

/-- No step changes where the metrics are served. -/
theorem step_metricsPath (s : Session δ Env) (st : Step δ) :
    (s.step st).1.metricsPath = s.metricsPath := by
  rw [step, await_metricsPath, begin_metricsPath]

/-- A session after steps. -/
def steps (s : Session δ Env) (l : List (Step δ)) : Session δ Env :=
  l.foldl (fun s st => (s.step st).1) s

theorem steps_metricsPath (s : Session δ Env) (l : List (Step δ)) :
    (s.steps l).metricsPath = s.metricsPath := by
  induction l generalizing s with
  | nil => rfl
  | cons st l ih => exact (ih _).trans (step_metricsPath s st)

/-- What the metrics endpoint answers to a request. -/
theorem step_metrics (s : Session δ Env) (request : Http.Request) :
    (s.step (.metrics request)).2 =
      .response (Http.metricsResponse s.metricsPath s.metrics request) := by
  rw [step, begin]
  exact congrArg Prod.snd (await_done _ _ _)

end Session

/-! ## The path of the program -/

namespace Program

variable {δ Env : Type} [Dependency δ Env]

omit [Dependency δ Env] in
@[simp] theorem tell_metricsPath (s : Session δ Env) (events : List Event) :
    (tell s events).metricsPath = s.metricsPath := rfl

omit [Dependency δ Env] in
theorem startHealth_metricsPath (config : Config) (ports : Http.Ports) (s : Session δ Env) :
    (startHealth config ports s).1.metricsPath = s.metricsPath := by
  unfold startHealth
  dsimp only
  split <;> simp only [tell_metricsPath]

omit [Dependency δ Env] in
theorem startMetrics_metricsPath (config : Config) (ports : Http.Ports) (s : Session δ Env) :
    (startMetrics config ports s).metricsPath = s.metricsPath := by
  unfold startMetrics
  split
  · split <;> exact tell_metricsPath s _
  · rfl

/-- A program that serves shows the metrics where its configuration says. -/
theorem serve_metricsPath (config : Config) (ports : Http.Ports) (s : Session δ Env) :
    (serve config ports s).session.metricsPath = s.metricsPath := by
  have hticker := s.step_metricsPath .startTicker
  unfold serve
  dsimp only
  generalize (s.step .startTicker).1 = t at hticker ⊢
  generalize hannounced : (if config.metrics.enabled then
      tell t [.metricsListening (metricsAddress config).text config.metrics.path] else t) = u
  have hpath : u.metricsPath = s.metricsPath := by
    rw [← hannounced, ← hticker]
    split <;> rfl
  have hhealth := startHealth_metricsPath config ports u
  split
  all_goals
    next v _ heq =>
      rw [heq] at hhealth
      rw [startMetrics_metricsPath, hhealth, hpath]

end Program

/-! ## The path of a target -/

namespace Http.Target

theorem path?_of_slash {target : String} (h : target.toList.head? = some '/') :
    path? target = originPath? target.toList := by
  obtain ⟨rest, hrest⟩ : ∃ rest, target.toList = '/' :: rest := by
    cases hcs : target.toList with
    | nil => simp [hcs] at h
    | cons c rest =>
        simp only [hcs, List.head?_cons, Option.some.injEq] at h
        exact ⟨rest, h ▸ rfl⟩
  simp only [path?, hrest]

theorem isPathChar.ne {c other : Char} (h : isPathChar c = true)
    (hother : isPathChar other = false) : c ≠ other := by
  rintro rfl
  rw [h] at hother
  cases hother

/-- A path without a query is asked for as it stands. -/
theorem originPath?_plain {cs : List Char} (hne : cs ≠ [])
    (h : ∀ c ∈ cs, isPathChar c = true) : originPath? cs = some (String.ofList cs) := by
  have hmark : ∀ c ∈ cs, (c != '?') = true :=
    fun c hc => bne_iff_ne.mpr (isPathChar.ne (h c hc) (by decide))
  have hhash : ∀ c ∈ cs, (c != '#') = true :=
    fun c hc => bne_iff_ne.mpr (isPathChar.ne (h c hc) (by decide))
  have hwhole : dropFragment cs = cs := List.takeWhile_eq_self_iff.mpr hhash
  have hpath : cs.takeWhile (· != '?') = cs := List.takeWhile_eq_self_iff.mpr hmark
  have hquery : cs.dropWhile (· != '?') = [] := List.dropWhile_eq_nil_iff.mpr hmark
  have hall : cs.all isPathChar = true := List.all_eq_true.mpr h
  simp only [originPath?, hwhole, hpath, hquery, hall, List.drop_nil, List.all_nil,
    Bool.and_self, if_true, List.isEmpty_eq_false_iff.mpr hne, Bool.false_eq_true, if_false]

/-- A path that is asked for is made of the characters of paths: what follows the first `?`
or `#` is no part of it. -/
theorem isPathChar_of_originPath? {cs : List Char} {path : String}
    (h : originPath? cs = some path) : ∀ c ∈ path.toList, isPathChar c = true := by
  unfold originPath? at h
  dsimp only at h
  split at h
  · next hall =>
    have hpath := (Bool.and_eq_true_iff.mp hall).1
    split at h
    · cases h
      intro c hc
      obtain rfl : c = '/' := by simpa using hc
      decide
    · cases h
      rw [String.toList_ofList]
      exact List.all_eq_true.mp hpath
  · cases h

end Http.Target

/-! ## Asking for the metrics -/

namespace Session

variable {δ Env : Type}

/-- The answer that shows the metrics of a session. -/
def shown (s : Session δ Env) : Answer :=
  .response ⟨200, [("content-type", "text/plain; version=0.0.4")], s.metrics.exposition⟩

variable [Dependency δ Env] {s : Session δ Env}

/-- What a `GET` request with a target is answered by the metrics endpoint, if it is a
target. -/
def metricsAt? (s : Session δ Env) (target : String) : Option Answer :=
  (Http.Target.path? target).map fun path => (s.step (.metrics ⟨"GET", path⟩)).2

theorem metricsAt?_plain (hhead : s.metricsPath.toList.head? = some '/')
    (hchars : ∀ c ∈ s.metricsPath.toList, Http.Target.isPathChar c = true) :
    s.metricsAt? s.metricsPath = some s.shown := by
  have hne : s.metricsPath.toList ≠ [] := by
    intro hnil
    rw [hnil] at hhead
    cases hhead
  rw [metricsAt?, Http.Target.path?_of_slash hhead, Http.Target.originPath?_plain hne hchars,
    String.ofList_toList, Option.map_some, step_metrics, Http.metricsResponse, if_neg (by simp)]
  rfl

theorem metricsAt?_other (hhead : s.metricsPath.toList.head? = some '/')
    (hchars : ¬∀ c ∈ s.metricsPath.toList, Http.Target.isPathChar c = true) {a : Answer}
    (h : s.metricsAt? s.metricsPath = some a) : a = .response .notFound := by
  rw [metricsAt?, Http.Target.path?_of_slash hhead] at h
  obtain ⟨path, hpath, rfl⟩ := Option.map_eq_some_iff.mp h
  have hother : path ≠ s.metricsPath := by
    rintro rfl
    exact hchars (Http.Target.isPathChar_of_originPath? hpath)
  rw [step_metrics, Http.metricsResponse, if_pos hother]

/-- **Reachable metrics.**  Let an accepted configuration show the metrics, and let its
program serve.  If the path of the metrics is made of characters that the path of a request
may have, then after any steps a request with this very path as its target is answered with
the metrics.  Otherwise, so if there is a question mark in it, no such request finds them. -/
theorem metrics_reachable {language : Language} {text : String} {config : Config}
    (hparse : Config.parse language text = .ok config) (henabled : config.metrics.enabled = true)
    (ports : Http.Ports) (stamp : Instant → String) (service : Service δ Env)
    (l : List (Step δ)) :
    let path := config.metrics.path
    let s := (Program.serve config ports (Program.sessionOf config stamp service)).session.steps l
    ((∀ c ∈ path.toList, Http.Target.isPathChar c = true) → s.metricsAt? path = some s.shown) ∧
      ((¬∀ c ∈ path.toList, Http.Target.isPathChar c = true) →
        ∀ a, s.metricsAt? path = some a → a = .response .notFound) := by
  intro path s
  have hpath : s.metricsPath = path := by
    rw [steps_metricsPath, Program.serve_metricsPath]
    rfl
  have hhead : path.toList.head? = some '/' :=
    Config.metricsPath_head (Config.parse_eq_ok hparse).2 henabled
  rw [← hpath] at hhead ⊢
  constructor
  · intro hchars
    exact metricsAt?_plain hhead hchars
  · intro hchars a ha
    exact metricsAt?_other hhead hchars ha

/-- A configuration that shows the metrics at a path. -/
def showingAt (path : String) : String :=
  "\x7b\"metrics\":\x7b\"enabled\":true,\"path\":\"" ++ path ++ "\"\x7d\x7d"

/-- The settings of the metrics that a text gives, if it is accepted. -/
def settings? (text : String) : Option MetricsConfig :=
  (Config.parse .json text).toOption.map (·.metrics)

theorem exists_accepted {text : String} {m : MetricsConfig} (h : settings? text = some m) :
    ∃ config, Config.parse .json text = .ok config ∧ config.metrics = m := by
  obtain ⟨config, hconfig, hm⟩ := Option.map_eq_some_iff.mp h
  cases hparse : Config.parse .json text with
  | error e =>
      rw [hparse] at hconfig
      cases hconfig
  | ok accepted =>
      rw [hparse] at hconfig
      cases hconfig
      exact ⟨_, rfl, hm⟩

theorem usual_path_reachable :
    ∃ config, (Config.parse .json (showingAt "/metrics") = .ok config ∧
        config.metrics.enabled = true) ∧
      (∀ c ∈ config.metrics.path.toList, Http.Target.isPathChar c = true) ∧
      let service : Service Scripted Unit := Program.serviceOf config ()
      let s := (Program.serve config ⟨[]⟩
        (Program.sessionOf config (fun _ => "") service)).session.steps [.cycle]
      s.metricsAt? config.metrics.path = some s.shown := by
  obtain ⟨config, hparse, hmetrics⟩ :=
    exists_accepted (by decide +kernel : settings? (showingAt "/metrics") =
      some ⟨true, 9090, "/metrics"⟩)
  have henabled : config.metrics.enabled = true := by rw [hmetrics]
  have hchars : ∀ c ∈ config.metrics.path.toList, Http.Target.isPathChar c = true := by
    rw [hmetrics]
    exact List.all_eq_true.mp (by decide +kernel)
  exact ⟨config, ⟨hparse, henabled⟩, hchars,
    (metrics_reachable hparse henabled _ _ _ [.cycle]).1 hchars⟩

/-- A path with a query is accepted, and a request with it as its target is answered that
there is nothing. -/
theorem query_unreachable :
    ∃ config, Config.parse .json (showingAt "/metrics?x") = .ok config ∧
      config.metrics.enabled = true ∧
      (∀ c ∈ config.metrics.path.toList, Http.Target.isPathChar c = true ∨ c = '?') ∧
      let service : Service Scripted Unit := Program.serviceOf config ()
      let s := (Program.serve config ⟨[]⟩
        (Program.sessionOf config (fun _ => "") service)).session
      s.metricsAt? config.metrics.path = some (.response .notFound) := by
  obtain ⟨config, hparse, hmetrics⟩ :=
    exists_accepted (by decide +kernel : settings? (showingAt "/metrics?x") =
      some ⟨true, 9090, "/metrics?x"⟩)
  have htarget : Http.Target.path? config.metrics.path = some "/metrics" := by
    rw [hmetrics]
    decide +kernel
  have hall : config.metrics.path.toList.all
      (fun c => Http.Target.isPathChar c || c == '?') = true := by
    rw [hmetrics]
    decide +kernel
  have hchars : ∀ c ∈ config.metrics.path.toList, Http.Target.isPathChar c = true ∨ c = '?' := by
    intro c hc
    simpa using List.all_eq_true.mp hall c hc
  refine ⟨config, hparse, by rw [hmetrics], hchars, ?_⟩
  intro service s
  have hpath : s.metricsPath = config.metrics.path := by
    rw [Program.serve_metricsPath]
    rfl
  rw [metricsAt?, htarget, Option.map_some, step_metrics, hpath, hmetrics]
  rfl

end Session

end HealthWatch
