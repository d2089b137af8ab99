import HealthWatch.Program
import HealthWatch.Proofs.ClosedClients
import HealthWatch.Proofs.CloseOnce
import HealthWatch.Proofs.ReadyService
import HealthWatch.Proofs.RefusedReports

/-!
# After the teardown

Let dependencies be such that closing one leaves it closed for good (`ClosesForGood`).  The first
closing of a registry closes one handle after another, so when it returns, all of them refuse
(`TearsDown`), and as every handle is registered, the service is shut.  From then on nobody is
asked, and every report says at once that each dependency is closed (`Service.torn_down`).

Clients are such dependencies, each kind in its own way (`Client.closesForGood`), whatever their
drivers make of what they are told (`torn_down_for_good`).
-/

namespace HealthWatch

open Dependency (Refuses)

/-- Dependencies that are closed for good, as `Gone` says of each, once they were closed. -/
structure Dependency.ClosesForGood {δ Env : Type} [Dependency δ Env] (Gone : δ → Prop) : Prop where
  close : ∀ now (d : δ) (env : Env), Gone (Dependency.close now d env).2.1
  refuses : ∀ d, Gone d → Refuses d

open Dependency (ClosesForGood)

namespace Service

variable {δ Env : Type} [Dependency δ Env] {s : Service δ Env} {id : Nat} {Gone : δ → Prop}

/-! ## The course of a teardown -/

/-- The dependencies that the registry holds are gone, but for those that are left. -/
def GoneBut (Gone : δ → Prop) (left : List (String × Nat)) (s : Service δ Env) : Prop :=
  ∀ e ∈ s.registry.all, e ∉ left → ∃ h, s.handles[e.2]? = some h ∧ Gone h.dependency

/-- What is gone stays so. -/
theorem GoneBut.act {left : List (String × Nat)} (h : GoneBut Gone left s)
    (hgone : ClosesForGood Gone) {a : Action δ} (ha : a.RegistersNothing) :
    GoneBut Gone left (s.act a) := by
  intro e he hleft
  rw [(s.act_keeps a).names ha] at he
  obtain ⟨held, hheld, hrefuses⟩ := h e he hleft
  obtain ⟨later, hlater, hcalls⟩ := (Continues.act s a).handles e.2 held hheld
  exact ⟨later, hlater, ((hgone.refuses _ hrefuses).later_eq hcalls).symm ▸ hrefuses⟩

/-- How far the closing has come that task `id` runs: what it does not have left is gone. -/
inductive TearsDown (Gone : δ → Prop) (id : Nat) (s : Service δ Env) : Prop
  | closing {span : Option Span} {c : Closing}
      (hid : s.tasks[id]? = some (.running span (.closing c)))
      (hleft : GoneBut Gone c.remaining s)
  | closed {time : Instant} (hid : s.tasks[id]? = some (.ended time .closed))
      (hnone : GoneBut Gone [] s)
  | dropped (hid : s.tasks[id]? = some .dropped)

/-- The first closing has everything left that the registry holds. -/
theorem TearsDown.begin (hopened : s.registry.closed = false) {order : List (String × Nat)}
    (horder : order.Perm s.registry.all) :
    TearsDown Gone s.tasks.length (s.act (.beginClosing order)) := by
  rw [act_beginClosing hopened horder]
  refine .closing List.getElem?_concat_length fun e he hleft => ?_
  exact absurd (horder.mem_iff.mpr he) hleft

/-- **One action.**  A handle that is taken from what is left is closed, and refuses. -/
theorem TearsDown.act (h : TearsDown Gone id s) (hgone : ClosesForGood Gone) {a : Action δ}
    (ha : a.RegistersNothing) : TearsDown Gone id (s.act a) := by
  cases h with
  | @closing span c hid hleft =>
      have hlater := hleft.act hgone ha
      rcases act_getElem? hid a with hsame | ⟨part, _, _, _, rfl, _⟩ | ⟨_, hdrop⟩
      · exact .closing hsame hlater
      · obtain ⟨task, s', hdoes, hmoved⟩ := moveJob_does part hid
        have hact : s.act (.move id part) = s'.setTask id task := by
          rw [← hmoved]
          simp only [Service.act, move, hid]
        have htask : (s'.setTask id task).tasks[id]? = some task := by
          rw [setTask, hdoes.tasks_eq]
          exact List.getElem?_set_self (List.getElem?_eq_some_iff.mp hid).1
        rw [hact] at hlater ⊢
        cases hdoes with
        | rest => exact .closing htask hlater
        | closed => exact .closing htask hlater
        | @closeNext _ name handle rest held hcurrent hremaining hhandle =>
            refine .closing htask fun e he hrest => ?_
            by_cases hfirst : e = (name, handle)
            · subst hfirst
              refine ⟨_, List.getElem?_set_self (List.getElem?_eq_some_iff.mp hhandle).1, ?_⟩
              exact hgone.close s.now held.dependency s.env
            · refine hlater e he fun hmem => ?_
              rw [hremaining] at hmem
              rcases List.mem_cons.mp hmem with heq | hmem'
              · exact hfirst heq
              · exact hrest hmem'
        | allClosed hcurrent hremaining => exact .closed htask (hremaining ▸ hlater)
      · exact .dropped hdrop
  | closed hid hnone => exact .closed (act_ended hid a) (hnone.act hgone ha)
  | dropped hid =>
      rcases act_getElem? hid a with hsame | ⟨_, _, _, _, _, hrunning, _⟩ | ⟨_, hdrop⟩
      · exact .dropped hsame
      · cases hrunning
      · exact .dropped hdrop

theorem TearsDown.run (h : TearsDown Gone id s) (hgone : ClosesForGood Gone)
    {actions : List (Action δ)} (hactions : ∀ a ∈ actions, a.RegistersNothing) :
    TearsDown Gone id (s.run actions) :=
  run_keeps (fun _ _ ht ha => ht.act hgone ha) h hactions

omit [Dependency δ Env] in
/-- A closing that has ended has nothing left. -/
theorem TearsDown.of_ended (h : TearsDown Gone id s) {time : Instant}
    (hended : s.tasks[id]? = some (.ended time .closed)) : GoneBut Gone [] s := by
  cases h with
  | closing hid => cases hid.symm.trans hended
  | closed hid hnone => exact hnone
  | dropped hid => cases hid.symm.trans hended

/-- A registry that is open stays so up to its first closing. -/
theorem run_open {actions : List (Action δ)} (hopened : s.registry.closed = false)
    (hactions : ∀ a ∈ actions, ∀ order, a ≠ .beginClosing order) :
    (s.run actions).registry.closed = false :=
  run_keeps (P := fun t => t.registry.closed = false)
    (fun t _ ht ha => (act_closed t ha).trans ht) hopened hactions

/-! ## Handles that are all registered -/

/-- A service none of whose handles is without a name. -/
def AllNamed (s : Service δ Env) : Prop :=
  ∀ k < s.handles.length, ∃ name, (name, k) ∈ s.registry.all

theorem AllNamed.act (h : s.AllNamed) {a : Action δ} (ha : a.RegistersNothing) :
    (s.act a).AllNamed := by
  intro k hk
  rw [(s.act_keeps a).handles_length ha] at hk
  rw [(s.act_keeps a).names ha]
  exact h k hk

theorem AllNamed.run (h : s.AllNamed) {actions : List (Action δ)}
    (hactions : ∀ a ∈ actions, a.RegistersNothing) : (s.run actions).AllNamed :=
  run_keeps (fun _ _ ht ha => ht.act ha) h hactions

omit [Dependency δ Env] in
/-- If all that is registered is gone, all handles are. -/
theorem AllNamed.gone (h : s.AllNamed) (hnone : GoneBut Gone [] s) :
    ∀ held ∈ s.handles, Gone held.dependency := by
  intro held hheld
  obtain ⟨k, hk⟩ := List.getElem?_of_mem hheld
  obtain ⟨name, hname⟩ := h k (List.getElem?_eq_some_iff.mp hk).1
  obtain ⟨held', hk', hgone⟩ := hnone _ hname List.not_mem_nil
  cases hk.symm.trans hk'
  exact hgone

/-! ## Afterwards -/

/-- What is left of a service that was torn down when it was `t`. -/
structure TornDown (Gone : δ → Prop) (known : List String) (t s : Service δ Env) : Prop where
  names : s.registry.names = known
  /-- Every dependency that is registered is gone, and refuses. -/
  gone : ∀ e ∈ s.registry.all, ∃ h, s.handles[e.2]? = some h ∧ Gone h.dependency ∧
    Refuses h.dependency
  /-- Nobody has been asked since. -/
  env : s.env = t.env
  /-- A request still begins a report. -/
  request : ∃ g, (s.act .beginRequest).gathering? s.tasks.length = some g
  /-- A report that begins, whatever begins it, is to call each dependency once. -/
  once : ∀ a id g, s.gathering? id = none → (s.act a).gathering? id = some g →
    ∀ e ∈ s.registry.all, g.unasked e.2 = 1

/-- How a task reports on the dependencies that are `known` if all of them refuse. -/
structure ReportsAtOnce (known : List String) (id : Nat) (s : Service δ Env) : Prop where
  /-- Every lane is at its first attempt, or that was its last. -/
  lanes : RefusedIn id s
  /-- No time passes while a report is under way. -/
  still : ∀ g, s.gathering? id = some g → ∀ time, (s.pass time).now = s.now
  /-- It can be brought to its end at once, with the calls that it has yet to make. -/
  ends : ∀ g, s.gathering? id = some g →
    ∃ parts r, MadeAtOnce id s g parts r ∧ r.Refused known s.now
  /-- Whatever brings it to its end, it says that they are closed. -/
  made : ∀ a task task' r, s.tasks[id]? = some task → (s.act a).tasks[id]? = some task' →
    .report r ∈ s.endings task task' → r.Refused known s.now

theorem GoneBut.tornDown (h : GoneBut Gone [] s) (hgone : ClosesForGood Gone)
    (hapart : s.HeldApart) {t : Service δ Env} (henv : s.env = t.env) :
    TornDown Gone s.registry.names t s where
  names := rfl
  gone e he := by
    obtain ⟨held, hheld, hd⟩ := h e he List.not_mem_nil
    exact ⟨held, hheld, hd, hgone.refuses _ hd⟩
  env := henv
  request := ⟨_, gathering?_eq_some_iff.mpr ⟨_, _, List.getElem?_concat_length, rfl⟩⟩
  once a id g hnone hg e he := by
    rcases gathering?_act hg with hsame | ⟨deadline, rfl⟩ | ⟨g₀, hg₀, _⟩
    · cases hnone.symm.trans hsame
    · rw [Gathering.unasked_start]
      exact List.count_eq_one_of_mem hapart.nodup (List.mem_map_of_mem he)
    · cases hnone.symm.trans hg₀

theorem Shut.reportsAtOnce (h : s.Shut) (hs : s.Sound) (hrefused : RefusedIn id s) :
    ReportsAtOnce s.registry.names id s where
  lanes := hrefused
  still _ hg := hrefused.pass_now hg
  ends _ hg := hrefused.ends h hs hg
  made _ _ _ _ hid hid' hr := hrefused.report hid hid' hr

/-- **After the teardown.**  Let dependencies that close for good be connected by a startup, and
let the first closing of the registry return.  As long as nothing is registered, all of them are
gone from then on and nobody is asked; and a task that waits for no report at some time reports at
once, then and later, that every dependency is closed. -/
theorem torn_down {ε : Type} (hgone : ClosesForGood Gone) {build : DependencyKind → Except ε δ}
    {config : Config} {service ready : Service δ Env} (hempty : service.registry = .empty)
    (hhandles : service.handles = []) (htasks : service.tasks = [])
    (hready : (Startup.connect build config service).2 = .ready ready)
    {before during : List (Action δ)} {order : List (String × Nat)}
    (hbefore : ∀ a ∈ before, a.RegistersNothing ∧ ∀ other, a ≠ .beginClosing other)
    (horder : order.Perm (ready.run before).registry.all)
    (hduring : ∀ a ∈ during, a.RegistersNothing) :
    let t := ((ready.run before).act (.beginClosing order)).run during
    ∀ time, t.tasks[(ready.run before).tasks.length]? = some (.ended time .closed) →
      ∀ mid, (∀ a ∈ mid, a.RegistersNothing) →
        TornDown Gone config.enabledDependencies.names t (t.run mid) ∧
          ∀ id, (t.run mid).gathering? id = none →
            ∀ rest, (∀ a ∈ rest, a.RegistersNothing) →
              ReportsAtOnce config.enabledDependencies.names id ((t.run mid).run rest) := by
  intro t time hended mid hmid
  obtain ⟨lanes, hmade, hdistinct⟩ := Startup.connect_made hready
  have hopened : (ready.run before).registry.closed = false :=
    run_open (hmade.closed.trans (congrArg Registry.closed hempty)) fun a ha => (hbefore a ha).2
  have hbegins : Action.RegistersNothing (.beginClosing order : Action δ) := by
    intro name dependency heq
    cases heq
  -- The first closing has come to its end, so every handle that is registered is gone.
  have htears : TearsDown Gone (ready.run before).tasks.length t :=
    (TearsDown.begin hopened horder).run hgone hduring
  have hnamed : ready.AllNamed := fun k hk => hmade.exists_name hempty hhandles hdistinct hk
  have hshut : t.Shut := fun held hheld => hgone.refuses _ <|
    (((hnamed.run fun a ha => (hbefore a ha).1).act hbegins).run hduring).gone
      (htears.of_ended hended) held hheld
  have hall : t.registry.all = ready.registry.all :=
    (run_all hduring).trans (((ready.run before).act_keeps _).names hbegins |>.trans
      (run_all fun a ha => (hbefore a ha).1))
  have hnames : ∀ {actions : List (Action δ)}, (∀ a ∈ actions, a.RegistersNothing) →
      (t.run actions).registry.names = config.enabledDependencies.names := fun hactions =>
    (congrArg (List.map Prod.fst) ((run_all hactions).trans hall)).trans
      (Startup.connect_names hready hempty)
  have hreachable : t.Reachable :=
    (((Reachable.fresh (hmade.fresh hempty htasks)).run before).act _).run during
  have hapart : t.HeldApart :=
    (((hmade.heldApart hempty hhandles hdistinct).run before).act _).run during
  obtain ⟨hshut', henv⟩ := hshut.run hmid
  have hnone : GoneBut Gone [] (t.run mid) :=
    (htears.run hgone hmid).of_ended (run_ended hended mid)
  refine ⟨hnames hmid ▸ hnone.tornDown hgone (hapart.run mid) henv, fun id hid rest hrest => ?_⟩
  have hrefused : RefusedIn id (t.run mid) := fun g hg => by
    rw [hid] at hg
    cases hg
  have hlater := (hshut'.run hrest).1.reportsAtOnce ((hreachable.run mid).run rest).sound
    (hrefused.run hshut' hrest)
  have hsame : ((t.run mid).run rest).registry.names = config.enabledDependencies.names :=
    (congrArg (List.map Prod.fst) (run_all hrest)).trans (hnames hmid)
  exact hsame ▸ hlater

end Service

/-! ## Clients -/

namespace Client

/-- What was closed is closed, however that is done and whatever is answered. -/
theorem Adapter.run_close (a : Adapter) (now : Instant) (s : Shared) (n : Network) :
    (a.close.run now s n).2.1.closed = true ∧
      ∀ endpoint, a = .redis endpoint → (a.close.run now s n).2.1.kept = false := by
  refine ⟨?_, ?_⟩
  · cases a with
    | postgres endpoint timeout =>
        simp only [Adapter.close, Postgres.close, Operation.run]
        split
        · rfl
        · simp only [Operation.run]
          split <;> rfl
    | mongo endpoint timeout =>
        simp only [Adapter.close, Mongo.close, Operation.run]
        split
        · rfl
        · simp only [Operation.run]
          split <;> rfl
    | _ => rfl
  · rintro endpoint rfl
    rfl

/-- A client that was closed stays as it is if it is closed again. -/
theorem Adapter.run_close_again {a : Adapter} {s : Shared} (hclosed : s.closed = true)
    (hreleased : ∀ endpoint, a = .redis endpoint → s.kept = false) (now : Instant) (n : Network) :
    a.close.run now s n = (.after 0 (.ok ()), s, n) := by
  obtain ⟨closed, kept⟩ := s
  cases hclosed
  cases a with
  | redis endpoint =>
      cases hreleased endpoint rfl
      rfl
  | _ => rfl

/-- A client whose operations find that it is closed is closed for good. -/
theorem ClosedForGood.of_closed {c : Client} (hclosed : c.shared.closed = true)
    (hreleased : ∀ endpoint, c.adapter = .redis endpoint → c.shared.kept = false) :
    ClosedForGood c where
  closed := hclosed
  released := hreleased
  refuses _ hw hreachable _ hsteps := hreachable.refuses (hw ▸ hclosed) hsteps

/-- A call that leaves what is shared leaves the client. -/
theorem perform_eq {α : Type} {c : Client} {now : Instant} {n : Network} {op : Operation α}
    {reply : Reply α} (h : op.run now c.shared n = (reply, c.shared, n)) :
    c.perform now n op = (reply, c, n) := by rw [perform, h]

/-- A client that is closed for good refuses the calls of a service. -/
theorem ClosedForGood.refuses_calls {c : Client} (h : ClosedForGood c) : Refuses c where
  check now n := perform_eq (c.adapter.refusing_check.run h.closed now n)
  details now n := perform_eq (c.adapter.refusing_details.run h.closed now n)
  connect now n := perform_eq (c.adapter.refusing_check.run h.closed now n)
  close now n := perform_eq (Adapter.run_close_again h.closed h.released now n)

/-- Every client is closed for good once it was closed. -/
theorem closesForGood : ClosesForGood ClosedForGood where
  close now c n := by
    obtain ⟨hclosed, hreleased⟩ := c.adapter.run_close now c.shared n
    exact .of_closed hclosed hreleased
  refuses _ h := h.refuses_calls

end Client

open Service in
/-- **After the teardown of clients.**  Let clients of the dependencies of a configuration be
connected, whatever their drivers read and whatever their peers do, and let the first closing of
the registry return.  As long as nothing is registered, all of them are closed for good from then
on and no peer is asked; and a task that waits for no report at some time reports at once, then
and later, that every dependency is closed. -/
theorem torn_down_for_good (drivers : Client.Drivers) (timeout : Nat) (created : Instant)
    (config : Config) (network : Client.Network) (told : List Event)
    {ready : Service Client Client.Network}
    (hready : (Startup.connect (Client.ofKind drivers timeout created) config
      ((Program.serviceOf config network).tell none told)).2 = .ready ready)
    {before during : List (Action Client)} {order : List (String × Nat)}
    (hbefore : ∀ a ∈ before, a.RegistersNothing ∧ ∀ other, a ≠ .beginClosing other)
    (horder : order.Perm (ready.run before).registry.all)
    (hduring : ∀ a ∈ during, a.RegistersNothing) :
    let t := ((ready.run before).act (.beginClosing order)).run during
    ∀ time, t.tasks[(ready.run before).tasks.length]? = some (.ended time .closed) →
      ∀ mid, (∀ a ∈ mid, a.RegistersNothing) →
        TornDown Client.ClosedForGood config.enabledDependencies.names t (t.run mid) ∧
          ∀ id, (t.run mid).gathering? id = none →
            ∀ rest, (∀ a ∈ rest, a.RegistersNothing) →
              ReportsAtOnce config.enabledDependencies.names id ((t.run mid).run rest) :=
  torn_down Client.closesForGood rfl rfl rfl hready hbefore horder hduring

/-- Drivers that reach every peer over TCP, by the text that names it. -/
def directDrivers : Client.Drivers where
  http url := some (.host url.text)
  redis address _ _ := some (.host address)
  postgres url := some (.host url)
  mongo uri := some (.host uri)

/-- Four services, each of another kind. -/
def fourServices : Config :=
  let gate : Net.Url := ⟨"http", "", none, some (.name "gate"), none, .segments [""], none, none⟩
  { dependencies := .ofList [
      ("docs", { kind := .mongo "mongodb+srv://docs", connectRetries := 1 }),
      ("gate", { kind := .http gate true, connectRetries := 1 }),
      ("sql", { kind := .postgres "postgres://sql", connectRetries := 1 }),
      ("words", { kind := .redis "words" none none, connectRetries := 1 })] }

/-- Six exchanges end well, and no other does. -/
def lostPeers : Client.Network where
  sockets := .empty
  overTcp n :=
    if n = 2 then .after 3 (.ok (.status 200))
    else if n ≤ 6 then .after 3 (.ok .accepted)
    else .after 2 (.error Client.dropped)
  exchanges := 0

/-- The order in which the four are closed. -/
def wordsFirst : List (String × Nat) := [("words", 3), ("gate", 1), ("docs", 0), ("sql", 2)]

/-- The ticker is started before the closing. -/
def startTicking : List (Service.Action Client) := [.beginTicker, .move 0 .whole]

/-- What the closing does: two of the clients wait until their drivers are through. -/
def closeFour : List (Service.Action Client) :=
  List.replicate 5 (.move 1 .whole) ++ [.pass 8, .move 1 .whole, .move 1 .whole, .pass 10,
    .move 1 .whole, .move 1 .whole]

/-- The service after that. -/
def closedFour (ready : Service Client Client.Network) : Service Client Client.Network :=
  ((ready.run startTicking).act (.beginClosing wordsFirst)).run closeFour

/-- What comes of the startup of the four. -/
def fourServicesOutcome : Startup.Outcome Client Client.Network Client.SetupFailure :=
  (Startup.connect (Client.ofKind directDrivers Client.connectTimeout 0) fourServices
    ((Program.serviceOf fourServices lostPeers).tell none [])).2

/-- Whether a task has closed its registry. -/
def hasClosed : Option (Instant × Outcome) → Bool
  | some (_, .closed) => true
  | _ => false

theorem closed_of_hasClosed {s : Service Client Client.Network} {id : Nat}
    (h : hasClosed (s.outcome? id) = true) : ∃ time, s.tasks[id]? = some (.ended time .closed) := by
  unfold hasClosed at h
  split at h
  · next time hended => exact ⟨time, Service.outcome?_eq_some_iff.mp hended⟩
  · cases h

theorem fourServices_torn_down :
    ∃ ready time, (fourServicesOutcome = .ready ready ∧
      wordsFirst.Perm (ready.run startTicking).registry.all ∧
      (closedFour ready).tasks[(ready.run startTicking).tasks.length]? =
        some (.ended time .closed) ∧
      ((closedFour ready).run []).gathering? 2 = none) ∧
      Service.ReportsAtOnce ["docs", "gate", "sql", "words"] 2
        (((closedFour ready).run []).run [.beginRequest]) := by
  have hcheck : fourServicesOutcome.ready?.any (fun ready =>
      decide (wordsFirst.Perm (ready.run startTicking).registry.all) &&
        (hasClosed ((closedFour ready).outcome? (ready.run startTicking).tasks.length) &&
          (((closedFour ready).run []).gathering? 2).isNone)) = true := by decide +kernel
  obtain ⟨ready, hready, hafter⟩ := Startup.Outcome.exists_of_ready? hcheck
  obtain ⟨horder, hafter⟩ := (Bool.and_eq_true _ _).mp hafter
  obtain ⟨hclosed, hidle⟩ := (Bool.and_eq_true _ _).mp hafter
  obtain ⟨time, hended⟩ := closed_of_hasClosed hclosed
  rw [decide_eq_true_iff] at horder
  rw [Option.isNone_iff_eq_none] at hidle
  have hbefore : ∀ a ∈ startTicking,
      a.RegistersNothing ∧ ∀ other, a ≠ .beginClosing other := by
    simp [startTicking, Service.Action.RegistersNothing]
  have hduring : ∀ a ∈ closeFour, a.RegistersNothing := by
    simp [closeFour, Service.Action.RegistersNothing]
  have hrequest : ∀ a ∈ ([.beginRequest] : List (Service.Action Client)),
      a.RegistersNothing := by simp [Service.Action.RegistersNothing]
  refine ⟨ready, time, ⟨hready, horder, hended, hidle⟩, ?_⟩
  exact (torn_down_for_good directDrivers Client.connectTimeout 0 fourServices lostPeers [] hready
    hbefore horder hduring time hended [] (by simp)).2 2 hidle [.beginRequest] hrequest

end HealthWatch
