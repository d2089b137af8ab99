import HealthWatch.Proofs.ClientOperations
import HealthWatch.Proofs.NameMapEntries
import Mathlib.Algebra.Order.Floor.Semifield
import Mathlib.Data.Rat.Floor

/-!
# The diagnostics of a document store

A server tells its uptime as a number of seconds.  `Number` is what such a number may be, whatever
its type, and `Number.seconds?` is how many whole seconds it comes to.  Doubles and whole numbers
are read as just that (`Bson.seconds?_eq`), and decimal numbers are not read at all.

Diagnostics are two exchanges of which the second takes place only if the first one succeeds.
`Diagnosing` lists how they can go, with the commands that are sent and with what comes of them;
`diagnostics_course` says that they always go like this.
-/

namespace HealthWatch.Client

/-! ## Numbers of seconds -/

/-- What a number may be, whatever its type. -/
inductive Number where
  | notANumber
  | infinite (negative : Bool)
  | finite (q : ℚ)

namespace Number

/-- The number `significand * base ^ exponent`, with its sign. -/
def scaled (negative : Bool) (significand base : Nat) (exponent : Int) : Number :=
  .finite ((if negative then -1 else 1) * (significand * (base : ℚ) ^ exponent))

/-- What a double is. -/
def ofFloat (x : Float) : Number :=
  match Binary.ofFloat x with
  | .notANumber => .notANumber
  | .infinite negative => .infinite negative
  | .finite negative mantissa exponent => scaled negative mantissa 2 exponent

/-- What a number with decimal digits is. -/
def ofDecimal128 : Decimal128 → Number
  | .notANumber => .notANumber
  | .infinite negative => .infinite negative
  | .finite negative coefficient exponent => scaled negative coefficient 10 exponent

/-- The whole seconds of a number that is not negative, as far as they are told apart. -/
def seconds? : Number → Option Nat
  | .notANumber => none
  | .infinite negative => if negative then none else some maxSeconds
  | .finite q => if 0 ≤ q then some (min ⌊q⌋₊ maxSeconds) else none

theorem seconds?_finite (q : ℚ) :
    seconds? (.finite q) = if 0 ≤ q then some (min ⌊q⌋₊ maxSeconds) else none := rfl

end Number

namespace Bson

/-- The number that a value is, if it is one. -/
def number? : Bson → Option Number
  | .double x => some (.ofFloat x)
  | .int32 n => some (.finite n.toInt)
  | .int64 n => some (.finite n.toInt)
  | .decimal128 d => some (.ofDecimal128 d)
  | _ => none

/-- The whole seconds of a value that is a number of any type. -/
def whole? (v : Bson) : Option Nat := v.number?.bind Number.seconds?

/-- Whether a value is a number with decimal digits. -/
def isDecimal : Bson → Bool
  | .decimal128 _ => true
  | _ => false

end Bson

/-- The whole part of a scaled number is computed on natural numbers. -/
theorem floor_scaled (mantissa : Nat) (exponent : Int) :
    ⌊(mantissa : ℚ) * 2 ^ exponent⌋₊ = wholePart mantissa exponent := by
  have hsplit : exponent = (exponent.toNat : Int) - ((-exponent).toNat : Int) := by omega
  have hquotient : (mantissa : ℚ) * 2 ^ exponent =
      ((mantissa * 2 ^ exponent.toNat : Nat) : ℚ) / ((2 ^ (-exponent).toNat : Nat) : ℚ) := by
    conv_lhs => rw [hsplit, zpow_sub₀ two_ne_zero, zpow_natCast, zpow_natCast]
    push_cast
    rw [mul_div_assoc]
  rw [hquotient, Nat.floor_div_eq_div]
  rfl

/-- The whole seconds of a scaled number that is not less than zero. -/
theorem seconds?_scaled (negative : Bool) (mantissa : Nat) (exponent : Int) :
    (Number.scaled negative mantissa 2 exponent).seconds? =
      if negative && mantissa != 0 then none
      else some (min (wholePart mantissa exponent) maxSeconds) := by
  have hscale : (0 : ℚ) < 2 ^ exponent := zpow_pos two_pos exponent
  have hnonneg : (0 : ℚ) ≤ mantissa * 2 ^ exponent := mul_nonneg (Nat.cast_nonneg _) hscale.le
  rw [Number.scaled, Number.seconds?_finite]
  cases negative with
  | false => simp [hnonneg, floor_scaled]
  | true =>
      by_cases hzero : mantissa = 0
      · simp [hzero, wholePart]
      · have hpos : (0 : ℚ) < mantissa * 2 ^ exponent :=
          mul_pos (Nat.cast_pos.mpr (Nat.pos_of_ne_zero hzero)) hscale
        simp [hzero, hpos]

/-- A double is read as the number that it is. -/
theorem secondsOfFloat?_eq (x : Float) : secondsOfFloat? x = (Number.ofFloat x).seconds? := by
  unfold secondsOfFloat? Number.ofFloat
  cases Binary.ofFloat x with
  | notANumber => rfl
  | infinite negative => rfl
  | finite negative mantissa exponent => exact (seconds?_scaled negative mantissa exponent).symm

/-- A whole number is read as the number that it is. -/
theorem secondsOfInt?_eq {n : Int} (hn : n ≤ maxSeconds) :
    secondsOfInt? n = (Number.finite n).seconds? := by
  have hsign : (0 : ℚ) ≤ n ↔ 0 ≤ n := Int.cast_nonneg_iff
  rw [secondsOfInt?, Number.seconds?_finite]
  split
  · next hnonneg =>
    obtain ⟨k, rfl⟩ := Int.eq_ofNat_of_zero_le hnonneg
    have hk : k ≤ maxSeconds := Int.ofNat_le.mp hn
    rw [if_pos (hsign.mpr hnonneg), Int.cast_natCast, Nat.floor_natCast, Nat.min_eq_left hk]
    rfl
  · next hnegative => rw [if_neg fun h => hnegative (hsign.mp h)]

/-- **What is read of an uptime**: numbers of all types but the decimal one. -/
theorem Bson.seconds?_eq (v : Bson) : v.seconds? = if v.isDecimal then none else v.whole? := by
  cases v with
  | double x => exact secondsOfFloat?_eq x
  | int32 n =>
      have hn : n.toInt ≤ maxSeconds := Int.le_trans n.toInt_le (by decide)
      exact secondsOfInt?_eq hn
  | int64 n =>
      have hn : n.toInt ≤ maxSeconds := Int.le_trans n.toInt_le (by decide)
      exact secondsOfInt?_eq hn
  | _ => rfl

/-! ## Two exchanges -/

/-- What a message has for an uptime. -/
def Message.uptime? : Message → Option Bson
  | .document fields => fields.reverse.lookup "uptime"
  | _ => none

/-- How diagnostics go if the answers to the two commands are `ping` and `status`, and if `read`
says what an uptime comes to: the commands that are sent, and what is answered. -/
inductive Diagnosing (read : Bson → Option Nat) (ping status : Reply Message) :
    List String → Reply Diagnostics → Prop
  /-- The first command is not answered. -/
  | waits (hping : ping = .never) : Diagnosing read ping status ["ping"] .never
  /-- The first command fails. -/
  | refused {wait : Nat} {e : DependencyError} (hping : ping = .after wait (.error e)) :
      Diagnosing read ping status ["ping"] (.after wait (.error e))
  /-- The second command is not answered. -/
  | statusWaits {wait : Nat} {m : Message} (hping : ping = .after wait (.ok m))
      (hstatus : status = .never) :
      Diagnosing read ping status ["ping", "serverStatus"] .never
  /-- The second command fails. -/
  | statusRefused {wait more : Nat} {m : Message} {e : DependencyError}
      (hping : ping = .after wait (.ok m)) (hstatus : status = .after more (.error e)) :
      Diagnosing read ping status ["ping", "serverStatus"] (.after (wait + more) (.error e))
  /-- Both commands succeed, and the uptime is read. -/
  | told {wait more secs : Nat} {m m' : Message} {v : Bson} (hping : ping = .after wait (.ok m))
      (hstatus : status = .after more (.ok m')) (huptime : m'.uptime? = some v)
      (hread : read v = some secs) :
      Diagnosing read ping status ["ping", "serverStatus"]
        (.after (wait + more)
          (.ok ⟨(Duration.ofSecs secs).uptime, (Duration.ofMillis wait).toMillis⟩))
  /-- Both commands succeed, but there is no uptime that is read. -/
  | untold {wait more : Nat} {m m' : Message} (hping : ping = .after wait (.ok m))
      (hstatus : status = .after more (.ok m')) (hnone : m'.uptime?.bind read = none) :
      Diagnosing read ping status ["ping", "serverStatus"]
        (.after (wait + more) (.error (.protocol "serverStatus has no uptime")))

/-- Diagnostics succeed exactly if both commands do and the uptime is read. -/
theorem Diagnosing.succeeds_iff {read : Bson → Option Nat} {ping status : Reply Message}
    {sent : List String} {reply : Reply Diagnostics} (h : Diagnosing read ping status sent reply) :
    (∃ wait d, reply = .after wait (.ok d)) ↔
      ∃ wait m more m' v secs, ping = .after wait (.ok m) ∧ status = .after more (.ok m') ∧
        m'.uptime? = some v ∧ read v = some secs := by
  constructor
  · rintro ⟨wait, d, rfl⟩
    cases h with
    | told hping hstatus huptime hread => exact ⟨_, _, _, _, _, _, hping, hstatus, huptime, hread⟩
  · rintro ⟨wait, m, more, m', v, secs, rfl, rfl, huptime, hread⟩
    cases h with
    | waits hping | refused hping => cases hping
    | statusWaits _ hstatus | statusRefused _ hstatus => cases hstatus
    | told => exact ⟨_, _, rfl⟩
    | untold _ hstatus hnone =>
        cases hstatus
        rw [huptime, Option.bind_some, hread] at hnone
        cases hnone

/-- The network after commands were sent, one after another. -/
def Network.after (timeout : Nat) (endpoint : Endpoint) (n : Network) : List String → Network
  | [] => n
  | command :: rest => (n.ask timeout endpoint (.command command)).2.after timeout endpoint rest

/-- Every command is one exchange. -/
theorem Network.exchanges_after (timeout : Nat) (endpoint : Endpoint) (n : Network)
    (commands : List String) :
    (n.after timeout endpoint commands).exchanges = n.exchanges + commands.length := by
  induction commands generalizing n with
  | nil => rfl
  | cons command rest ih =>
      rw [Network.after, ih, Network.exchanges_ask, List.length_cons]
      omega

/-- A server remembers a command and goes on to answer as before. -/
theorem DocumentServer.run_snd (s : DocumentServer) (command : String) :
    (s.run command).2 = { s with seen := (command, "admin") :: s.seen } := by
  simp only [run]
  split <;> rfl

/-- A server sees the commands that are sent to it, in their order, and nothing else. -/
theorem Network.seen_after (timeout : Nat) {path : String} {n : Network} {d : DocumentServer}
    (hserver : n.sockets.get? path = some (.documents d)) (commands : List String) :
    ∃ d', (n.after timeout (.socket path none) commands).sockets.get? path = some (.documents d') ∧
      d'.answer = d.answer ∧ d'.seen = (commands.map (·, "admin")).reverse ++ d.seen := by
  induction commands generalizing n d with
  | nil => exact ⟨d, hserver, rfl, rfl⟩
  | cons command rest ih =>
      have hnext : (n.ask timeout (.socket path none) (.command command)).2.sockets.get? path =
          some (.documents (d.run command).2) := by
        simp only [Network.ask, hserver, Server.ask, NameMap.get?_insert, if_true]
      rw [DocumentServer.run_snd] at hnext
      obtain ⟨d', hd', hanswer, hseen⟩ := ih hnext
      refine ⟨d', hd', hanswer, ?_⟩
      rw [hseen, List.map_cons, List.reverse_cons, List.append_assoc]
      rfl

/-- What is made of the answer with the uptime. -/
theorem statusDocument_eq (latency : Float) (m : Message) : Mongo.statusDocument latency m =
    match m.uptime?.bind Bson.seconds? with
    | some secs => .ok ⟨(Duration.ofSecs secs).uptime, latency⟩
    | none => .error (.protocol "serverStatus has no uptime") := by
  cases m <;> rfl

/-- What is made of the answer to the second command. -/
def readStatus (latency : Float) : Reply Message → Reply Diagnostics
  | .never => .never
  | .after wait answer => .after wait (answer.bind (Mongo.statusDocument latency))

section

variable (now : Instant) (endpoint : Endpoint) (timeout : Nat) (n : Network)

/-- An open client of a document store. -/
def openStore : Client := .new (.mongo endpoint timeout)

/-- The answer to the first command of diagnostics. -/
def pingReply : Reply Message × Network := n.ask timeout endpoint (.command "ping")

/-- The answer to the second one. -/
def statusReply : Reply Message × Network :=
  (pingReply endpoint timeout n).2.ask timeout endpoint (.command "serverStatus")

/-- An open client runs a command and goes on with what is answered. -/
theorem run_adminCommand {α : Type} (command : String) (next : Message → Operation α) {s : Shared}
    (hopen : s.closed = false) :
    ((Mongo.adminCommand endpoint timeout command).andThen next).run now s n =
      match n.ask timeout endpoint (.command command) with
      | (.never, n) => (.never, s, n)
      | (.after wait (.error e), n) => (.after wait (.error e), s, n)
      | (.after wait (.ok m), n) =>
        let (reply, s, n) := (next m).run (now + wait) s n
        (reply.later wait, s, n) := by
  simp only [Mongo.adminCommand, Operation.whenOpen, Operation.andThen, Operation.run, hopen,
    Bool.false_eq_true, if_false, id]
  cases n.ask timeout endpoint (.command command) with
  | mk reply asked =>
      cases reply with
      | never => rfl
      | after wait answer => cases answer <;> rfl

/-- What diagnostics make of the answer to the first command. -/
theorem details_openStore : Dependency.details now (openStore endpoint timeout) n =
    match (pingReply endpoint timeout n).1 with
    | .never => (.never, openStore endpoint timeout, (pingReply endpoint timeout n).2)
    | .after wait (.error e) =>
      (.after wait (.error e), openStore endpoint timeout, (pingReply endpoint timeout n).2)
    | .after wait (.ok _) =>
      ((readStatus (Duration.ofMillis wait).toMillis (statusReply endpoint timeout n).1).later wait,
        openStore endpoint timeout, (statusReply endpoint timeout n).2) := by
  have hopen : Dependency.details now (openStore endpoint timeout) n =
      (openStore endpoint timeout).perform now n (Mongo.details endpoint timeout) := rfl
  rw [hopen, perform, Mongo.details, Operation.run, Mongo.check, Operation.andThen_assoc]
  simp only [Operation.andThen, anyMessage, run_adminCommand, openStore, new, Operation.run,
    Shared.fresh, statusReply, pingReply]
  cases n.ask timeout endpoint (.command "ping") with
  | mk ping next =>
      cases ping with
      | never => rfl
      | after wait answer =>
          cases answer with
          | error e => rfl
          | ok m =>
              simp only [Nat.add_sub_cancel_left, elapsed, readStatus]
              cases next.ask timeout endpoint (.command "serverStatus") with
              | mk status last =>
                  cases status with
                  | never => rfl
                  | after more answer' => cases answer' <;> rfl

/-- What diagnostics answer if both commands succeed. -/
theorem Diagnosing.of_message {ping status : Reply Message} {wait more : Nat} {m m' : Message}
    (hping : ping = .after wait (.ok m)) (hstatus : status = .after more (.ok m')) :
    Diagnosing Bson.seconds? ping status ["ping", "serverStatus"]
      ((readStatus (Duration.ofMillis wait).toMillis (.after more (.ok m'))).later wait) := by
  rw [readStatus, Except.bind, statusDocument_eq]
  cases hread : m'.uptime?.bind Bson.seconds? with
  | none => exact .untold hping hstatus hread
  | some secs =>
      obtain ⟨v, huptime, hseconds⟩ := Option.bind_eq_some_iff.mp hread
      exact .told hping hstatus huptime hseconds

/-- Diagnostics go in one of the ways that are listed. -/
theorem exists_diagnosing :
    ∃ sent, Diagnosing Bson.seconds? (pingReply endpoint timeout n).1
        (statusReply endpoint timeout n).1 sent
        (Dependency.details now (openStore endpoint timeout) n).1 ∧
      (Dependency.details now (openStore endpoint timeout) n).2 =
        (openStore endpoint timeout, n.after timeout endpoint sent) := by
  rw [details_openStore]
  cases hping : (pingReply endpoint timeout n).1 with
  | never => exact ⟨_, .waits rfl, rfl⟩
  | after wait outcome =>
      cases outcome with
      | error e => exact ⟨_, .refused rfl, rfl⟩
      | ok m =>
          refine ⟨["ping", "serverStatus"], ?_, rfl⟩
          cases hstatus : (statusReply endpoint timeout n).1 with
          | never => exact .statusWaits rfl rfl
          | after more outcome =>
              cases outcome with
              | error e => exact .statusRefused rfl rfl
              | ok m' => exact .of_message rfl rfl

/-- **Diagnostics of a document store.**  They go in one of the ways that `Diagnosing` lists, with
an uptime that may be a number of any type but the decimal one; no other command is sent, and a
server sees those that are, in their order.  So they succeed exactly if both commands do and the
second one is answered with such an uptime. -/
theorem diagnostics_course :
    let call := Dependency.details now (openStore endpoint timeout) n
    let ping := (pingReply endpoint timeout n).1
    let status := (statusReply endpoint timeout n).1
    ∃ sent,
      Diagnosing (fun v => if v.isDecimal then none else v.whole?) ping status sent call.1 ∧
      call.2 = (openStore endpoint timeout, n.after timeout endpoint sent) ∧
      call.2.2.exchanges = n.exchanges + sent.length ∧
      (∀ path d, endpoint = .socket path none → n.sockets.get? path = some (.documents d) →
        ∃ d', call.2.2.sockets.get? path = some (.documents d') ∧ d'.answer = d.answer ∧
          d'.seen = (sent.map (·, "admin")).reverse ++ d.seen) ∧
      ((∃ wait d, call.1 = .after wait (.ok d)) ↔
        ∃ wait m more m' v secs, ping = .after wait (.ok m) ∧ status = .after more (.ok m') ∧
          m'.uptime? = some v ∧ v.isDecimal = false ∧ v.whole? = some secs) := by
  intro call ping status
  obtain ⟨sent, hcourse, hafter⟩ := exists_diagnosing now endpoint timeout n
  have hread : Bson.seconds? = fun v => if v.isDecimal then none else v.whole? :=
    funext Bson.seconds?_eq
  refine ⟨sent, hread ▸ hcourse, hafter, ?_, ?_, ?_⟩
  · rw [hafter, Network.exchanges_after]
  · rintro path d rfl hserver
    rw [hafter]
    exact Network.seen_after timeout hserver sent
  · have hsome : ∀ (v : Bson) (secs : Nat),
        v.seconds? = some secs ↔ v.isDecimal = false ∧ v.whole? = some secs := by
      intro v secs
      rw [Bson.seconds?_eq]
      cases v.isDecimal <;> simp
    have hsucceeds := hcourse.succeeds_iff
    simp only [hsome] at hsucceeds
    exact hsucceeds

end

/-- A server that has been up for 42 seconds, and tells it with decimal digits. -/
def decimalServer : DocumentServer where
  answer command _ :=
    .document (if command = "serverStatus" then [("uptime", .decimal128 (.finite false 42 0))]
      else [])
  seen := []

/-- The network of that server. -/
def decimalNetwork : Network := .ofSockets (.ofList [("/tmp/store.sock", .documents decimalServer)])

/-- An uptime with decimal digits is a number like any other, but it is not read. -/
theorem decimal_uptime_unread :
    let endpoint : Endpoint := .socket "/tmp/store.sock" none
    let call := Dependency.details 0 (openStore endpoint 150) decimalNetwork
    (.decimal128 (.finite false 42 0) : Bson).whole? = some 42 ∧
    call.1 = .after 0 (.error (.protocol "serverStatus has no uptime")) ∧
    ¬∃ sent, Diagnosing Bson.whole? (pingReply endpoint 150 decimalNetwork).1
      (statusReply endpoint 150 decimalNetwork).1 sent call.1 := by
  intro endpoint call
  have hwhole : (.decimal128 (.finite false 42 0) : Bson).whole? = some 42 := by
    have hnumber : (.decimal128 (.finite false 42 0) : Bson).number? = some (.finite 42) := by
      simp [Bson.number?, Number.ofDecimal128, Number.scaled]
    have hnonneg : (0 : ℚ) ≤ 42 := by decide
    rw [Bson.whole?, hnumber, Option.bind_some, Number.seconds?_finite, if_pos hnonneg,
      Nat.floor_ofNat]
    rfl
  have hcall : call.1 = .after 0 (.error (.protocol "serverStatus has no uptime")) := by
    rfl
  refine ⟨hwhole, hcall, fun ⟨sent, hdiagnosing⟩ => ?_⟩
  obtain ⟨wait, d, hok⟩ := hdiagnosing.succeeds_iff.mpr
    ⟨0, .document [], 0, .document [("uptime", .decimal128 (.finite false 42 0))],
      .decimal128 (.finite false 42 0), 42, rfl, rfl, rfl, hwhole⟩
  rw [hcall] at hok
  cases hok

end HealthWatch.Client
