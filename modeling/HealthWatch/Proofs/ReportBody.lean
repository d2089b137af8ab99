import HealthWatch.Proofs.DigitRuns
import HealthWatch.Proofs.NameOrder
import HealthWatch.Report.Digest

/-!
# What the body of a health answer keeps

The body of a health answer is a JSON text without controls, and what it tells can be read
off it again: the texts as they are, the counts, the digits of the latencies, and which of
these are absent (`Report.body_keeps`).  Everything that is written is readable, so this is
one case of the round trip of values, followed by a look at the fields by their names.

So two reports with one body are told alike.  If their times are the same, their latencies
finite, and these latencies told apart by their digits, they are the same to the second of
the uptime.
-/

namespace HealthWatch

open HealthWatch.Json

/-! ## Reading fields -/

theorem natOfDigits_toString (n : Nat) : natOfDigits? (toString n) = some n := by
  have hempty : (toString n).isEmpty = false := by
    rw [String.isEmpty_eq_false_iff, ne_eq, ← String.toList_eq_nil_iff, toList_toString]
    exact Nat.toDigits_ne_nil
  have hall : (toString n).toList.all Char.isDigit = true := by
    rw [toList_toString]
    exact List.all_eq_true.mpr (Digits.ofNat n).all_digits
  rw [natOfDigits?, hempty, hall, toList_toString, digitsValue_toDigits]
  rfl

theorem count_ofNat (n : Nat) : (Value.ofNat n).count? = some n :=
  natOfDigits_toString n

theorem fields_ofFields (fields : List (String × Value)) :
    (Value.ofFields fields).fields? = some fields := by
  simp only [Value.ofFields, Value.fields?]
  induction fields with
  | nil => rfl
  | cons f fields ih => simp [ih]

theorem digits_latencyJson (latency : Float) :
    (latencyJson latency).digits? = some (latencyDigits? latency) := by
  unfold latencyJson latencyDigits?
  cases Binary.ofFloat latency <;> rfl

theorem healthyOf_statusText (f : Finding) : healthyOf? f.statusText = some f.isHealthy := by
  cases f <;> rfl

theorem ofText_status (s : Status) : Status.ofText? s.text = some s := by
  cases s <;> rfl

/-- The entry of a dependency is read as what it was made from. -/
theorem entry_ofValue (stamp : Instant → String) (r : ProbeResult) :
    Digest.Entry.ofValue? (r.toJson stamp) = some (r.digest stamp) := by
  have hhealthy := healthyOf_statusText r.finding
  unfold Digest.Entry.ofValue? ProbeResult.toJson ProbeResult.digest
  rw [fields_ofFields]
  -- each of the three optional fields is there or left out
  cases r.finding.uptime? <;> cases r.finding.latency? <;> cases r.finding.error? <;>
    simp [requiredField?, optionalField?, optionalField, List.lookup_cons, Value.ofText, Value.text?,
      hhealthy, digits_latencyJson]

/-- A report is read as what it tells. -/
theorem digest_ofValue (stamp : Instant → String) (r : Report) :
    Digest.ofValue? (r.toJson stamp) = some (r.digest stamp) := by
  have hentries : Digest.entriesOf? (.ofFields (r.dependencies.entries.map fun e =>
      (e.1, e.2.toJson stamp))) =
        some (r.dependencies.entries.map fun e => (e.1, e.2.digest stamp)) := by
    unfold Digest.entriesOf?
    rw [fields_ofFields, Option.bind_eq_bind, Option.bind_some]
    induction r.dependencies.entries with
    | nil => rfl
    | cons e entries ih => simp [entry_ofValue, ih]
  unfold Digest.ofValue? Report.toJson Report.digest
  rw [fields_ofFields]
  simp [requiredField?, List.lookup_cons, Value.ofText, Value.text?, ofText_status, count_ofNat,
    hentries]

/-! ## Writing what can be read -/

theorem readable_ofText (s : String) : (Value.ofText s).Readable := .text s

theorem readable_ofNat (n : Nat) : (Value.ofNat n).Readable := by
  obtain ⟨m, hm⟩ := count_numeral n
  rw [Value.ofNat, hm]
  exact .number m

theorem readable_latencyJson (latency : Float) : (latencyJson latency).Readable := by
  unfold latencyJson
  split
  · next h =>
    obtain ⟨m, hm⟩ := latency_numeral h
    rw [hm]
    exact .number m
  · exact .null

theorem readable_ofFields {fields : List (String × Value)} (h : ∀ f ∈ fields, f.2.Readable) :
    (Value.ofFields fields).Readable := by
  refine .object (fun f hf => ?_) fun f hf => ?_
  all_goals obtain ⟨g, hg, rfl⟩ := List.mem_map.mp hf
  · rfl
  · exact h g hg

theorem readable_optionalField {α : Type} {toJson : α → Value} (h : ∀ a, (toJson a).Readable)
    (name : String) (value : Option α) :
    ∀ f ∈ optionalField name value toJson, f.2.Readable := by
  cases value with
  | none => exact fun f hf => absurd hf List.not_mem_nil
  | some a =>
      intro f hf
      rw [List.mem_singleton.mp hf]
      exact h a

theorem ProbeResult.readable_toJson (stamp : Instant → String) (r : ProbeResult) :
    (r.toJson stamp).Readable := by
  refine readable_ofFields fun f hf => ?_
  simp only [List.mem_append, List.mem_singleton] at hf
  rcases hf with (((rfl | hf) | hf) | rfl) | hf
  · exact readable_ofText _
  · exact readable_optionalField readable_ofText _ _ f hf
  · exact readable_optionalField readable_latencyJson _ _ f hf
  · exact readable_ofText _
  · exact readable_optionalField readable_ofText _ _ f hf

theorem Report.readable_toJson (stamp : Instant → String) (r : Report) :
    (r.toJson stamp).Readable := by
  refine readable_ofFields ?_
  simp only [List.forall_mem_cons]
  refine ⟨readable_ofText _, readable_ofText _, readable_ofText _, readable_ofText _,
    readable_ofNat _, readable_ofFields fun f hf => ?_, by simp⟩
  obtain ⟨e, _, rfl⟩ := List.mem_map.mp hf
  exact e.2.readable_toJson stamp

/-! ## Telling reports apart -/

/-- The latencies of a report. -/
def Report.latencies (r : Report) : List Float :=
  r.dependencies.values.filterMap (·.finding.latency?)

/-- Whether a latency is a finite number. -/
def IsFinite (latency : Float) : Prop :=
  ∃ negative mantissa exponent, Binary.ofFloat latency = .finite negative mantissa exponent

/-- Whether two reports were made at the same time, of results of the same times. -/
structure Report.SameTimes (r r' : Report) : Prop where
  timestamp : r.timestamp = r'.timestamp
  checkedAt : ∀ name x x', r.dependency? name = some x → r'.dependency? name = some x' →
    x.checkedAt = x'.checkedAt

theorem latencyDigits_eq {latency : Float} (h : IsFinite latency) :
    latencyDigits? latency = some (latencyLayout.write latency) := by
  obtain ⟨negative, mantissa, exponent, h⟩ := h
  rw [latencyDigits?, h]

/-- Findings that are told alike are equal, if their latencies are finite and told apart by
their digits. -/
theorem Finding.eq_of_told {f g : Finding} (hhealthy : f.isHealthy = g.isHealthy)
    (huptime : f.uptime? = g.uptime?) (herror : f.error? = g.error?)
    (hlatency : f.latency? = g.latency?) : f = g := by
  cases f <;> cases g <;> simp_all [isHealthy, uptime?, error?, latency?]

theorem latency_eq_of_digits {a b : Option Float} (ha : ∀ x ∈ a, IsFinite x)
    (hb : ∀ y ∈ b, IsFinite y)
    (hdigits : ∀ x ∈ a, ∀ y ∈ b, latencyLayout.write x = latencyLayout.write y → x = y)
    (h : a.map latencyDigits? = b.map latencyDigits?) : a = b := by
  cases a with
  | none =>
      cases b with
      | none => rfl
      | some y => cases h
  | some x =>
      cases b with
      | none => cases h
      | some y =>
          rw [Option.map_some, Option.map_some, latencyDigits_eq (ha x rfl),
            latencyDigits_eq (hb y rfl)] at h
          rw [hdigits x rfl y rfl (Option.some.inj (Option.some.inj h))]

/-- Lists are equal if their images are, and the images tell their members apart. -/
theorem eq_of_map_eq {α β : Type} {f : α → β} {l l' : List α}
    (hf : ∀ a ∈ l, ∀ b ∈ l', f a = f b → a = b) (h : l.map f = l'.map f) : l = l' := by
  induction l generalizing l' with
  | nil => exact (List.map_eq_nil_iff.mp h.symm).symm
  | cons a l ih =>
      cases l' with
      | nil => cases h
      | cons b l' =>
          rw [List.map_cons, List.map_cons] at h
          obtain ⟨hhead, htail⟩ := List.cons.inj h
          rw [hf a List.mem_cons_self b List.mem_cons_self hhead]
          rw [ih (fun x hx y hy => hf x (List.mem_cons_of_mem _ hx) y (List.mem_cons_of_mem _ hy))
            htail]

theorem mem_latencies {r : Report} {name : String} {x : ProbeResult}
    (h : r.dependency? name = some x) {latency : Float}
    (hlatency : x.finding.latency? = some latency) : latency ∈ r.latencies := by
  have hmem := NameMap.get?_eq_some_iff.mp h
  exact List.mem_filterMap.mpr ⟨x, List.mem_map.mpr ⟨_, hmem, rfl⟩, hlatency⟩

/-- Reports that are told alike have the same results, if their times are the same and their
latencies finite and told apart by their digits. -/
theorem Report.dependencies_eq {stamp : Instant → String} {r r' : Report} (htimes : r.SameTimes r')
    (hfinite : ∀ x ∈ r.latencies ++ r'.latencies, IsFinite x)
    (hdigits : ∀ x ∈ r.latencies, ∀ y ∈ r'.latencies,
      latencyLayout.write x = latencyLayout.write y → x = y)
    (h : (r.digest stamp).dependencies = (r'.digest stamp).dependencies) :
    r.dependencies = r'.dependencies := by
  have hentries : r.dependencies.entries = r'.dependencies.entries := by
    refine eq_of_map_eq (fun e he e' he' heq => ?_) h
    obtain ⟨name, x⟩ := e
    obtain ⟨name', x'⟩ := e'
    obtain ⟨rfl, hdigest⟩ := Prod.mk.inj heq
    have hx : r.dependency? name = some x := NameMap.get?_eq_some_iff.mpr he
    have hx' : r'.dependency? name = some x' := NameMap.get?_eq_some_iff.mpr he'
    obtain ⟨hhealthy, huptime, hlatency, _, herror⟩ := Digest.Entry.mk.inj hdigest
    have hlatencies : x.finding.latency? = x'.finding.latency? := by
      refine latency_eq_of_digits (fun l hl => ?_) (fun l hl => ?_) (fun l hl l' hl' => ?_) hlatency
      · exact hfinite l (List.mem_append_left _ (mem_latencies hx hl))
      · exact hfinite l (List.mem_append_right _ (mem_latencies hx' hl))
      · exact hdigits l (mem_latencies hx hl) l' (mem_latencies hx' hl')
    have hfinding := Finding.eq_of_told hhealthy huptime herror hlatencies
    have hchecked := htimes.checkedAt name x x' hx hx'
    cases x
    cases x'
    cases hfinding
    cases hchecked
    rfl
  exact NameMap.ext_get? fun name => by rw [NameMap.get?, NameMap.get?, hentries]

/-! ## The body -/

theorem lookup_map {α β : Type} (f : α → β) (l : List (String × α)) (name : String) :
    (l.map fun e => (e.1, f e.2)).lookup name = (NameMap.answer l name).map f := by
  induction l with
  | nil => rfl
  | cons e l ih =>
      rw [List.map_cons, List.lookup_cons, NameMap.answer_cons, ih]
      by_cases hname : e.1 = name
      · simp [hname]
      · rw [if_neg hname, beq_eq_false_iff_ne.mpr (Ne.symm hname)]

theorem Report.digest_of_body (stamp : Instant → String) (r : Report) :
    Digest.ofBody? (r.body stamp) = some (r.digest stamp) := by
  rw [Digest.ofBody?, Report.body, read_write (r.readable_toJson stamp), Option.bind_some,
    digest_ofValue]

/-- Reports that are the same to the second of the uptime have one body. -/
theorem Report.body_congr (stamp : Instant → String) {r r' : Report}
    (hdependencies : r.dependencies = r'.dependencies) (htimestamp : r.timestamp = r'.timestamp)
    (hsecs : r.uptime.secs = r'.uptime.secs) : r.body stamp = r'.body stamp := by
  have huptime : r.uptime.uptime = r'.uptime.uptime := by
    rw [Duration.uptime, Duration.uptime, hsecs]
  simp only [body, toJson, status, description, hdependencies, htimestamp, huptime, hsecs]

/-- **What a body keeps.**  The body of a health answer is the JSON text of the report, without
controls.  Status, description, timestamp, uptime and uptime in seconds are read off it as
they are, and for every name whether there is a dependency of that name, how it was found,
and its uptime, latency digits and error, or that it has none; the names are listed once each,
in increasing order of their bytes.  So two reports of the same times with one body are the
same, if their latencies are finite and told apart by their digits. -/
theorem Report.body_keeps (stamp : Instant → String) (r : Report) :
    Json.read (r.body stamp) = some (r.toJson stamp) ∧
      (∀ c ∈ (r.body stamp).toList, 0x20 ≤ c.toNat) ∧
      Digest.ofBody? (r.body stamp) = some (r.digest stamp) ∧
      (∀ name, (r.digest stamp).dependencies.lookup name =
        (r.dependency? name).map (·.digest stamp)) ∧
      ((r.digest stamp).dependencies.map fun e => bytes e.1).Pairwise (· < ·) ∧
      ∀ r' : Report, r.SameTimes r' → (∀ x ∈ r.latencies ++ r'.latencies, IsFinite x) →
        (∀ x ∈ r.latencies, ∀ y ∈ r'.latencies,
          latencyLayout.write x = latencyLayout.write y → x = y) →
        r.body stamp = r'.body stamp →
          r.dependencies = r'.dependencies ∧ r.timestamp = r'.timestamp ∧
            r.uptime.secs = r'.uptime.secs := by
  have hreadable := r.readable_toJson stamp
  refine ⟨read_write hreadable, hreadable.printable, r.digest_of_body stamp, fun name => ?_, ?_,
    fun r' htimes hfinite hdigits hbody => ?_⟩
  · exact lookup_map _ _ name
  · have horder := r.dependencies.increasing.imp fun {a b} h => bytes_lt h
    rw [Report.digest, List.map_map]
    exact List.pairwise_map.mpr horder
  · have hdigest : r.digest stamp = r'.digest stamp := by
      have hsome := r.digest_of_body stamp
      rw [hbody, r'.digest_of_body stamp] at hsome
      exact (Option.some.inj hsome).symm
    obtain ⟨_, _, _, _, hsecs, hdependencies⟩ := Digest.mk.inj hdigest
    exact ⟨dependencies_eq htimes hfinite hdigits hdependencies, htimes.timestamp, hsecs⟩

/-- A report on one dependency, some time after the start. -/
def minioReport (uptime : Duration) : Report where
  dependencies := .ofList [("minio", ⟨.healthy (some "2h3m") (some 12.5), 0⟩)]
  uptime := uptime
  timestamp := 0

theorem minioReport_latencies (uptime : Duration) : (minioReport uptime).latencies = [12.5] := rfl

theorem minio_body_keeps :
    let r := minioReport (.ofMillis 61000)
    let r' := minioReport (.ofMillis 61500)
    r.SameTimes r' ∧ (∀ x ∈ r.latencies ++ r'.latencies, IsFinite x) ∧
      (∀ x ∈ r.latencies, ∀ y ∈ r'.latencies,
        latencyLayout.write x = latencyLayout.write y → x = y) ∧
      r.body toString = r'.body toString ∧ r.dependencies = r'.dependencies ∧
        r.timestamp = r'.timestamp ∧ r.uptime.secs = r'.uptime.secs := by
  intro r r'
  have hdependencies : r.dependencies = r'.dependencies := by
    simp only [r, r', minioReport]
  have htimes : r.SameTimes r' := by
    refine ⟨by simp only [r, r', minioReport], fun name x x' hx hx' => ?_⟩
    rw [Report.dependency?, hdependencies, ← Report.dependency?, hx'] at hx
    rw [Option.some.inj hx]
  have hfinite : ∀ x ∈ r.latencies ++ r'.latencies, IsFinite x := by
    intro x hx
    rw [minioReport_latencies, minioReport_latencies] at hx
    obtain rfl : x = 12.5 := by simpa using hx
    exact ⟨false, 7036874417766400, -49, by decide +kernel⟩
  have hdigits : ∀ x ∈ r.latencies, ∀ y ∈ r'.latencies,
      latencyLayout.write x = latencyLayout.write y → x = y := by
    intro x hx y hy _
    rw [minioReport_latencies] at hx hy
    rw [List.mem_singleton.mp hx, List.mem_singleton.mp hy]
  have hbody : r.body toString = r'.body toString :=
    Report.body_congr toString hdependencies htimes.timestamp (by decide)
  obtain ⟨_, _, _, _, _, hsame⟩ := Report.body_keeps toString r
  exact ⟨htimes, hfinite, hdigits, hbody, hsame r' htimes hfinite hdigits hbody⟩

end HealthWatch
