import HealthWatch.Proofs.ProbeCourse

/-!
# Probes with more room

A later deadline, a higher ceiling and more attempts change nothing about a probe that finds its
dependency healthy.  Two probes whose calls are answered alike go in lock step: as long as an
attempt is worth another under the tighter setting, it ends alike under the wider one and is
worth another there too (`Attempts.more_room`).  They part only after an attempt that failed,
when it is cut off or was the last under the tighter setting.  From then on only the probe with
more room may go on, so it asks no less and ends no sooner.
-/

namespace HealthWatch

namespace Probe

/-! ## Two lists of attempts -/

/-- With a later deadline a call ends in the same way, or it was cut off. -/
theorem Attempt.Within.more_room {α : Type} {a b : Attempt α} {started d₁ d₂ : Instant}
    (ha : a.Within started d₁) (hb : b.Within started d₂) (hle : d₁ ≤ d₂) {begins : Instant}
    (hbegins : a.begins = begins) (hbegins' : b.begins = begins) (hreply : a.reply = b.reply) :
    a = b ∨ (∃ elapsed, a.outcome = .error (.deadlineExceeded elapsed)) ∧ a.ends ≤ b.ends := by
  have hcut : max begins d₁ ≤ max begins d₂ :=
    Nat.max_le.mpr ⟨Nat.le_max_left _ _, Nat.le_trans hle (Nat.le_max_right _ _)⟩
  subst hbegins'
  cases ha with
  | @answered begins wait outcome hin =>
      cases hb with
      | answered =>
          cases hbegins
          cases hreply
          exact .inl rfl
      | late hwait hlate =>
          cases hbegins
          cases hreply
          have hin := Nat.le_trans (hin.resolve_left hwait) hle
          exact absurd hin (Nat.not_le_of_lt hlate)
      | silent => cases hreply
  | @late begins wait outcome hwait hlate =>
      refine .inr ⟨⟨_, rfl⟩, ?_⟩
      cases hb with
      | answered =>
          cases hbegins
          cases hreply
          exact Nat.max_le.mpr ⟨Nat.le_add_right _ _, Nat.le_of_lt hlate⟩
      | late => cases hbegins; exact hcut
      | silent => cases hreply
  | @silent begins =>
      refine .inr ⟨⟨_, rfl⟩, ?_⟩
      cases hb with
      | answered => cases hreply
      | late => cases hreply
      | silent => cases hbegins; exact hcut

variable {prober₁ prober₂ : Prober} {started d₁ d₂ : Instant}

/-- What is worth another attempt is worth one with a later deadline. -/
theorem Worth.mono {ends : Instant} {outcome : Except DependencyError Unit}
    (h : Worth prober₁ d₁ ends outcome) (hpause : prober₁.retry.pause = prober₂.retry.pause)
    (hle : d₁ ≤ d₂) : Worth prober₂ d₂ ends outcome := by
  obtain ⟨e, he, htransient, hroom⟩ := h
  exact ⟨e, he, htransient, hpause ▸ Nat.lt_of_lt_of_le hroom hle⟩

/-- What is worth another attempt was not cut off. -/
theorem Worth.not_cut {ends : Instant} {outcome : Except DependencyError Unit}
    (h : Worth prober₁ d₁ ends outcome) (elapsed : Duration) :
    outcome ≠ .error (.deadlineExceeded elapsed) := by
  rintro rfl
  obtain ⟨_, he, htransient, _⟩ := h
  cases he
  cases htransient

/-- **Lock step.**  Attempts that are answered alike are the same with more room, or the last
one failed with less, and there are no fewer with more and they end no sooner. -/
theorem Attempts.more_room {left₁ left₂ : Nat} {begins : Instant}
    {attempts₁ attempts₂ : List (Attempt Unit)} {last₁ last₂ : Attempt Unit}
    (h₁ : Attempts prober₁ started d₁ left₁ begins attempts₁ last₁)
    (h₂ : Attempts prober₂ started d₂ left₂ begins attempts₂ last₂)
    (hpause : prober₁.retry.pause = prober₂.retry.pause) (hle : d₁ ≤ d₂)
    (hleft : left₁ ≤ left₂)
    (halike : ∀ (i : Nat) (a b : Attempt Unit), attempts₁[i]? = some a → attempts₂[i]? = some b →
      a.reply = b.reply) :
    attempts₁ = attempts₂ ∧ last₁ = last₂ ∨
      (∃ e, last₁.outcome = .error e) ∧ attempts₁.length ≤ attempts₂.length ∧
        last₁.ends ≤ last₂.ends := by
  induction h₁ generalizing left₂ attempts₂ last₂ with
  | @last left₁ begins a hbegins hwithin hends =>
      -- The tighter setting ends here.  The wider one may end too, or go on after a failure.
      cases h₂ with
      | last hbegins' hwithin' =>
          rcases hwithin.more_room hwithin' hle hbegins hbegins'
            (halike 0 _ _ rfl rfl) with rfl | ⟨⟨elapsed, hcut⟩, hsooner⟩
          · exact .inl ⟨rfl, rfl⟩
          · exact .inr ⟨⟨_, hcut⟩, Nat.le_refl _, hsooner⟩
      | @next left₂ _ b _ rest hbegins' hwithin' hworth hrest =>
          have hlater : b.ends ≤ last₂.ends :=
            Nat.le_trans (Nat.le_add_right _ _) hrest.begins_le_ends
          have hmore : [a].length ≤ (b :: rest).length := Nat.succ_le_succ (Nat.zero_le _)
          rcases hwithin.more_room hwithin' hle hbegins hbegins'
            (halike 0 _ _ rfl rfl) with rfl | ⟨⟨elapsed, hcut⟩, hsooner⟩
          · obtain ⟨e, he, _⟩ := hworth
            exact .inr ⟨⟨e, he⟩, hmore, hlater⟩
          · exact .inr ⟨⟨_, hcut⟩, hmore, Nat.le_trans hsooner hlater⟩
  | @next left₁ begins a last₁ rest₁ hbegins hwithin hworth hrest ih =>
      -- What is worth another attempt was not cut off, so it is the same under both settings.
      have hsame : ∀ {b : Attempt Unit}, b.begins = begins → b.Within started d₂ →
          a.reply = b.reply → a = b := by
        intro b hbegins' hwithin' hreply
        have hends := hwithin.more_room hwithin' hle hbegins hbegins' hreply
        exact hends.resolve_right fun ⟨⟨elapsed, hcut⟩, _⟩ => hworth.not_cut elapsed hcut
      cases h₂ with
      | last hbegins' hwithin' hends =>
          obtain rfl := hsame hbegins' hwithin' (halike 0 _ _ rfl rfl)
          rcases hends with rfl | hworthless
          · exact absurd hleft (Nat.not_succ_le_zero _)
          · exact absurd (hworth.mono hpause hle) hworthless
      | next hbegins' hwithin' hworth' hrest' =>
          obtain rfl := hsame hbegins' hwithin' (halike 0 _ _ rfl rfl)
          have hrest₁ : prober₁.retry.rest = prober₂.retry.rest := congrArg restTime hpause
          rw [← hrest₁] at hrest'
          rcases ih hrest' (Nat.le_of_succ_le_succ hleft) fun i => halike (i + 1) with
            ⟨rfl, rfl⟩ | ⟨hfailed, hlength, hsooner⟩
          · exact .inl ⟨rfl, rfl⟩
          · exact .inr ⟨hfailed, Nat.succ_le_succ hlength, hsooner⟩

/-- How a call is going to be answered. -/
def Question.answer : Question → Reply Unit ⊕ Reply Diagnostics
  | .check _ reply => .inl reply
  | .details _ reply => .inr reply

theorem isHealthy_checkFinding (outcome : Except DependencyError Unit) :
    (checkFinding outcome).isHealthy = true ↔ outcome = .ok () := by
  cases outcome <;> simp [checkFinding, Finding.isHealthy]

theorem isHealthy_diagnosis (started ends : Instant)
    (outcome : Except DependencyError Diagnostics) :
    (diagnosis started ends outcome).isHealthy = true ↔ ∃ d, outcome = .ok d := by
  cases outcome <;> simp [diagnosis, Finding.isHealthy]

end Probe

namespace Service.Probing

/-! ## Two probes of services -/

variable {δ Env : Type} [Dependency δ Env] {s₁ s₂ : Service δ Env}

/-- The second probe has at least the room of the first, and otherwise they are alike: they
begin at the same time, rest as long, and as far as both ask, the answers are the same. -/
structure Roomier (R₁ : Probing s₁) (R₂ : Probing s₂) : Prop where
  now_eq : s₁.now = s₂.now
  detailed_eq : s₁.detailed R₁.handle = s₂.detailed R₂.handle
  pause_eq : s₁.prober.retry.pause = s₂.prober.retry.pause
  deadline_le : R₁.deadline ≤ R₂.deadline
  ceiling_le : s₁.prober.ceiling ≤ s₂.prober.ceiling
  maxAttempts_le : s₁.prober.retry.maxAttempts ≤ s₂.prober.retry.maxAttempts
  alike : ∀ (i : Nat) (q₁ q₂ : Probe.Question), R₁.asked[i]? = some q₁ →
    R₂.asked[i]? = some q₂ → q₁.answer = q₂.answer

variable {R₁ : Probing s₁} {R₂ : Probing s₂}

omit [Dependency δ Env] in
theorem limit_le (hnow : s₁.now = s₂.now) (hdeadline : R₁.deadline ≤ R₂.deadline)
    (hceiling : s₁.prober.ceiling ≤ s₂.prober.ceiling) : R₁.limit ≤ R₂.limit := by
  refine Nat.le_min.mpr ⟨Nat.le_trans (Nat.min_le_left _ _) hdeadline, ?_⟩
  exact Nat.le_trans (Nat.min_le_right _ _) (hnow ▸ Nat.add_le_add_left hceiling _)

/-- **More room.**  Let a probe with more room be answered like one that has ended.  If that one
found its dependency healthy, the one with more room asks the same at the same times, and finds
the same at the same time.  If it did not, the one with more room asks no less and ends no
sooner.  In any case it ends. -/
theorem healthy_of_more_room (hs₁ : s₁.Reachable) (hs₂ : s₂.Reachable) (h : Roomier R₁ R₂)
    {time₁ : Instant} {r₁ : ProbeResult} (h₁ : R₁.outcome? = some (time₁, .probed r₁)) :
    (∀ time₂ outcome₂, R₂.outcome? = some (time₂, outcome₂) →
      (r₁.finding.isHealthy = true →
        R₂.asked = R₁.asked ∧ time₂ = time₁ ∧ outcome₂ = .probed r₁) ∧
      (r₁.finding.isHealthy = false →
        R₁.asked.length ≤ R₂.asked.length ∧ time₁ ≤ time₂)) ∧
    ∃ more : List (Action δ), (∀ a ∈ more, a.IsOwn) ∧
      (((R₂.begun.run R₂.after).run more).outcome? s₂.tasks.length).isSome = true := by
  refine ⟨fun time₂ outcome₂ h₂ => ?_, R₂.ends hs₂.sound⟩
  have hlimit : R₁.limit ≤ R₂.limit := limit_le h.now_eq h.deadline_le h.ceiling_le
  obtain ⟨_, hplain₁, hdetailed₁⟩ := (R₁.course hs₁).1 _ _ h₁
  obtain ⟨_, hplain₂, hdetailed₂⟩ := (R₂.course hs₂).1 _ _ h₂
  rw [← h.now_eq, ← h.detailed_eq] at hplain₂ hdetailed₂
  have halike := h.alike
  cases hdetailed : s₁.detailed R₁.handle with
  | false =>
      obtain ⟨attempts₁, last₁, hattempts₁, hasked₁, _, _, rfl, hfound₁⟩ := hplain₁ hdetailed
      obtain ⟨attempts₂, last₂, hattempts₂, hasked₂, _, _, rfl, rfl⟩ := hplain₂ hdetailed
      cases hfound₁
      rw [hasked₁, hasked₂] at halike ⊢
      have hreplies : ∀ (i : Nat) (a b : Probe.Attempt Unit), attempts₁[i]? = some a →
          attempts₂[i]? = some b → a.reply = b.reply := by
        intro i a b ha hb
        have hanswer := halike i a.question b.question (by rw [List.getElem?_map, ha]; rfl)
          (by rw [List.getElem?_map, hb]; rfl)
        exact Sum.inl.inj hanswer
      rcases hattempts₁.more_room hattempts₂ h.pause_eq hlimit
        (Nat.sub_le_sub_right h.maxAttempts_le 1) hreplies with
        ⟨rfl, rfl⟩ | ⟨⟨e, he⟩, hlength, hsooner⟩
      · exact ⟨fun _ => ⟨rfl, rfl, rfl⟩, fun _ => ⟨Nat.le_refl _, Nat.le_refl _⟩⟩
      · refine ⟨fun hhealthy => ?_, fun _ => ⟨?_, hsooner⟩⟩
        · cases he.symm.trans ((Probe.isHealthy_checkFinding _).mp hhealthy)
        · rwa [List.length_map, List.length_map]
  | true =>
      obtain ⟨a, hbegins₁, hwithin₁, hasked₁, rfl, hfound₁⟩ := hdetailed₁ hdetailed
      obtain ⟨b, hbegins₂, hwithin₂, hasked₂, rfl, rfl⟩ := hdetailed₂ hdetailed
      cases hfound₁
      rw [hasked₁, hasked₂] at halike ⊢
      have hreply : a.reply = b.reply := Sum.inr.inj (halike 0 _ _ rfl rfl)
      rcases hwithin₁.more_room hwithin₂ hlimit hbegins₁ hbegins₂ hreply with
        rfl | ⟨⟨elapsed, hcut⟩, hsooner⟩
      · exact ⟨fun _ => ⟨rfl, rfl, rfl⟩, fun _ => ⟨Nat.le_refl _, Nat.le_refl _⟩⟩
      · refine ⟨fun hhealthy => ?_, fun _ => ⟨Nat.le_refl _, hsooner⟩⟩
        obtain ⟨d, hd⟩ := (Probe.isHealthy_diagnosis ..).mp hhealthy
        cases hcut.symm.trans hd

/-- The probe of `retried` with five attempts in place of three and twice the time. -/
def retriedLonger : Probing (recovering ⟨10000, .of 5 2000⟩) :=
  retried ⟨10000, .of 5 2000⟩ 10000 2000

/-- It finds what the standard one finds. -/
theorem retriedLonger_alike :
    retriedLonger.asked = (retried .standard 5000 2000).asked ∧
      retriedLonger.outcome? = some (2000, .probed ⟨.healthy none none, 2000⟩) := by
  have hs : ∀ prober, (recovering prober).Reachable := fun prober =>
    (Reachable.new () prober 1000 0 none).act _
  have htight : (retried .standard 5000 2000).outcome? =
      some (2000, .probed ⟨.healthy none none, 2000⟩) := rfl
  have hasked : (retried .standard 5000 2000).asked =
      [.check 0 (.after 0 (.error (.connection "refused"))), .check 2000 (.after 0 (.ok ()))] := rfl
  have hsame : (retried .standard 5000 2000).asked = retriedLonger.asked := hasked.trans rfl
  have hroom : Roomier (retried .standard 5000 2000) retriedLonger := by
    refine ⟨rfl, rfl, rfl, by decide, by decide, by decide, fun i q₁ q₂ h₁ h₂ => ?_⟩
    rw [hsame] at h₁
    exact congrArg _ (Option.some.inj (h₁.symm.trans h₂))
  obtain ⟨outcome, hwide⟩ : ∃ outcome, retriedLonger.outcome? = some (2000, outcome) := ⟨_, rfl⟩
  obtain ⟨hasked, _, rfl⟩ :=
    ((healthy_of_more_room (hs _) (hs _) hroom htight).1 2000 outcome hwide).1 rfl
  exact ⟨hasked, hwide⟩

end Service.Probing

end HealthWatch
