import HealthWatch.Proofs.DurationText
import HealthWatch.Proofs.EveryFinding
import HealthWatch.Proofs.ReportBody
import HealthWatch.Proofs.TimeGoesOn

/-!
# The text of an error

Each kind of error has an opening of its own, and no opening is the beginning of another text.
Behind it stands what the error carries, as it is, so the text is read as the error whatever
that is (`DependencyError.ofText?_text`): a reason may look like the text of another error.

Every entry of a report that failed shows such a text, so its error can be told from it
(`errors_told_apart`).
-/

namespace HealthWatch

namespace DependencyError

/-- What follows an opening. -/
def behind? (opening s : String) : Option String :=
  (opening.toList.isPrefixOf? s.toList).map String.ofList

/-- The code of a status. -/
def codeOfText? (s : String) : Option UInt16 :=
  (natOfDigits? s).bind fun n => if n < UInt16.size then some (.ofNat n) else none

/-- The error of a text. -/
def ofText? (s : String) : Option DependencyError :=
  if s = "dependency is closed" then some .closed
  else
    ((behind? "connection failed: " s).map .connection).orElse fun _ =>
    ((behind? "unexpected response: " s).map .protocol).orElse fun _ =>
    (((behind? "unhealthy status: HTTP " s).bind codeOfText?).map .status).orElse fun _ =>
    ((behind? "deadline exceeded after " s).bind Duration.ofText?).map .deadlineExceeded

theorem behind?_append (opening s : String) : behind? opening (opening ++ s) = some s := by
  have hprefix : opening.toList.isPrefixOf? (opening ++ s).toList = some s.toList :=
    List.isPrefixOf?_eq_some_iff_append_eq.mpr String.toList_append.symm
  rw [behind?, hprefix, Option.map_some, String.ofList_toList]

/-- Behind an opening there is nothing in a text that opens otherwise. -/
theorem behind?_other {opening other : String} (s : String)
    (hunlike : ¬opening.toList <+: other.toList ∧ ¬other.toList <+: opening.toList) :
    behind? opening (other ++ s) = none := by
  rw [behind?, Option.map_eq_none_iff, Option.eq_none_iff_forall_ne_some]
  intro rest hrest
  rw [List.isPrefixOf?_eq_some_iff_append_eq, String.toList_append] at hrest
  have hopening : opening.toList <+: other.toList ++ s.toList := ⟨rest, hrest⟩
  have hother : other.toList <+: other.toList ++ s.toList := List.prefix_append _ _
  exact (List.prefix_or_prefix_of_prefix hopening hother).elim hunlike.1 hunlike.2

/-- A text with an opening that does not begin another text is not that text. -/
theorem append_ne {opening other : String} (s : String)
    (hunlike : ¬opening.toList <+: other.toList) : opening ++ s ≠ other := by
  rintro rfl
  exact hunlike (String.toList_append ▸ List.prefix_append _ _)

theorem codeOfText?_text (code : UInt16) : codeOfText? (toString code.toNat) = some code := by
  rw [codeOfText?, natOfDigits_toString, Option.bind_some, if_pos code.toNat_lt,
    UInt16.ofNat_toNat]

/-- The text of an error is read as the error. -/
theorem ofText?_text (e : DependencyError) : ofText? e.text = some e := by
  cases e with
  | connection reason =>
      change ofText? ("connection failed: " ++ reason) = _
      have hclosed : "connection failed: " ++ reason ≠ "dependency is closed" :=
        append_ne reason (by decide)
      rw [ofText?, if_neg hclosed, behind?_append "connection failed: "]
      rfl
  | protocol reason =>
      change ofText? ("unexpected response: " ++ reason) = _
      have hclosed : "unexpected response: " ++ reason ≠ "dependency is closed" :=
        append_ne reason (by decide)
      have hconnection : behind? "connection failed: " ("unexpected response: " ++ reason) = none :=
        behind?_other reason (by decide)
      rw [ofText?, if_neg hclosed, hconnection, behind?_append "unexpected response: "]
      rfl
  | status code =>
      change ofText? ("unhealthy status: HTTP " ++ toString code.toNat) = _
      have hclosed : "unhealthy status: HTTP " ++ toString code.toNat ≠ "dependency is closed" :=
        append_ne _ (by decide)
      have hconnection : behind? "connection failed: "
          ("unhealthy status: HTTP " ++ toString code.toNat) = none :=
        behind?_other _ (by decide)
      have hprotocol : behind? "unexpected response: "
          ("unhealthy status: HTTP " ++ toString code.toNat) = none :=
        behind?_other _ (by decide)
      rw [ofText?, if_neg hclosed, hconnection, hprotocol,
        behind?_append "unhealthy status: HTTP ", Option.bind_some, codeOfText?_text]
      rfl
  | deadlineExceeded elapsed =>
      change ofText? ("deadline exceeded after " ++ elapsed.text) = _
      have hclosed : "deadline exceeded after " ++ elapsed.text ≠ "dependency is closed" :=
        append_ne _ (by decide)
      have hconnection : behind? "connection failed: "
          ("deadline exceeded after " ++ elapsed.text) = none := behind?_other _ (by decide)
      have hprotocol : behind? "unexpected response: "
          ("deadline exceeded after " ++ elapsed.text) = none := behind?_other _ (by decide)
      have hstatus : behind? "unhealthy status: HTTP "
          ("deadline exceeded after " ++ elapsed.text) = none := behind?_other _ (by decide)
      rw [ofText?, if_neg hclosed, hconnection, hprotocol, hstatus,
        behind?_append "deadline exceeded after ", Option.bind_some, Duration.ofText?_text]
      rfl
  | closed => rfl

end DependencyError

/-- The error that a probe's call has come to, if it is one. -/
def Probe.Stage.failure? : Probe.Stage → Option DependencyError
  | .diagnosing _ (.error e) | .checking _ _ (.error e) => some e
  | _ => none

/-- What a finding tells is read as the error of the call. -/
theorem Probe.Stage.Ends.read {stage : Probe.Stage} {f : Finding} (h : Ends stage f) :
    f.error? = stage.failure?.map DependencyError.text ∧
      f.error?.bind DependencyError.ofText? = stage.failure? := by
  cases h with
  | diagnosed | answered => exact ⟨rfl, rfl⟩
  | undiagnosed | gaveUp => exact ⟨rfl, DependencyError.ofText?_text _⟩

namespace Service

variable {δ Env : Type} [Dependency δ Env] {s : Service δ Env}

/-- **Errors are told apart by their texts.**  Every error, whatever it carries, is read back
from its text, and so is every span; so no two errors and no two spans have one text.  Every
entry of every report of a run shows the error that its probe ended with, none if it succeeded,
and what it shows is read as this error. -/
theorem errors_told_apart (hs : s.Reachable) (actions : List (Action δ)) :
    (∀ e : DependencyError, DependencyError.ofText? e.text = some e) ∧
    (∀ a b : DependencyError, a.text = b.text ↔ a = b) ∧
    (∀ d : Duration, Duration.ofText? d.text = some d) ∧
    (∀ c d : Duration, c.text = d.text ↔ c = d) ∧
    ∀ r, .report r ∈ observed endings s actions → ∀ entry ∈ r.dependencies.entries,
      ∃ stage : Probe.Stage, stage.Ends entry.2.finding ∧
        entry.2.finding.error? = stage.failure?.map DependencyError.text ∧
        entry.2.finding.error?.bind DependencyError.ofText? = stage.failure? := by
  refine ⟨DependencyError.ofText?_text, fun a b => ⟨fun h => ?_, congrArg _⟩,
    Duration.ofText?_text, fun c d => ⟨fun h => ?_, congrArg _⟩, fun r hr => ?_⟩
  · have hsome : some a = some b := by
      rw [← a.ofText?_text, h, b.ofText?_text]
    exact Option.some.inj hsome
  · have hsome : some c = some d := by
      rw [← c.ofText?_text, h, d.ofText?_text]
    exact Option.some.inj hsome
  · have hread : ∀ stage f, Probe.Stage.Ends stage f → ∃ stage : Probe.Stage, stage.Ends f ∧
        f.error? = stage.failure?.map DependencyError.text ∧
        f.error?.bind DependencyError.ofText? = stage.failure? :=
      fun stage f hends => ⟨stage, hends, hends.read⟩
    exact hs.reported hread hr

/-- A request that waits for the dependency in vain. -/
def waitInVain : List (Action Scripted) :=
  [.beginRequest, .move 0 (.lane 0), .pass 5000, .move 0 (.lane 0), .move 0 .whole]

theorem silence_told_apart : ∃ r, .report r ∈ observed endings (silent 1000) waitInVain ∧
    r.dependencies.entries.map (fun entry => entry.2.finding.error?) =
      [some "deadline exceeded after 5s"] ∧
    ∀ entry ∈ r.dependencies.entries, ∃ stage : Probe.Stage, stage.Ends entry.2.finding ∧
      stage.failure? = some (.deadlineExceeded (.ofParts 5 0)) := by
  let report : Report :=
    ⟨.ofList [("db", ⟨.unhealthy "deadline exceeded after 5s" none, 5000⟩)], .ofParts 5 0, 5000⟩
  have hobserved : observed endings (silent 1000) waitInVain =
      [.probe "db" (.unhealthy "deadline exceeded after 5s" none) (.ofParts 5 0),
        .report report] := by
    rfl
  have hreport : .report report ∈ observed endings (silent 1000) waitInVain :=
    hobserved ▸ List.mem_cons_of_mem _ List.mem_cons_self
  refine ⟨report, hreport, by decide +kernel, fun entry hentry => ?_⟩
  obtain ⟨hofText, _, _, _, hentries⟩ := errors_told_apart (silent_reachable 1000) waitInVain
  obtain ⟨stage, hends, _, hread⟩ := hentries report hreport entry hentry
  obtain rfl := List.mem_singleton.mp hentry
  have htext : (DependencyError.deadlineExceeded (.ofParts 5 0)).text =
      "deadline exceeded after 5s" := by
    rfl
  refine ⟨stage, hends, hread.symm.trans ?_⟩
  rw [Finding.error?, Option.bind_some, ← htext, hofText]

end Service

end HealthWatch
