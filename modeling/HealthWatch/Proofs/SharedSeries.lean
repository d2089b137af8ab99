import HealthWatch.Metrics.Series
import Mathlib.Data.List.Induction

/-!
# What a series tells of

A family is updated under labels, again and again.  Updates whose labels have the same hash go
to one series, which has the labels of the first of them.  So a series tells of its own updates
and of all others that share its hash (`gathered`), and labels that were not the first of their
hash have no series (`mem_series_updateAll`, `value?_updateAll`).

Where nothing else has the hash of some labels (`Unshared`), their series tells of the updates
under just these labels, and of nothing else (`Unshared.gathered_eq`).
-/

namespace HealthWatch.SeriesMap

variable {κ α β : Type} [Labels κ] {start : α} {step : α → β → α} {updates : List (κ × β)}

/-- A family after several updates, one after another.  Each update is for some labels. -/
def updateAll (start : α) (step : α → β → α) (updates : List (κ × β)) : SeriesMap κ α :=
  updates.foldl (fun m u => m.update u.1 start (step · u.2)) empty

theorem updateAll_snoc (updates : List (κ × β)) (u : κ × β) :
    updateAll start step (updates ++ [u]) =
      (updateAll start step updates).update u.1 start (step · u.2) := by
  rw [updateAll, List.foldl_append]
  rfl

/-- The updates whose labels have a hash. -/
def sharing (hash : UInt64) (updates : List (κ × β)) : List (κ × β) :=
  updates.filter fun u => labelHash u.1 = hash

/-- The series that several updates make: it has the labels of the first. -/
def seriesOf (start : α) (step : α → β → α) : List (κ × β) → Option (Series κ α)
  | [] => none
  | u :: rest => some ⟨u.1, ((u :: rest).map Prod.snd).foldl step start⟩

omit [Labels κ] in
theorem seriesOf_snoc (updates : List (κ × β)) (u : κ × β) :
    let s := (seriesOf start step updates).getD ⟨u.1, start⟩
    seriesOf start step (updates ++ [u]) = some { s with value := step s.value u.2 } := by
  cases updates <;> simp [seriesOf]

/-- **What is found by a hash** is the series of all updates of this hash. -/
theorem find?_updateAll (updates : List (κ × β)) (hash : UInt64) :
    (updateAll start step updates).find? hash = seriesOf start step (sharing hash updates) := by
  induction updates using List.reverseRecOn with
  | nil => rfl
  | append_singleton updates u ih =>
      have hsharing : sharing hash (updates ++ [u]) =
          sharing hash updates ++ if labelHash u.1 = hash then [u] else [] := by
        rw [sharing, List.filter_append, List.filter_cons, List.filter_nil]
        simp [sharing]
      rw [updateAll_snoc, find?_update, ih, hsharing]
      split
      · exact (seriesOf_snoc _ u).symm
      · rw [List.append_nil]

section Gathered

variable [DecidableEq κ]

/-- What the series with some labels tells of: all updates of their hash, provided that the
first of these was made under just these labels. -/
def gathered (updates : List (κ × β)) (labels : κ) : List β :=
  if (sharing (labelHash labels) updates).head?.map Prod.fst = some labels then
    (sharing (labelHash labels) updates).map Prod.snd
  else []

/-- The series with some labels, as it is found by their hash. -/
theorem filter_seriesOf (updates : List (κ × β)) (labels : κ) :
    (seriesOf start step (sharing (labelHash labels) updates)).filter (·.labels = labels) =
      if gathered updates labels = [] then none
      else some ⟨labels, (gathered updates labels).foldl step start⟩ := by
  rw [gathered]
  cases hsharing : sharing (labelHash labels) updates with
  | nil => rfl
  | cons u rest =>
      by_cases hlabels : u.1 = labels
      · simp [seriesOf, hlabels, Option.filter_some]
      · simp [seriesOf, hlabels, Option.filter_some]

/-- **What is shown under labels.** -/
theorem value?_updateAll (updates : List (κ × β)) (labels : κ) :
    (updateAll start step updates).value? labels =
      if gathered updates labels = [] then none
      else some ((gathered updates labels).foldl step start) := by
  rw [value?_eq, find?_updateAll, filter_seriesOf]
  split <;> rfl

/-- **Which series there are.** -/
theorem mem_series_updateAll {s : Series κ α} :
    s ∈ (updateAll start step updates).series ↔
      gathered updates s.labels ≠ [] ∧ s.value = (gathered updates s.labels).foldl step start := by
  have hown : (updateAll start step updates).find? (labelHash s.labels) = some s ↔
      ((updateAll start step updates).find? (labelHash s.labels)).filter (·.labels = s.labels) =
        some s := by
    simp [Option.filter_eq_some_iff]
  rw [mem_series, hown, find?_updateAll, filter_seriesOf]
  split
  · next hnone => simp [hnone]
  · next hsome =>
    refine ⟨fun h => ⟨hsome, congrArg Series.value (Option.some.inj h).symm⟩, fun h => ?_⟩
    rw [← h.2]

/-- A series has labels under which an update was made. -/
theorem mem_of_gathered {updates : List (κ × β)} {labels : κ} (h : gathered updates labels ≠ []) :
    ∃ u ∈ updates, u.1 = labels := by
  rw [gathered] at h
  split at h
  · next hfirst =>
    obtain ⟨u, hu, hlabels⟩ := Option.map_eq_some_iff.mp hfirst
    exact ⟨u, (List.mem_filter.mp (List.mem_of_head? hu)).1, hlabels⟩
  · exact absurd rfl h

/-! ## Labels of their own hash -/

/-- The updates that were made under just these labels. -/
def own (updates : List (κ × β)) (labels : κ) : List β :=
  (updates.filter fun u => u.1 = labels).map Prod.snd

/-- If an update was made under some labels, all updates of their hash were. -/
def Unshared (updates : List (κ × β)) (labels : κ) : Prop :=
  labels ∈ updates.map Prod.fst → ∀ u ∈ updates, labelHash u.1 = labelHash labels → u.1 = labels

/-- **Labels that share their hash with no other** have a series that tells of the updates under
just these labels. -/
theorem Unshared.gathered_eq {labels : κ} (h : Unshared updates labels) :
    gathered updates labels = own updates labels := by
  have hsharing : labels ∈ updates.map Prod.fst →
      sharing (labelHash labels) updates = updates.filter fun u => u.1 = labels := by
    intro hmade
    refine List.filter_congr fun u hu => ?_
    have hlabels : labelHash u.1 = labelHash labels ↔ u.1 = labels :=
      ⟨h hmade u hu, congrArg labelHash⟩
    simp [hlabels]
  rw [gathered]
  split
  · next hfirst =>
    obtain ⟨u, hu, rfl⟩ := Option.map_eq_some_iff.mp hfirst
    have hmem : u ∈ updates := (List.mem_filter.mp (List.mem_of_head? hu)).1
    rw [hsharing (List.mem_map_of_mem hmem), own]
  · next hfirst =>
    refine (List.map_eq_nil_iff.mpr (List.filter_eq_nil_iff.mpr fun u hu hlabels => ?_)).symm
    have hmade : labels ∈ updates.map Prod.fst :=
      List.mem_map.mpr ⟨u, hu, by simpa using hlabels⟩
    -- then the first update of the hash was made under these labels too
    have hown : u ∈ updates.filter fun u => u.1 = labels := List.mem_filter.mpr ⟨hu, hlabels⟩
    obtain ⟨first, rest, hcons⟩ := List.exists_cons_of_ne_nil (List.ne_nil_of_mem hown)
    have hmem : first ∈ updates.filter fun u => u.1 = labels := hcons ▸ List.mem_cons_self
    have hlabels : first.1 = labels := by simpa using (List.mem_filter.mp hmem).2
    rw [hsharing hmade, hcons, List.head?_cons, Option.map_some, hlabels] at hfirst
    exact hfirst rfl

end Gathered

end HealthWatch.SeriesMap
