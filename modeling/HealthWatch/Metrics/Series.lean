/-!
# Series

The series of a family differ in the values of their labels, but each is found by a hash of
these values, which are read one after the other with nothing between them.  Values of one
hash share a series, which keeps those that it was made with.

`SeriesMap` carries in its type that no two of its series have the same hash.  Its view is
`find?`: an update changes what is found by one hash (`find?_update`).  The order of the series
is that in which they were made, and shows nowhere: they are listed by their labels (`sorted`).
-/

namespace HealthWatch

/-- The 64-bit FNV-1a hash of bytes. -/
def fnv1a (bytes : List UInt8) : UInt64 :=
  bytes.foldl (fun hash byte => (hash ^^^ byte.toUInt64) * 0x100000001b3) 0xcbf29ce484222325

/-- What holds the values of the labels of a series. -/
class Labels (κ : Type) where
  values : κ → List String

/-- A single label. -/
instance : Labels String := ⟨fun value => [value]⟩

/-- Two labels. -/
instance : Labels (String × String) := ⟨fun labels => [labels.1, labels.2]⟩

/-- The hash by which the series with some labels is found. -/
def labelHash {κ : Type} [Labels κ] (labels : κ) : UInt64 :=
  fnv1a ((Labels.values labels).flatMap fun value => value.toUTF8.data.toList)

/-- Labels that read alike have the same hash. -/
example : labelHash ("x", "unhealthy") = labelHash ("xun", "healthy") := by decide +kernel

/-- So do some that have nothing in common. -/
example : labelHash "7mohtcOFVz" = labelHash "c1E51sSEyx" := by decide +kernel

/-- One series: the labels that it was made with, and what it shows. -/
structure Series (κ α : Type) where
  labels : κ
  value : α

/-- The series of a family.  No two are found by the same hash. -/
structure SeriesMap (κ α : Type) [Labels κ] where
  series : List (Series κ α)
  apart : series.Pairwise fun a b => labelHash a.labels ≠ labelHash b.labels

namespace SeriesMap

variable {κ α : Type} [Labels κ] {l : List (Series κ α)} {s : Series κ α}

/-- No series. -/
def empty : SeriesMap κ α := ⟨[], .nil⟩

/-- Changes the value of the series that is found by labels.  If there is none, it is made with
these labels. -/
def change (labels : κ) (start : α) (f : α → α) : List (Series κ α) → List (Series κ α)
  | [] => [⟨labels, f start⟩]
  | s :: rest =>
    if labelHash s.labels = labelHash labels then { s with value := f s.value } :: rest
    else s :: change labels start f rest

/-- The series after a change are found by the hash of the change, or as they were before. -/
theorem hash_change {labels : κ} {start : α} {f : α → α} (h : s ∈ change labels start f l) :
    labelHash s.labels = labelHash labels ∨
      ∃ before ∈ l, labelHash s.labels = labelHash before.labels := by
  induction l with
  | nil =>
      rw [List.mem_singleton.mp h]
      exact .inl rfl
  | cons first rest ih =>
      unfold change at h
      split at h
      · rcases List.mem_cons.mp h with rfl | h
        · exact .inr ⟨first, List.mem_cons_self, rfl⟩
        · exact .inr ⟨s, List.mem_cons_of_mem _ h, rfl⟩
      · rcases List.mem_cons.mp h with rfl | h
        · exact .inr ⟨s, List.mem_cons_self, rfl⟩
        · rcases ih h with h | ⟨before, hbefore, h⟩
          · exact .inl h
          · exact .inr ⟨before, List.mem_cons_of_mem _ hbefore, h⟩

/-- A change keeps the hashes apart. -/
theorem pairwise_change (labels : κ) (start : α) (f : α → α)
    (h : l.Pairwise fun a b => labelHash a.labels ≠ labelHash b.labels) :
    (change labels start f l).Pairwise fun a b => labelHash a.labels ≠ labelHash b.labels := by
  induction l with
  | nil => simp [change]
  | cons first rest ih =>
      obtain ⟨hhead, htail⟩ := List.pairwise_cons.mp h
      unfold change
      split
      · exact List.pairwise_cons.mpr ⟨hhead, htail⟩
      · next hne =>
        refine List.pairwise_cons.mpr ⟨fun s hs => ?_, ih htail⟩
        rcases hash_change hs with hs | ⟨before, hbefore, hs⟩
        · rwa [hs]
        · rw [hs]
          exact hhead before hbefore

/-- The series after the value of one was changed. -/
def update (m : SeriesMap κ α) (labels : κ) (start : α) (f : α → α) : SeriesMap κ α :=
  ⟨change labels start f m.series, pairwise_change labels start f m.apart⟩

/-- The series that is found by a hash. -/
def find? (m : SeriesMap κ α) (hash : UInt64) : Option (Series κ α) :=
  m.series.find? fun s => labelHash s.labels = hash

/-- What the series with some labels shows. -/
def value? [DecidableEq κ] (m : SeriesMap κ α) (labels : κ) : Option α :=
  (m.series.find? fun s => s.labels = labels).map (·.value)

/-- **An update** changes what is found by the hash of its labels, and nothing else. -/
theorem find?_update (m : SeriesMap κ α) (labels : κ) (start : α) (f : α → α) (hash : UInt64) :
    (m.update labels start f).find? hash =
      if labelHash labels = hash then
        let s := (m.find? hash).getD ⟨labels, start⟩
        some { s with value := f s.value }
      else m.find? hash := by
  simp only [update, find?]
  induction m.series with
  | nil =>
      rw [change, List.find?_singleton]
      simp
  | cons first rest ih =>
      unfold change
      by_cases hfirst : labelHash first.labels = labelHash labels
      · rw [if_pos hfirst, List.find?_cons, List.find?_cons]
        by_cases hhash : labelHash labels = hash <;> simp [hfirst, hhash]
      · rw [if_neg hfirst, List.find?_cons, List.find?_cons, ih]
        by_cases hhash : labelHash first.labels = hash
        · have hne : labelHash labels ≠ hash := fun h => hfirst (hhash.trans h.symm)
          simp [hhash, hne]
        · simp [hhash]

/-- Each series is found by the hash of its own labels. -/
theorem mem_series (m : SeriesMap κ α) :
    s ∈ m.series ↔ m.find? (labelHash s.labels) = some s := by
  refine ⟨fun hs => ?_, List.mem_of_find?_eq_some⟩
  obtain ⟨before, after, hsplit⟩ := List.append_of_mem hs
  have hapart := m.apart
  rw [hsplit] at hapart
  have hbefore := (List.pairwise_append.mp hapart).2.2
  rw [find?, hsplit, List.find?_append, List.find?_eq_none.mpr]
  · simp
  · intro other hother
    simpa using hbefore other hother s List.mem_cons_self

/-- What the series with some labels shows is what the one of their hash shows, if that has
these labels. -/
theorem value?_eq [DecidableEq κ] (m : SeriesMap κ α) (labels : κ) :
    m.value? labels = ((m.find? (labelHash labels)).filter (·.labels = labels)).map (·.value) := by
  rw [value?]
  congr 1
  cases hfind : m.series.find? fun s => s.labels = labels with
  | some s =>
      have hlabels : s.labels = labels := by simpa using List.find?_some hfind
      have hmem := m.mem_series.mp (List.mem_of_find?_eq_some hfind)
      rw [← hlabels, hmem]
      exact (Option.filter_some_pos (by simp)).symm
  | none =>
      cases hhash : m.find? (labelHash labels) with
      | none => rfl
      | some s =>
          have hne := List.find?_eq_none.mp hfind s (List.mem_of_find?_eq_some hhash)
          exact (Option.filter_some_neg (by simpa using hne)).symm

/-! ## Listing -/

/-- Labels are listed by the first value in which they differ. -/
def labelsLe (a b : κ) : Bool :=
  !List.lex (Labels.values b) (Labels.values a) fun x y => decide (x < y)

/-- The series in the order of their labels. -/
def sorted (m : SeriesMap κ α) : List (Series κ α) :=
  m.series.mergeSort fun a b => labelsLe a.labels b.labels

theorem mem_sorted (m : SeriesMap κ α) : s ∈ m.sorted ↔ s ∈ m.series := List.mem_mergeSort

/-- The series that are listed have different labels. -/
theorem sorted_pairwise (m : SeriesMap κ α) :
    m.sorted.Pairwise fun a b => a.labels ≠ b.labels := by
  have hseries : m.series.Pairwise fun a b => a.labels ≠ b.labels :=
    m.apart.imp fun hne heq => hne (congrArg labelHash heq)
  exact (List.mergeSort_perm _ _).symm.pairwise hseries fun hne => hne.symm

end SeriesMap

end HealthWatch
