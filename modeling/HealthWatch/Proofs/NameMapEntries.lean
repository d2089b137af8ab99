import HealthWatch.NameMap

/-!
# The entries of a map from names

What `get?` answers is an entry, and every entry is answered (`get?_eq_some_iff`).
A list whose names are distinct becomes a map with these very entries, whatever
their order (`get?_ofList`), and two maps that answer to the same names list the
same names (`names_eq`).
-/

namespace HealthWatch.NameMap

variable {α β : Type}

/-- An answer of a list is one of its entries. -/
theorem mem_of_answer {l : List (String × α)} {name : String} {value : α}
    (h : answer l name = some value) : (name, value) ∈ l := by
  obtain ⟨e, he, rfl⟩ := Option.map_eq_some_iff.mp h
  have hname : e.1 = name := by simpa using List.find?_some he
  exact hname ▸ List.mem_of_find?_eq_some he

/-- A list whose names are distinct answers each of its entries. -/
theorem answer_of_mem {l : List (String × α)} (hl : l.Pairwise fun a b => a.1 ≠ b.1)
    {name : String} {value : α} (h : (name, value) ∈ l) : answer l name = some value := by
  induction l with
  | nil => cases h
  | cons e rest ih =>
      obtain ⟨hhead, htail⟩ := List.pairwise_cons.mp hl
      rw [answer_cons]
      rcases List.mem_cons.mp h with rfl | h
      · exact if_pos rfl
      · rw [if_neg (hhead _ h)]
        exact ih htail h

theorem ne_of_lt {a b : String} (h : a < b) : a ≠ b := by
  rintro rfl
  exact String.lt_irrefl a h

/-- The entries of a map have distinct names. -/
theorem pairwise_ne (m : NameMap α) : m.entries.Pairwise fun a b => a.1 ≠ b.1 :=
  m.increasing.imp ne_of_lt

theorem get?_eq_some_iff {m : NameMap α} {name : String} {value : α} :
    m.get? name = some value ↔ (name, value) ∈ m.entries :=
  ⟨mem_of_answer, answer_of_mem m.pairwise_ne⟩

/-- A name is listed exactly if the map answers to it. -/
theorem mem_names_iff {m : NameMap α} {name : String} :
    name ∈ m.names ↔ (m.get? name).isSome = true := by
  rw [Option.isSome_iff_exists]
  constructor
  · intro h
    obtain ⟨e, he, rfl⟩ := List.mem_map.mp h
    exact ⟨e.2, get?_eq_some_iff.mpr he⟩
  · rintro ⟨value, h⟩
    exact List.mem_map.mpr ⟨_, get?_eq_some_iff.mp h, rfl⟩

/-- Names are listed in increasing order, each once. -/
theorem names_increasing (m : NameMap α) : m.names.Pairwise (· < ·) := by
  rw [names, List.pairwise_map]
  exact m.increasing

/-- Maps that answer to the same names list the same names. -/
theorem names_eq {a : NameMap α} {b : NameMap β}
    (h : ∀ name, (a.get? name).isSome = (b.get? name).isSome) : a.names = b.names := by
  refine List.Perm.eq_of_pairwise ?_ a.names_increasing b.names_increasing ?_
  · intro x y _ _ hxy hyx
    exact absurd (String.lt_trans hxy hyx) (String.lt_irrefl x)
  · refine (List.perm_ext_iff_of_nodup ?_ ?_).mpr fun name => ?_
    · exact a.names_increasing.imp ne_of_lt
    · exact b.names_increasing.imp ne_of_lt
    · rw [mem_names_iff, mem_names_iff, h]

/-! ## Insertion and lists -/

/-- An entry of a map after an insertion is the new one or was there before. -/
theorem mem_entries_insert {m : NameMap α} {name : String} {value : α} {e : String × α}
    (h : e ∈ (m.insert name value).entries) : e = (name, value) ∨ e ∈ m.entries :=
  mem_place h

theorem get?_foldl_insert {l : List (String × α)} (hl : l.Pairwise fun a b => a.1 ≠ b.1)
    (m : NameMap α) (name : String) :
    (l.foldl (fun m e => m.insert e.1 e.2) m).get? name =
      (answer l name).or (m.get? name) := by
  induction l generalizing m with
  | nil => simp
  | cons e rest ih =>
      obtain ⟨hhead, htail⟩ := List.pairwise_cons.mp hl
      rw [List.foldl_cons, ih htail, get?_insert, answer_cons]
      by_cases he : e.1 = name
      · have hnone : answer rest name = none := by
          cases hrest : answer rest name with
          | none => rfl
          | some value => exact absurd he (hhead _ (mem_of_answer hrest))
        rw [if_pos he, if_pos he, hnone]
        rfl
      · rw [if_neg he, if_neg he]

theorem mem_entries_foldl_insert {l : List (String × α)} {m : NameMap α} {e : String × α}
    (h : e ∈ (l.foldl (fun m e => m.insert e.1 e.2) m).entries) : e ∈ l ∨ e ∈ m.entries := by
  induction l generalizing m with
  | nil => exact .inr h
  | cons x rest ih =>
      rcases ih h with hrest | hm
      · exact .inl (List.mem_cons_of_mem _ hrest)
      · rcases mem_entries_insert hm with rfl | hm
        · exact .inl List.mem_cons_self
        · exact .inr hm

/-- The map of a list has no other entries than the list. -/
theorem mem_of_mem_ofList {l : List (String × α)} {e : String × α}
    (h : e ∈ (ofList l).entries) : e ∈ l :=
  (mem_entries_foldl_insert h).resolve_right List.not_mem_nil

/-- The map of a list whose names are distinct answers what the list answers. -/
theorem get?_ofList {l : List (String × α)} (hl : l.Pairwise fun a b => a.1 ≠ b.1)
    (name : String) : (ofList l).get? name = answer l name := by
  rw [ofList, get?_foldl_insert hl, get?_empty, Option.or_none]

/-- A list that is in order is the list of entries of its map. -/
theorem entries_ofList {l : List (String × α)} (hl : l.Pairwise fun a b => a.1 < b.1) :
    (ofList l).entries = l := by
  have hne : l.Pairwise fun a b => a.1 ≠ b.1 :=
    hl.imp ne_of_lt
  exact eq_of_answer_eq (ofList l).increasing hl fun name => get?_ofList hne name

/-- A list with the names of a map, in their order, is the list of entries of its own map. -/
theorem entries_ofList_of_names {m : NameMap β} {l : List (String × α)}
    (hnames : l.map Prod.fst = m.names) : (ofList l).entries = l := by
  refine entries_ofList (List.pairwise_map.mp ?_)
  rw [hnames]
  exact m.names_increasing

end HealthWatch.NameMap
