/-!
# Maps from names

Everything that is listed by name is listed in increasing order of the name,
by code points, and each name once.  `NameMap` carries that order in its type.
Its view is `get?`: a map is determined by what `get?` answers (`ext_get?`),
and an insertion changes the answer to one name (`get?_insert`).
-/

namespace HealthWatch

/-- A finite map from names, listed in strictly increasing order of the name. -/
structure NameMap (α : Type) where
  entries : List (String × α)
  increasing : entries.Pairwise fun a b => a.1 < b.1

namespace NameMap

variable {α β : Type}

/-- The map without entries. -/
def empty : NameMap α := ⟨[], .nil⟩

instance : Inhabited (NameMap α) := ⟨empty⟩

/-- Puts an entry where the order wants it, in place of one of the same name. -/
def place (name : String) (value : α) : List (String × α) → List (String × α)
  | [] => [(name, value)]
  | entry :: rest =>
    if name < entry.1 then (name, value) :: entry :: rest
    else if entry.1 < name then entry :: place name value rest
    else (name, value) :: rest

theorem eq_of_not_lt {a b : String} (h₁ : ¬a < b) (h₂ : ¬b < a) : a = b :=
  String.le_antisymm (String.not_lt.mp h₂) (String.not_lt.mp h₁)

/-- What is listed after placing an entry is that entry or was listed before. -/
theorem mem_place {name : String} {value : α} {l : List (String × α)} {e : String × α}
    (h : e ∈ place name value l) : e = (name, value) ∨ e ∈ l := by
  induction l with
  | nil => simpa [place] using h
  | cons entry rest ih =>
      unfold place at h
      split at h
      · simpa using h
      · split at h
        · rcases List.mem_cons.mp h with h | h
          · exact .inr (by simp [h])
          · rcases ih h with h | h
            · exact .inl h
            · exact .inr (List.mem_cons_of_mem _ h)
        · rcases List.mem_cons.mp h with h | h
          · exact .inl h
          · exact .inr (List.mem_cons_of_mem _ h)

/-- Placing an entry keeps the order. -/
theorem pairwise_place {name : String} {value : α} {l : List (String × α)}
    (h : l.Pairwise fun a b => a.1 < b.1) :
    (place name value l).Pairwise fun a b => a.1 < b.1 := by
  induction l with
  | nil => simp [place]
  | cons entry rest ih =>
      have ⟨hhead, htail⟩ := List.pairwise_cons.mp h
      unfold place
      split
      · next hlt =>
        refine List.pairwise_cons.mpr ⟨fun e he => ?_, h⟩
        rcases List.mem_cons.mp he with rfl | he
        · exact hlt
        · exact String.lt_trans hlt (hhead e he)
      · split
        · next hgt =>
          refine List.pairwise_cons.mpr ⟨fun e he => ?_, ih htail⟩
          rcases mem_place he with rfl | he
          · exact hgt
          · exact hhead e he
        · next hnlt hngt =>
          have heq : name = entry.1 := eq_of_not_lt hnlt hngt
          exact List.pairwise_cons.mpr ⟨fun e he => by simpa [heq] using hhead e he, htail⟩

/-- The map with `value` under `name`, and all other answers as before. -/
def insert (m : NameMap α) (name : String) (value : α) : NameMap α :=
  ⟨place name value m.entries, pairwise_place m.increasing⟩

/-- The value under a name. -/
def get? (m : NameMap α) (name : String) : Option α :=
  (m.entries.find? fun e => e.1 == name).map (·.2)

/-! ## What the map answers -/

/-- The answer of a list of entries. -/
def answer (l : List (String × α)) (name : String) : Option α :=
  (l.find? fun e => e.1 == name).map (·.2)

@[simp] theorem answer_nil (name : String) : answer ([] : List (String × α)) name = none := rfl

theorem answer_cons (e : String × α) (l : List (String × α)) (name : String) :
    answer (e :: l) name = if e.1 = name then some e.2 else answer l name := by
  unfold answer
  rw [List.find?_cons]
  by_cases h : e.1 = name
  · simp [h]
  · rw [beq_eq_false_iff_ne.mpr h, if_neg h]

/-- A name that is less than all that are listed is not listed. -/
theorem answer_eq_none {l : List (String × α)} {name : String} (h : ∀ e ∈ l, name < e.1) :
    answer l name = none := by
  induction l with
  | nil => rfl
  | cons e rest ih =>
      have hne : e.1 ≠ name := fun heq =>
        String.lt_irrefl name (heq ▸ h e List.mem_cons_self)
      rw [answer_cons, if_neg hne]
      exact ih fun e he => h e (List.mem_cons_of_mem _ he)

/-- Placing an entry changes the answer to its name and to no other. -/
theorem answer_place (name : String) (value : α) (l : List (String × α)) (other : String) :
    answer (place name value l) other = if name = other then some value else answer l other := by
  induction l with
  | nil => simp [place, answer_cons]
  | cons e rest ih =>
      unfold place
      split
      · rw [answer_cons]
      · next hnlt =>
        split
        · next hlt =>
          rw [answer_cons, ih, answer_cons]
          by_cases h₁ : e.1 = other
          · have hne : name ≠ other := fun h => by
              rw [h₁, h] at hlt
              exact String.lt_irrefl other hlt
            simp [h₁, hne]
          · simp [h₁]
        · next hngt =>
          have heq : name = e.1 := eq_of_not_lt hnlt hngt
          rw [answer_cons, answer_cons]
          by_cases h : e.1 = other <;> simp [heq, h]

/-- The empty map answers nothing. -/
@[simp] theorem get?_empty (name : String) : (empty : NameMap α).get? name = none := rfl

/-- After an insertion the map answers the new value to its name, and to every
other name what it answered before. -/
theorem get?_insert (m : NameMap α) (name : String) (value : α) (other : String) :
    (m.insert name value).get? other = if name = other then some value else m.get? other :=
  answer_place name value m.entries other

/-- Ordered lists that answer alike are equal. -/
theorem eq_of_answer_eq {l₁ l₂ : List (String × α)}
    (h₁ : l₁.Pairwise fun a b => a.1 < b.1) (h₂ : l₂.Pairwise fun a b => a.1 < b.1)
    (h : ∀ name, answer l₁ name = answer l₂ name) : l₁ = l₂ := by
  induction l₁ generalizing l₂ with
  | nil =>
      cases l₂ with
      | nil => rfl
      | cons e rest => simpa [answer_cons] using h e.1
  | cons e rest ih =>
      cases l₂ with
      | nil => simpa [answer_cons] using h e.1
      | cons e' rest' =>
          have ⟨hhead, htail⟩ := List.pairwise_cons.mp h₁
          have ⟨hhead', htail'⟩ := List.pairwise_cons.mp h₂
          have hnlt : ¬e.1 < e'.1 := fun hlt => by
            have heq := h e.1
            rw [answer_cons, if_pos rfl, answer_eq_none (l := e' :: rest')] at heq
            · simp at heq
            · intro x hx
              rcases List.mem_cons.mp hx with rfl | hx
              · exact hlt
              · exact String.lt_trans hlt (hhead' x hx)
          have hngt : ¬e'.1 < e.1 := fun hlt => by
            have heq := h e'.1
            rw [answer_cons e', if_pos rfl, answer_eq_none (l := e :: rest)] at heq
            · simp at heq
            · intro x hx
              rcases List.mem_cons.mp hx with rfl | hx
              · exact hlt
              · exact String.lt_trans hlt (hhead x hx)
          have hname : e.1 = e'.1 := eq_of_not_lt hnlt hngt
          have hvalue : e.2 = e'.2 := by
            simpa [answer_cons, hname] using h e.1
          have hrest : rest = rest' := by
            apply ih htail htail'
            intro name
            by_cases hn : e.1 = name
            · rw [answer_eq_none fun x hx => hn ▸ hhead x hx,
                answer_eq_none fun x hx => hn ▸ hname ▸ hhead' x hx]
            · have heq := h name
              rw [answer_cons, answer_cons, if_neg hn, if_neg (hname ▸ hn)] at heq
              exact heq
          rw [hrest, show e = e' from Prod.ext hname hvalue]

/-- A map is determined by what it answers. -/
theorem ext_get? {a b : NameMap α} (h : ∀ name, a.get? name = b.get? name) : a = b := by
  have hentries : a.entries = b.entries := eq_of_answer_eq a.increasing b.increasing h
  cases a
  cases b
  cases hentries
  rfl

/-! ## Listing and changing -/

/-- The names in increasing order. -/
def names (m : NameMap α) : List String := m.entries.map (·.1)

/-- The values in order of their names. -/
def values (m : NameMap α) : List α := m.entries.map (·.2)

/-- How many names there are. -/
def size (m : NameMap α) : Nat := m.entries.length

/-- Whether there is no name. -/
def isEmpty (m : NameMap α) : Bool := m.entries.isEmpty

/-- Applies a function to every value, under the same names. -/
def mapValues (f : String → α → β) (m : NameMap α) : NameMap β :=
  ⟨m.entries.map fun e => (e.1, f e.1 e.2), by
    rw [List.pairwise_map]; exact m.increasing⟩

/-- The entries of which `keep` holds. -/
def filter (keep : String → α → Bool) (m : NameMap α) : NameMap α :=
  ⟨m.entries.filter fun e => keep e.1 e.2, m.increasing.filter _⟩

/-- The map of a list of entries; a later entry replaces an earlier one of the
same name. -/
def ofList (l : List (String × α)) : NameMap α :=
  l.foldl (fun m e => m.insert e.1 e.2) empty

end NameMap

end HealthWatch
