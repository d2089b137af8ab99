import HealthWatch.Config.Decoding
import HealthWatch.Proofs.NameMapEntries
import Mathlib.Data.List.Forall2
import Mathlib.Data.Option.Basic

/-!
# Documents that are trees

In a tree there is no alias, and no mapping lists a key twice (`Node.IsTree`).  A reader of a
tree looks at nothing but the tree: what it gives is settled (`Reading.Settled`), so it does not
matter in which order the parts of a tree are read.

The entries of a mapping are seen through what they answer to each name.  `EntriesAlike` says of
two parts of documents that their entries answer alike, whatever that means for each name, and
`FieldsAlike` says it of the fields of a section.  Readers of sections do not tell such parts
apart (`fields_bind_congr`).
-/

namespace HealthWatch.Document

/-! ## Trees -/

namespace Node

/-- The text of a key. -/
def key? : Node → Option String
  | .scalar s => s.text?
  | _ => none

/-- The texts of the keys of a mapping. -/
def keys (entries : List (Node × Node)) : List String := entries.filterMap fun e => e.1.key?

/-- A part of a document in which there is no alias and no mapping lists a key twice. -/
inductive IsTree : Node → Prop
  | scalar (s : Scalar) : IsTree (.scalar s)
  | unreadable : IsTree .unreadable
  | list {marking : Marking} {items : List Node} (hitems : ∀ item ∈ items, IsTree item) :
      IsTree (.list marking items)
  | mapping {marking : Marking} {entries : List (Node × Node)} (hnodup : (keys entries).Nodup)
      (hkeys : ∀ e ∈ entries, IsTree e.1) (hvalues : ∀ e ∈ entries, IsTree e.2) :
      IsTree (.mapping marking entries)

variable {v : Node}

/-- There is nothing to follow in a tree. -/
theorem IsTree.follow_eq (hv : v.IsTree) : v.follow = pure v := by
  cases hv <;> rfl

theorem IsTree.ofScalar_eq {α : Type} (hv : v.IsTree) (read : Scalar → Option α) :
    ofScalar read v = liftM (match v with
      | .scalar s => read s
      | _ => none) := by
  rw [ofScalar, hv.follow_eq]
  cases hv <;> rfl

end Node

/-! ## Settled readings -/

namespace Reading

variable {α β : Type}

/-- What a reader gives of a document with nothing in it. -/
def alone? (r : Reading α) : Option α := ((r.run ⟨.unreadable, []⟩).run 0).map (·.1)

@[simp] theorem alone?_lift (o : Option α) : alone? (liftM o : Reading α) = o := by
  cases o <;> rfl

theorem lift_some_bind (a : α) (f : α → Reading β) : (liftM (some a) : Reading α) >>= f = f a :=
  rfl

/-- A reading that needs nothing of the document. -/
def Settled (r : Reading α) : Prop := r = liftM r.alone?

theorem Settled.lift (o : Option α) : Settled (liftM o : Reading α) := by
  rw [Settled, alone?_lift]

theorem Settled.pure (a : α) : Settled (pure a : Reading α) := Settled.lift (some a)

theorem Settled.failure : Settled (failure : Reading α) := Settled.lift none

theorem Settled.bind {r : Reading α} {f : α → Reading β} (hr : r.Settled)
    (hf : ∀ a, (f a).Settled) : (r >>= f).Settled := by
  rw [Settled] at hr
  rw [hr]
  cases r.alone? with
  | none => exact .failure
  | some a => exact hf a

/-- Settled readings of all elements are a settled reading of the list. -/
theorem mapM_eq_lift {f : α → Reading β} {g : α → Option β} {l : List α}
    (h : ∀ a ∈ l, f a = liftM (g a)) : l.mapM f = liftM (l.mapM g) := by
  induction l with
  | nil => rfl
  | cons a l ih =>
      rw [List.mapM_cons, List.mapM_cons, h a List.mem_cons_self,
        ih fun b hb => h b (List.mem_cons_of_mem _ hb)]
      cases g a with
      | none => rfl
      | some b => cases l.mapM g <;> rfl

/-- A check of all elements fails if one of them fails. -/
theorem forM_eq {check : α → Reading Unit} {ok : α → Prop} [DecidablePred ok] {l : List α}
    (h : ∀ a ∈ l, check a = if ok a then pure () else failure) :
    l.forM check = if ∀ a ∈ l, ok a then pure () else failure := by
  induction l with
  | nil => rfl
  | cons a l ih =>
      obtain ⟨ha, hl⟩ := List.forall_mem_cons.mp h
      have hcons : (a :: l).forM check = check a >>= fun _ => l.forM check := rfl
      rw [hcons, ih hl, ha]
      simp only [List.forall_mem_cons]
      by_cases hok : ok a
      · simp only [hok, true_and, if_true, pure_bind]
      · simp only [hok, false_and, if_false]
        rfl

/-- A settled reading of which nothing is kept only tells whether something can be read. -/
theorem discard_eq {r : Reading α} (h : r.Settled) :
    discard r = if r.alone?.isSome = true then pure () else failure := by
  rw [h, alone?_lift]
  cases r.alone? <;> rfl

theorem guard_bind (p : Prop) [Decidable p] (r : Reading α) :
    (guard p >>= fun _ => r) = if p then r else failure := by
  by_cases hp : p
  · have hpass : (guard p : Reading Unit) = pure () := if_pos hp
    rw [hpass, pure_bind, if_pos hp]
  · have hstop : (guard p : Reading Unit) = failure := if_neg hp
    rw [hstop, if_neg hp]
    rfl

theorem ite_bind (p : Prop) [Decidable p] (r : Reading α) :
    ((if p then pure () else failure : Reading Unit) >>= fun _ => r) =
      if p then r else failure := guard_bind p r

end Reading

/-! ## What there is to a tree -/

namespace Node

open Reading

/-- All of a part can be read, with lists and mappings nested so deep. -/
def Readable (levels : Nat) (v : Node) : Prop := (content levels v).alone?.isSome = true

instance (levels : Nat) (v : Node) : Decidable (Readable levels v) :=
  inferInstanceAs (Decidable (_ = true))

variable {v : Node} {levels : Nat} {marking : Marking} {items : List Node}
  {entries : List (Node × Node)}

theorem content_scalar (s : Scalar) (levels : Nat) :
    content levels (.scalar s) = liftM (s.value?.map Content.value) := by
  cases levels with
  | zero =>
      rw [content]
      cases hs : s.value? <;> simp only [ofScalar, follow, pure_bind, hs] <;> rfl
  | succ levels => rfl

theorem content_list (hitems : ∀ item ∈ items, (content levels item).Settled) :
    content (levels + 1) (.list marking items) =
      if marking ≠ .labelled ∧ ∀ item ∈ items, Readable levels item then pure .nested
      else failure := by
  have hcontent : content (levels + 1) (.list marking items) =
      (guard (marking ≠ .labelled) >>= fun _ =>
        (items.forM fun item => discard (content levels item)) >>= fun _ => pure .nested) := rfl
  have hitem : ∀ item ∈ items, discard (content levels item) =
      if Readable levels item then pure () else failure :=
    fun item hitem => discard_eq (hitems item hitem)
  rw [hcontent, forM_eq hitem, guard_bind, ite_bind, ite_and]

theorem content_mapping (hkeys : ∀ e ∈ entries, (content levels e.1).Settled)
    (hvalues : ∀ e ∈ entries, (content levels e.2).Settled) :
    content (levels + 1) (.mapping marking entries) =
      if marking ≠ .labelled ∧ ∀ e ∈ entries, Readable levels e.1 ∧ Readable levels e.2 then
        pure .nested
      else failure := by
  have hcontent : content (levels + 1) (.mapping marking entries) =
      (guard (marking ≠ .labelled) >>= fun _ =>
        (entries.forM fun e => discard (content levels e.1) >>= fun _ =>
          discard (content levels e.2)) >>= fun _ => pure .nested) := rfl
  have hentry : ∀ e ∈ entries,
      (discard (content levels e.1) >>= fun _ => discard (content levels e.2)) =
        if Readable levels e.1 ∧ Readable levels e.2 then pure () else failure := by
    intro e he
    rw [discard_eq (hkeys e he), discard_eq (hvalues e he), ite_bind, ite_and]
    rfl
  rw [hcontent, forM_eq hentry, guard_bind, ite_bind, ite_and]

/-- What there is to a tree needs nothing but the tree. -/
theorem IsTree.content_settled (hv : v.IsTree) (levels : Nat) : (content levels v).Settled := by
  have hite : ∀ (p : Prop) [Decidable p],
      Settled (if p then pure .nested else failure : Reading Content) := by
    intro p _
    split
    · exact .pure _
    · exact .failure
  have hzero : ∀ v : Node, v.IsTree → (content 0 v).Settled := by
    intro v hv
    rw [content, hv.ofScalar_eq]
    exact (Settled.lift _).bind fun value => .pure _
  induction hv generalizing levels with
  | scalar s =>
      rw [content_scalar]
      exact .lift _
  | unreadable =>
      cases levels with
      | zero => exact hzero _ .unreadable
      | succ levels => exact .failure
  | list hitems ih =>
      cases levels with
      | zero => exact hzero _ (.list hitems)
      | succ levels =>
          rw [content_list fun item hitem => ih item hitem levels]
          exact hite _
  | mapping hnodup hkeys hvalues ihkeys ihvalues =>
      cases levels with
      | zero => exact hzero _ (.mapping hnodup hkeys hvalues)
      | succ levels =>
          rw [content_mapping (fun e he => ihkeys e he levels) fun e he => ihvalues e he levels]
          exact hite _

/-! ## The entries of a tree -/

/-- An entry under the text of its key. -/
def keyed? (e : Node × Node) : Option (String × Node) := e.1.key?.map (·, e.2)

/-- The entries of a mapping under the texts of their keys, if every key has one. -/
def entries? : Node → Option (List (String × Node))
  | .scalar s => if s.blank then some [] else none
  | .mapping _ entries => entries.mapM keyed?
  | _ => none

theorem IsTree.entries_eq (hv : v.IsTree) : v.entries = liftM v.entries? := by
  rw [Node.entries, hv.follow_eq]
  cases hv with
  | scalar s =>
      simp only [pure_bind, entries?]
      split <;> rfl
  | unreadable => rfl
  | list hitems => rfl
  | mapping hnodup hkeys hvalues =>
      simp only [pure_bind, entries?]
      refine mapM_eq_lift fun e he => ?_
      rw [text, (hkeys e he).ofScalar_eq, keyed?]
      cases e.1 with
      | scalar s => cases hs : s.text? <;> simp only [key?, hs] <;> rfl
      | _ => rfl

theorem mapM_keyed_cons (e : Node × Node) (entries : List (Node × Node)) :
    (e :: entries).mapM keyed? =
      (keyed? e).bind fun x => (entries.mapM keyed?).map (x :: ·) := by
  rw [List.mapM_cons]
  cases keyed? e with
  | none => rfl
  | some x => cases entries.mapM keyed? <;> rfl

/-- The texts of the keys are the names of the entries, and the values are theirs. -/
theorem keyed_eq {l : List (String × Node)} (h : entries.mapM keyed? = some l) :
    keys entries = l.map Prod.fst ∧ entries.map Prod.snd = l.map Prod.snd := by
  induction entries generalizing l with
  | nil =>
      cases h
      exact ⟨rfl, rfl⟩
  | cons e entries ih =>
      rw [mapM_keyed_cons] at h
      obtain ⟨x, hx, hmap⟩ := Option.bind_eq_some_iff.mp h
      obtain ⟨rest, hrest, rfl⟩ := Option.map_eq_some_iff.mp hmap
      obtain ⟨name, hname, rfl⟩ := Option.map_eq_some_iff.mp hx
      obtain ⟨hkeys, hvalues⟩ := ih hrest
      have hcons : keys (e :: entries) = name :: keys entries :=
        List.filterMap_cons_some (f := fun e : Node × Node => e.1.key?) hname
      exact ⟨by rw [hcons, hkeys]; rfl, congrArg (e.2 :: ·) hvalues⟩

/-- The entries of a tree have distinct names. -/
theorem IsTree.names_nodup (hv : v.IsTree) {l : List (String × Node)}
    (hl : v.entries? = some l) : (l.map Prod.fst).Nodup := by
  cases hv with
  | scalar s =>
      obtain ⟨_, hnil⟩ := Option.ite_none_right_eq_some.mp hl
      cases hnil
      exact .nil
  | unreadable => cases hl
  | list hitems => cases hl
  | mapping hnodup hkeys hvalues => rwa [← (keyed_eq hl).1]

/-- The values of a tree are trees. -/
theorem IsTree.of_mem (hv : v.IsTree) {l : List (String × Node)} (hl : v.entries? = some l)
    {e : String × Node} (he : e ∈ l) : e.2.IsTree := by
  cases hv with
  | scalar s =>
      obtain ⟨_, hnil⟩ := Option.ite_none_right_eq_some.mp hl
      cases hnil
      cases he
  | unreadable => cases hl
  | list hitems => cases hl
  | @mapping _ entries hnodup hkeys hvalues =>
      have hmem : e.2 ∈ entries.map Prod.snd := by
        rw [(keyed_eq hl).2]
        exact List.mem_map_of_mem he
      obtain ⟨x, hx, hvalue⟩ := List.mem_map.mp hmem
      exact hvalue ▸ hvalues x hx

end Node

/-! ## What entries answer -/

theorem lookup_cons_eq {α : Type} (e : String × α) (l : List (String × α)) (name : String) :
    (e :: l).lookup name = if e.1 = name then some e.2 else l.lookup name := by
  rw [List.lookup_cons]
  by_cases he : e.1 = name
  · subst he
    simp
  · rw [if_neg he, beq_eq_false_iff_ne.mpr (Ne.symm he)]

theorem lookup_eq_answer {α : Type} (l : List (String × α)) (name : String) :
    l.lookup name = NameMap.answer l name := by
  induction l with
  | nil => rfl
  | cons e l ih => rw [lookup_cons_eq, NameMap.answer_cons, ih]

/-- What distinct names answer is listed. -/
theorem lookup_eq_some_iff {α : Type} {l : List (String × α)} (hl : (l.map Prod.fst).Nodup)
    {name : String} {value : α} : l.lookup name = some value ↔ (name, value) ∈ l := by
  rw [lookup_eq_answer]
  exact ⟨NameMap.mem_of_answer, NameMap.answer_of_mem (List.pairwise_map.mp hl)⟩

/-- Entries in another order answer the same. -/
theorem lookup_perm {α : Type} {l l' : List (String × α)} (h : l.Perm l')
    (hl : (l.map Prod.fst).Nodup) (name : String) : l.lookup name = l'.lookup name := by
  have hl' : (l'.map Prod.fst).Nodup := (h.map Prod.fst).nodup_iff.mp hl
  refine Option.ext fun value => ?_
  rw [lookup_eq_some_iff hl, lookup_eq_some_iff hl', h.mem_iff]

/-- Leaving out other names does not change the answer to a name. -/
theorem lookup_filter {α : Type} (keep : String → Bool) {name : String} (hname : keep name = true)
    (l : List (String × α)) : (l.filter fun e => keep e.1).lookup name = l.lookup name := by
  induction l with
  | nil => rfl
  | cons e l ih =>
      rw [List.filter_cons]
      by_cases he : e.1 = name
      · subst he
        rw [if_pos hname, lookup_cons_eq, lookup_cons_eq, if_pos rfl, if_pos rfl]
      · split
        · rw [lookup_cons_eq, lookup_cons_eq, ih]
        · rw [lookup_cons_eq, ih, if_neg he]

/-! ## Entries that answer alike -/

section

variable (R : String → Option Node → Option Node → Prop)

/-- The entries of two parts of documents cannot be read, or answer alike to every name. -/
inductive EntriesAlike (v v' : Node) : Prop
  | neither (h : v.entries? = none) (h' : v'.entries? = none)
  | both {l l' : List (String × Node)} (h : v.entries? = some l) (h' : v'.entries? = some l')
      (hanswers : ∀ name, R name (l.lookup name) (l'.lookup name))

/-- The fields of two sections cannot be read, or answer alike to the names of the fields. -/
inductive FieldsAlike (names : List String) (v v' : Node) : Prop
  | neither (h : v.fields names = failure) (h' : v'.fields names = failure)
  | both {l l' : List (String × Node)} (h : v.fields names = pure l) (h' : v'.fields names = pure l')
      (hanswers : ∀ name ∈ names, R name (l.lookup name) (l'.lookup name))

end

namespace Node

variable {v v' : Node} {R : String → Option Node → Option Node → Prop} {names : List String}

/-- A part that is not a list of fields in their order. -/
def NoList (v : Node) : Prop := ∀ items, v ≠ .list .positional items

/-- The fields of a tree are its entries of their names. -/
theorem IsTree.fields_eq (hv : v.IsTree) (hlist : v.NoList) (names : List String) :
    v.fields names = liftM (v.entries?.map fun l => l.filter fun e => names.contains e.1) := by
  have hfields : v.fields names = (v.entries >>= fun l =>
      if ((l.filter fun e => names.contains e.1).map (·.1)).Nodup then
        pure (l.filter fun e => names.contains e.1)
      else failure) := by
    unfold Node.fields
    split
    · next items => exact absurd rfl (hlist items)
    · rfl
  rw [hfields, hv.entries_eq]
  cases hl : v.entries? with
  | none => rfl
  | some l =>
      have hnodup : ((l.filter fun e => names.contains e.1).map Prod.fst).Nodup :=
        (hv.names_nodup hl).sublist (List.filter_sublist.map Prod.fst)
      exact if_pos hnodup

end Node

theorem EntriesAlike.fields {v v' : Node} {R : String → Option Node → Option Node → Prop}
    (h : EntriesAlike R v v') (hv : v.IsTree) (hv' : v'.IsTree) (hlist : v.NoList)
    (hlist' : v'.NoList) (names : List String) : FieldsAlike R names v v' := by
  cases h with
  | neither h h' =>
      refine .neither ?_ ?_
      · rw [hv.fields_eq hlist, h]
        rfl
      · rw [hv'.fields_eq hlist', h']
        rfl
  | @both l l' h h' hanswers =>
      have hfields : v.fields names = pure (l.filter fun e => names.contains e.1) := by
        rw [hv.fields_eq hlist, h]
        rfl
      have hfields' : v'.fields names = pure (l'.filter fun e => names.contains e.1) := by
        rw [hv'.fields_eq hlist', h']
        rfl
      refine .both hfields hfields' fun name hname => ?_
      have hkept : names.contains name = true := List.contains_iff_mem.mpr hname
      rw [lookup_filter names.contains hkept, lookup_filter names.contains hkept]
      exact hanswers name

/-- What is made of the fields of sections is the same if it does not tell their answers
apart. -/
theorem FieldsAlike.bind_congr {α : Type} {v v' : Node}
    {R : String → Option Node → Option Node → Prop} {names : List String}
    (h : FieldsAlike R names v v') {f : List (String × Node) → Reading α}
    (hf : ∀ l l', (∀ name ∈ names, R name (l.lookup name) (l'.lookup name)) → f l = f l') :
    (v.fields names >>= f) = (v'.fields names >>= f) := by
  cases h with
  | neither h h' => rw [h, h']
  | both h h' hanswers =>
      rw [h, h', pure_bind, pure_bind]
      exact hf _ _ hanswers

/-! ### Where entries answer alike -/

section

variable {R : String → Option Node → Option Node → Prop} {marking marking' : Marking}
  {entries entries' : List (Node × Node)}

open Node

/-- Entries that are alike one by one answer alike. -/
theorem entriesAlike_of_forall₂ (hnone : ∀ name, R name none none)
    (h : List.Forall₂ (fun e e' : Node × Node => e.1.key? = e'.1.key? ∧
      ∀ name, e.1.key? = some name → R name (some e.2) (some e'.2)) entries entries') :
    EntriesAlike R (.mapping marking entries) (.mapping marking' entries') := by
  suffices hsuff : (entries.mapM keyed? = none ∧ entries'.mapM keyed? = none) ∨
      ∃ l l', entries.mapM keyed? = some l ∧ entries'.mapM keyed? = some l' ∧
        ∀ name, R name (l.lookup name) (l'.lookup name) by
    rcases hsuff with ⟨hl, hl'⟩ | ⟨l, l', hl, hl', hanswers⟩
    · exact .neither hl hl'
    · exact .both hl hl' hanswers
  induction h with
  | nil => exact .inr ⟨[], [], rfl, rfl, hnone⟩
  | @cons e e' entries entries' he _ ih =>
      obtain ⟨hkey, hvalue⟩ := he
      rw [mapM_keyed_cons, mapM_keyed_cons]
      cases hname : e.1.key? with
      | none =>
          have hname' : e'.1.key? = none := hkey ▸ hname
          refine .inl ⟨?_, ?_⟩
          · simp only [keyed?, hname, Option.map_none, Option.bind_none]
          · simp only [keyed?, hname', Option.map_none, Option.bind_none]
      | some name =>
          have hname' : e'.1.key? = some name := hkey ▸ hname
          simp only [keyed?, hname, hname', Option.map_some, Option.bind_some]
          rcases ih with ⟨hl, hl'⟩ | ⟨l, l', hl, hl', hanswers⟩
          · exact .inl ⟨by rw [hl]; rfl, by rw [hl']; rfl⟩
          · refine .inr ⟨_, _, by rw [hl]; rfl, by rw [hl']; rfl, fun other => ?_⟩
            rw [lookup_cons_eq, lookup_cons_eq]
            by_cases hother : name = other
            · subst hother
              rw [if_pos rfl, if_pos rfl]
              exact hvalue name hname
            · rw [if_neg hother, if_neg hother]
              exact hanswers other

/-- Entries in another order answer alike. -/
theorem entriesAlike_of_perm (hrefl : ∀ name o, R name o o) (h : entries.Perm entries')
    (hnodup : (keys entries).Nodup) :
    EntriesAlike R (.mapping marking entries) (.mapping marking' entries') := by
  have hmapM : ∀ l : List (Node × Node), l.mapM keyed? =
      if l.all fun e => (keyed? e).isSome then some (l.filterMap keyed?) else none := by
    intro l
    induction l with
    | nil => rfl
    | cons e l ih =>
        rw [mapM_keyed_cons, ih]
        cases he : keyed? e with
        | none => simp [he]
        | some x =>
            rw [List.filterMap_cons_some he]
            simp only [Option.bind_some, List.all_cons, he, Option.isSome_some, Bool.true_and]
            split <;> rfl
  have hall := h.all_eq (f := fun e => (keyed? e).isSome)
  cases hl : entries.mapM keyed? with
  | none =>
      refine .neither hl ?_
      rw [entries?, hmapM, ← hall]
      rw [hmapM] at hl
      split at hl
      · cases hl
      · next hsome => rw [if_neg hsome]
  | some l =>
      have hnames : (l.map Prod.fst).Nodup := by rwa [← (keyed_eq hl).1]
      have hl' := hl
      rw [hmapM] at hl'
      obtain ⟨hsome, hfilter⟩ := Option.ite_none_right_eq_some.mp hl'
      refine @EntriesAlike.both _ _ _ l (entries'.filterMap keyed?) hl ?_ fun name => ?_
      · rw [entries?, hmapM, ← hall, if_pos hsome]
      · have hperm : l.Perm (entries'.filterMap keyed?) := by
          rw [← Option.some.inj hfilter]
          exact h.filterMap _
        rw [← lookup_perm hperm hnames name]
        exact hrefl name _

/-- A new entry changes the answer to its name only. -/
theorem entriesAlike_cons (hrefl : ∀ name o, R name o o) {key v : Node} {name : String}
    (hkey : key.key? = some name) (hnew : name ∉ keys entries) (hadded : R name none (some v)) :
    EntriesAlike R (.mapping marking entries) (.mapping marking' ((key, v) :: entries)) := by
  cases hl : entries.mapM keyed? with
  | none =>
      refine .neither hl ?_
      rw [entries?, mapM_keyed_cons, hl]
      cases keyed? (key, v) <;> rfl
  | some l =>
      refine @EntriesAlike.both _ _ _ l ((name, v) :: l) hl ?_ fun other => ?_
      · rw [entries?, mapM_keyed_cons, hl]
        simp only [keyed?, hkey, Option.map_some, Option.bind_some]
      · rw [lookup_cons_eq]
        by_cases hother : name = other
        · subst hother
          have hnone : l.lookup name = none := by
            rw [(keyed_eq hl).1] at hnew
            cases hlookup : l.lookup name with
            | none => rfl
            | some v' =>
                rw [lookup_eq_answer] at hlookup
                have hmem := NameMap.mem_of_answer hlookup
                exact absurd (List.mem_map_of_mem (f := Prod.fst) hmem) hnew
          rw [if_pos rfl, hnone]
          exact hadded
        · rw [if_neg hother]
          exact hrefl other _

end

/-! ## Comparing parts -/

deriving instance DecidableEq for Scalar

namespace Node

mutual

/-- Whether two parts are the same. -/
def same : Node → Node → Bool
  | .scalar s, .scalar s' => s = s'
  | .list marking items, .list marking' items' => marking = marking' && sameItems items items'
  | .mapping marking entries, .mapping marking' entries' =>
    marking = marking' && sameEntries entries entries'
  | .alias number, .alias number' => number = number'
  | .unreadable, .unreadable => true
  | _, _ => false

/-- Whether the items of two lists are the same. -/
def sameItems : List Node → List Node → Bool
  | [], [] => true
  | item :: rest, item' :: rest' => same item item' && sameItems rest rest'
  | _, _ => false

/-- Whether the entries of two mappings are the same. -/
def sameEntries : List (Node × Node) → List (Node × Node) → Bool
  | [], [] => true
  | (key, value) :: rest, (key', value') :: rest' =>
    same key key' && same value value' && sameEntries rest rest'
  | _, _ => false

end

mutual

theorem eq_of_same : ∀ {v v' : Node}, same v v' = true → v = v'
  | .scalar s, .scalar s', h => by
    simp only [same, decide_eq_true_eq] at h
    rw [h]
  | .list marking items, .list marking' items', h => by
    simp only [same, Bool.and_eq_true, decide_eq_true_eq] at h
    rw [h.1, eq_of_sameItems h.2]
  | .mapping marking entries, .mapping marking' entries', h => by
    simp only [same, Bool.and_eq_true, decide_eq_true_eq] at h
    rw [h.1, eq_of_sameEntries h.2]
  | .alias number, .alias number', h => by
    simp only [same, decide_eq_true_eq] at h
    rw [h]
  | .unreadable, .unreadable, _ => rfl

theorem eq_of_sameItems :
    ∀ {items items' : List Node}, sameItems items items' = true → items = items'
  | [], [], _ => rfl
  | item :: rest, item' :: rest', h => by
    simp only [sameItems, Bool.and_eq_true] at h
    rw [eq_of_same h.1, eq_of_sameItems h.2]

theorem eq_of_sameEntries : ∀ {entries entries' : List (Node × Node)},
    sameEntries entries entries' = true → entries = entries'
  | [], [], _ => rfl
  | (key, value) :: rest, (key', value') :: rest', h => by
    simp only [sameEntries, Bool.and_eq_true] at h
    rw [eq_of_same h.1.1, eq_of_same h.1.2, eq_of_sameEntries h.2]

end

end Node

/-- What is read with a given root. -/
theorem exists_root {o : Option Document} {v : Node}
    (h : (o.any fun d => Node.same d.root v) = true) : ∃ d, o = some d ∧ d.root = v := by
  obtain ⟨d, hd, hsame⟩ := (Option.any_eq_true _ _).mp h
  exact ⟨d, hd, Node.eq_of_same hsame⟩

end HealthWatch.Document
