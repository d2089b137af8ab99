import HealthWatch.Proofs.SectionReading

/-!
# How a configuration is written down

There are many ways to write down one configuration.  `Edit` lists what may be changed at any
place of a document: the order of keys, keys that name no field, and fields or sections that
have the value that is taken if they are left out.  A tree stays a tree (`Edit.isTree`), and
what is edited as a value is the same value for every reader of values (`Edit.sameValue`).
-/

namespace HealthWatch

open HealthWatch.Document HealthWatch.Document.Node HealthWatch.Document.Reading

/-! ## Places -/

/-- What stands at a place of a configuration. -/
inductive Place where
  | config
  | server
  | health
  | metrics
  | logging
  | dependencies
  | dependency
  /-- What is no section. -/
  | value
deriving DecidableEq

namespace Place

/-- The fields that there are at a place, whatever else stands there. -/
def fieldNames : Place → List String
  | .config => ["server", "health", "metrics", "logging", "dependencies"]
  | .server => ["listen"]
  | .health => ["interval_secs", "probe_ceiling_secs", "retry_attempts", "retry_delay_secs"]
  | .metrics => ["enabled", "port", "path"]
  | .logging => ["format", "directive"]
  | .dependency => ["kind", "enabled", "connect_retries", "connect_retry_delay_secs"]
  | .dependencies | .value => []

/-- The place of what stands under a key. -/
def child : Place → Option String → Place
  | .config, some "server" => .server
  | .config, some "health" => .health
  | .config, some "metrics" => .metrics
  | .config, some "logging" => .logging
  | .config, some "dependencies" => .dependencies
  | .dependencies, some _ => .dependency
  | _, _ => .value

/-- The value of a field that is left out. -/
def default? : Place → String → Option Value
  | .server, "listen" => some (.text "0.0.0.0:8080")
  | .health, "interval_secs" => some (.natural 300)
  | .health, "probe_ceiling_secs" => some (.natural 5)
  | .health, "retry_attempts" => some (.natural 3)
  | .health, "retry_delay_secs" => some (.natural 2)
  | .metrics, "enabled" => some (.flag false)
  | .metrics, "port" => some (.natural 9090)
  | .metrics, "path" => some (.text "/metrics")
  | .logging, "format" => some (.text "pretty")
  | .logging, "directive" => some (.text "storefront_health=info")
  | .dependency, "enabled" => some (.flag true)
  | .dependency, "connect_retries" => some (.natural 5)
  | .dependency, "connect_retry_delay_secs" => some (.natural 2)
  | _, _ => none

end Place

/-! ## Edits -/

/-- The count that a value is. -/
def Document.Value.natural? : Value → Option Nat
  | .natural n => some n
  | _ => none

/-- The flag that a value is. -/
def Document.Value.flag? : Value → Option Bool
  | .flag b => some b
  | _ => none

/-- A scalar that is a value for whatever reader wants one of its kind. -/
structure Document.Scalar.Presents (s : Scalar) (value : Value) : Prop where
  value_eq : s.value? = some value
  natural_eq : s.natural? = value.natural?
  flag_eq : s.flag? = value.flag?
  text_eq : ∀ t, value = .text t → s.text? = some t ∧ s.choice? = some t
  blank_eq : value ≠ .null → s.blank = false

/-- A part that is made of values by lists and mappings, nested so deep at most. -/
inductive Document.Node.Plain : Nat → Node → Prop
  | scalar {depth : Nat} {s : Scalar} {value : Value} (hvalue : s.value? = some value) :
      Plain depth (.scalar s)
  | list {depth : Nat} {marking : Marking} {items : List Node} (hmarking : marking ≠ .labelled)
      (hitems : ∀ item ∈ items, Plain depth item) : Plain (depth + 1) (.list marking items)
  | mapping {depth : Nat} {marking : Marking} {entries : List (Node × Node)}
      (hmarking : marking ≠ .labelled) (hkeys : ∀ e ∈ entries, Plain depth e.1)
      (hvalues : ∀ e ∈ entries, Plain depth e.2) : Plain (depth + 1) (.mapping marking entries)

/-- The entries of a dependency name its kind. -/
def NamesKind (entries : List (Node × Node)) (kind : KindName) : Prop :=
  ∃ key s value, (key, Node.scalar s) ∈ entries ∧ key.key? = some "kind" ∧
    s.value? = some value ∧ KindName.ofValue? value = some kind

/-- What may be written down under a name because it is the same if it is left out: the default
of a field, or a section without any fields. -/
inductive LeftOut (place : Place) (entries : List (Node × Node)) (name : String) : Node → Prop
  | field {s : Scalar} {value : Value} (hdefault : place.default? name = some value)
      (hs : s.Presents value) : LeftOut place entries name (.scalar s)
  | ofKind {s : Scalar} {value : Value} {kind : KindName} (hplace : place = .dependency)
      (hkind : NamesKind entries kind) (hdefault : kind.default? name = some value)
      (hs : s.Presents value) : LeftOut place entries name (.scalar s)
  | ofConfig (hplace : place = .config) (hname : name ∈ place.fieldNames) (marking : Marking) :
      LeftOut place entries name (.mapping marking [])

/-- A name is that of no field at a place. -/
structure NoField (place : Place) (entries : List (Node × Node)) (name : String) : Prop where
  isSection : place ≠ .dependencies ∧ place ≠ .value
  notCommon : name ∉ place.fieldNames
  notOfKind : place = .dependency → ∀ kind, NamesKind entries kind → name ∉ kind.fieldNames

/-- What may be changed at a place, or below it, without another meaning. -/
inductive Edit : Place → Node → Node → Prop
  /-- Keys come in another order. -/
  | permute {place : Place} {marking : Marking} {entries entries' : List (Node × Node)}
      (hperm : entries.Perm entries') :
      Edit place (.mapping marking entries) (.mapping marking entries')
  /-- There is a new key that names no field.  What a dependency has under it must be plain. -/
  | extra {place : Place} {marking : Marking} {entries : List (Node × Node)} {key : Scalar}
      {name : String} {v : Node} (hkey : key.text? = some name) (hnew : name ∉ keys entries)
      (hname : NoField place entries name) (htree : v.IsTree)
      (hplain : place = .dependency → Plain 124 v) :
      Edit place (.mapping marking entries) (.mapping marking ((.scalar key, v) :: entries))
  /-- What was left out is written down. -/
  | write {place : Place} {marking : Marking} {entries : List (Node × Node)} {key : Scalar}
      {name : String} {v : Node} (hkey : key.text? = some name) (hnew : name ∉ keys entries)
      (hleftOut : LeftOut place entries name v) :
      Edit place (.mapping marking entries) (.mapping marking ((.scalar key, v) :: entries))
  /-- What stands under a key is changed. -/
  | under {place : Place} {marking : Marking} {before after : List (Node × Node)}
      {key v v' : Node} (hedit : Edit (place.child key.key?) v v') :
      Edit place (.mapping marking (before ++ (key, v) :: after))
        (.mapping marking (before ++ (key, v') :: after))
  /-- A mapping that is itself a key is changed. -/
  | inKey {place : Place} {marking : Marking} {before after : List (Node × Node)}
      {key key' v : Node} (hedit : Edit .value key key') :
      Edit place (.mapping marking (before ++ (key, v) :: after))
        (.mapping marking (before ++ (key', v) :: after))
  /-- The item of a list is changed. -/
  | item {place : Place} {marking : Marking} {before after : List Node} {v v' : Node}
      (hplace : place ≠ .config) (hedit : Edit .value v v') :
      Edit place (.list marking (before ++ v :: after)) (.list marking (before ++ v' :: after))

variable {place : Place} {v v' : Node} {entries : List (Node × Node)} {name : String}

theorem LeftOut.isTree (h : LeftOut place entries name v) : v.IsTree := by
  cases h with
  | field => exact .scalar _
  | ofKind => exact .scalar _
  | ofConfig => exact .mapping .nil (by simp) (by simp)

/-- Nothing is left out of a value. -/
theorem LeftOut.not_value (h : LeftOut .value entries name v) : False := by
  cases h with
  | field hdefault => cases hdefault
  | ofKind hplace => cases hplace
  | ofConfig hplace => cases hplace

/-- A new key makes a tree of a tree. -/
theorem isTree_cons {marking : Marking} {key : Scalar} (hv : (mapping marking entries).IsTree)
    (hkey : key.text? = some name) (hnew : name ∉ keys entries) (htree : v.IsTree) :
    (mapping marking ((.scalar key, v) :: entries)).IsTree := by
  cases hv with
  | mapping hnodup hkeys hvalues =>
      have hcons : keys ((.scalar key, v) :: entries) = name :: keys entries :=
        List.filterMap_cons_some (f := fun e : Node × Node => e.1.key?) hkey
      refine .mapping ?_ (List.forall_mem_cons.mpr ⟨.scalar key, hkeys⟩)
        (List.forall_mem_cons.mpr ⟨htree, hvalues⟩)
      rw [hcons]
      exact List.nodup_cons.mpr ⟨hnew, hnodup⟩

namespace Edit

/-! ## Edits of trees -/

/-- What is edited is a list or a mapping, before and after. -/
theorem shape (h : Edit place v v') :
    (∃ marking entries entries', v = .mapping marking entries ∧ v' = .mapping marking entries') ∨
      ∃ marking items items', v = .list marking items ∧ v' = .list marking items' := by
  cases h with
  | permute => exact .inl ⟨_, _, _, rfl, rfl⟩
  | extra => exact .inl ⟨_, _, _, rfl, rfl⟩
  | write => exact .inl ⟨_, _, _, rfl, rfl⟩
  | under => exact .inl ⟨_, _, _, rfl, rfl⟩
  | inKey => exact .inl ⟨_, _, _, rfl, rfl⟩
  | item => exact .inr ⟨_, _, _, rfl, rfl⟩

/-- What is edited is no text of a key. -/
theorem key?_eq_none (h : Edit place v v') : v.key? = none ∧ v'.key? = none := by
  rcases h.shape with ⟨_, _, _, rfl, rfl⟩ | ⟨_, _, _, rfl, rfl⟩ <;> exact ⟨rfl, rfl⟩

/-- A tree stays a tree. -/
theorem isTree (h : Edit place v v') (hv : v.IsTree) : v'.IsTree := by
  induction h with
  | permute hperm =>
      cases hv with
      | mapping hnodup hkeys hvalues =>
          exact .mapping ((hperm.filterMap _).nodup_iff.mp hnodup)
            (fun e he => hkeys e (hperm.mem_iff.mpr he))
            fun e he => hvalues e (hperm.mem_iff.mpr he)
  | extra hkey hnew hname htree hplain => exact isTree_cons hv hkey hnew htree
  | write hkey hnew hleftOut => exact isTree_cons hv hkey hnew hleftOut.isTree
  | @under _ _ before after key v v' hedit ih =>
      cases hv with
      | mapping hnodup hkeys hvalues =>
          have hsame : keys (before ++ (key, v') :: after) = keys (before ++ (key, v) :: after) := by
            simp only [keys, List.filterMap_append, List.filterMap_cons]
          simp only [List.forall_mem_append, List.forall_mem_cons] at hkeys hvalues
          obtain ⟨hbefore, hv, hafter⟩ := hvalues
          refine .mapping (hsame ▸ hnodup) ?_ ?_
          · simpa only [List.forall_mem_append, List.forall_mem_cons] using hkeys
          · simpa only [List.forall_mem_append, List.forall_mem_cons] using
              ⟨hbefore, ih hv, hafter⟩
  | @inKey _ _ before after key key' v hedit ih =>
      cases hv with
      | mapping hnodup hkeys hvalues =>
          have hsame : keys (before ++ (key', v) :: after) = keys (before ++ (key, v) :: after) := by
            simp only [keys, List.filterMap_append, List.filterMap_cons, hedit.key?_eq_none.1,
              hedit.key?_eq_none.2]
          simp only [List.forall_mem_append, List.forall_mem_cons] at hkeys hvalues
          obtain ⟨hbefore, hkey, hafter⟩ := hkeys
          refine .mapping (hsame ▸ hnodup) ?_ ?_
          · simpa only [List.forall_mem_append, List.forall_mem_cons] using
              ⟨hbefore, ih hkey, hafter⟩
          · simpa only [List.forall_mem_append, List.forall_mem_cons] using hvalues
  | item hplace hedit ih =>
      cases hv with
      | list hitems =>
          simp only [List.forall_mem_append, List.forall_mem_cons] at hitems
          obtain ⟨hbefore, hv, hafter⟩ := hitems
          refine .list ?_
          simpa only [List.forall_mem_append, List.forall_mem_cons] using
            ⟨hbefore, ih hv, hafter⟩

end Edit

/-! ## Values -/

/-- Two values are the same for every reader of values. -/
structure SameValue (v v' : Node) : Prop where
  content_eq : ∀ levels, content levels v = content levels v'
  scalar_eq : ∀ {α : Type} (read : Scalar → Option α), ofScalar read v = ofScalar read v'
  choice_eq : v.choice = v'.choice

theorem SameValue.refl (v : Node) : SameValue v v := ⟨fun _ => rfl, fun _ => rfl, rfl⟩

/-- A mapping that names a choice. -/
def IsChoice (v : Node) : Prop :=
  ∃ key content, v = .mapping .positional [(.scalar key, .scalar content)]

theorem choice_eq_ofScalar (hv : ¬IsChoice v) : v.choice = ofScalar Scalar.choice? v := by
  unfold choice
  split
  · exact absurd ⟨_, _, rfl⟩ hv
  · rfl

namespace Edit

/-- There is no edit of a mapping that names a choice, but to leave it as it is. -/
theorem eq_of_isChoice (h : Edit .value v v') (hchoice : IsChoice v ∨ IsChoice v') : v = v' := by
  have hsingle : ∀ {before after : List (Node × Node)} {x : Node × Node} {key content : Scalar},
      before ++ x :: after = [(.scalar key, .scalar content)] →
        x = (.scalar key, .scalar content) := by
    intro before after x key content heq
    obtain ⟨rfl, hcons⟩ | ⟨rest, rfl, hcons⟩ := List.append_eq_cons_iff.mp heq
    · exact (List.cons.inj hcons).1
    · simp at hcons
  have hscalar : ∀ {place : Place} {v v' : Node}, Edit place v v' → ∀ s : Scalar,
      v ≠ .scalar s ∧ v' ≠ .scalar s := by
    intro place v v' h s
    rcases h.shape with ⟨_, _, _, rfl, rfl⟩ | ⟨_, _, _, rfl, rfl⟩ <;> simp
  cases h with
  | permute hperm =>
      rcases hchoice with ⟨key, content, heq⟩ | ⟨key, content, heq⟩
      · cases heq
        rw [List.singleton_perm.mp hperm]
      · cases heq
        rw [List.perm_singleton.mp hperm]
  | extra hkey hnew hname htree hplain => exact absurd rfl hname.isSection.2
  | write hkey hnew hleftOut => exact hleftOut.not_value.elim
  | under hedit =>
      rcases hchoice with ⟨key, content, heq⟩ | ⟨key, content, heq⟩
      · have hpair := hsingle (mapping.inj heq).2
        exact absurd (Prod.mk.inj hpair).2 (hscalar hedit content).1
      · have hpair := hsingle (mapping.inj heq).2
        exact absurd (Prod.mk.inj hpair).2 (hscalar hedit content).2
  | inKey hedit =>
      rcases hchoice with ⟨key, content, heq⟩ | ⟨key, content, heq⟩
      · have hpair := hsingle (mapping.inj heq).2
        exact absurd (Prod.mk.inj hpair).1 (hscalar hedit key).1
      · have hpair := hsingle (mapping.inj heq).2
        exact absurd (Prod.mk.inj hpair).1 (hscalar hedit key).2
  | item => rcases hchoice with ⟨_, _, heq⟩ | ⟨_, _, heq⟩ <;> cases heq

theorem content_zero (h : Edit place v v') : content 0 v = content 0 v' := by
  rcases h.shape with ⟨_, _, _, rfl, rfl⟩ | ⟨_, _, _, rfl, rfl⟩ <;> rfl

end Edit

/-- What there is to a mapping is told by what can be read of its entries, in any order. -/
theorem content_mapping_congr {marking : Marking} {entries entries' : List (Node × Node)}
    {levels : Nat} (hv : (mapping marking entries).IsTree)
    (hv' : (mapping marking entries').IsTree)
    (hiff : (∀ e ∈ entries, Readable levels e.1 ∧ Readable levels e.2) ↔
      ∀ e ∈ entries', Readable levels e.1 ∧ Readable levels e.2) :
    content (levels + 1) (.mapping marking entries) =
      content (levels + 1) (.mapping marking entries') := by
  cases hv with
  | mapping _ hkeys hvalues =>
      cases hv' with
      | mapping _ hkeys' hvalues' =>
          rw [content_mapping (fun e he => (hkeys e he).content_settled levels)
              fun e he => (hvalues e he).content_settled levels,
            content_mapping (fun e he => (hkeys' e he).content_settled levels)
              fun e he => (hvalues' e he).content_settled levels]
          simp only [hiff]

/-- What there is to a list is told by what can be read of its items. -/
theorem content_list_congr {marking : Marking} {items items' : List Node} {levels : Nat}
    (hv : (list marking items).IsTree) (hv' : (list marking items').IsTree)
    (hiff : (∀ item ∈ items, Readable levels item) ↔ ∀ item ∈ items', Readable levels item) :
    content (levels + 1) (.list marking items) = content (levels + 1) (.list marking items') := by
  cases hv with
  | list hitems =>
      cases hv' with
      | list hitems' =>
          rw [content_list fun item hitem => (hitems item hitem).content_settled levels,
            content_list fun item hitem => (hitems' item hitem).content_settled levels]
          simp only [hiff]

namespace Edit

/-- There is as much to a value after an edit as before. -/
theorem content_eq (h : Edit place v v') (hplace : place = .value) (hv : v.IsTree)
    (levels : Nat) : content levels v = content levels v' := by
  induction h generalizing levels with
  | permute hperm =>
      cases levels with
      | zero => exact content_zero (permute hperm : Edit .value _ _)
      | succ levels =>
          refine content_mapping_congr hv ((permute hperm : Edit .value _ _).isTree hv) ?_
          simp only [hperm.mem_iff]
  | extra hkey hnew hname htree hplain => exact absurd hplace hname.isSection.2
  | write hkey hnew hleftOut =>
      subst hplace
      exact hleftOut.not_value.elim
  | @under place marking before after key v v' hedit ih =>
      subst hplace
      have hwhole : Edit .value (.mapping marking (before ++ (key, v) :: after)) _ := .under hedit
      cases levels with
      | zero => exact hwhole.content_zero
      | succ levels =>
          refine content_mapping_congr hv (hwhole.isTree hv) ?_
          have htree : v.IsTree := by
            cases hv with
            | mapping _ _ hvalues => exact hvalues (key, v) (by simp)
          have hreadable : Readable levels v ↔ Readable levels v' := by
            rw [Readable, Readable, ih rfl htree levels]
          simp only [List.forall_mem_append, List.forall_mem_cons, hreadable]
  | @inKey place marking before after key key' v hedit ih =>
      have hwhole : Edit place (.mapping marking (before ++ (key, v) :: after)) _ := .inKey hedit
      cases levels with
      | zero => exact hwhole.content_zero
      | succ levels =>
          refine content_mapping_congr hv (hwhole.isTree hv) ?_
          have htree : key.IsTree := by
            cases hv with
            | mapping _ hkeys _ => exact hkeys (key, v) (by simp)
          have hreadable : Readable levels key ↔ Readable levels key' := by
            rw [Readable, Readable, ih rfl htree levels]
          simp only [List.forall_mem_append, List.forall_mem_cons, hreadable]
  | @item place marking before after v v' hnoConfig hedit ih =>
      have hwhole : Edit place (.list marking (before ++ v :: after)) _ := .item hnoConfig hedit
      cases levels with
      | zero => exact hwhole.content_zero
      | succ levels =>
          refine content_list_congr hv (hwhole.isTree hv) ?_
          have htree : v.IsTree := by
            cases hv with
            | list hitems => exact hitems v (by simp)
          have hreadable : Readable levels v ↔ Readable levels v' := by
            rw [Readable, Readable, ih rfl htree levels]
          simp only [List.forall_mem_append, List.forall_mem_cons, hreadable]

/-- A value is the same after an edit. -/
theorem sameValue (h : Edit .value v v') (hv : v.IsTree) : SameValue v v' where
  content_eq := h.content_eq rfl hv
  scalar_eq read := by
    rcases h.shape with ⟨_, _, _, rfl, rfl⟩ | ⟨_, _, _, rfl, rfl⟩ <;> rfl
  choice_eq := by
    by_cases hchoice : IsChoice v ∨ IsChoice v'
    · rw [h.eq_of_isChoice hchoice]
    · obtain ⟨hnot, hnot'⟩ := not_or.mp hchoice
      rw [choice_eq_ofScalar hnot, choice_eq_ofScalar hnot']
      rcases h.shape with ⟨_, _, _, rfl, rfl⟩ | ⟨_, _, _, rfl, rfl⟩ <;> rfl

end Edit

end HealthWatch
