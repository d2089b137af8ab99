import HealthWatch.Proofs.Presentation
import HealthWatch.Proofs.SplitText
import Mathlib.Logic.Relation

/-!
# Edited sections are read alike

Each place of a document is read alike before and after an edit of it (`Edit.same`), by
induction on the edit, since an edit is made either of the mapping at that place or somewhere
below it.  What an edit does to the answer of a mapping to one name is a `SameField`; no reader
of a section tells such answers apart.
-/

namespace HealthWatch

open HealthWatch.Document HealthWatch.Document.Node HealthWatch.Document.Reading

variable {place : Place} {v v' : Node} {entries : List (Node × Node)} {name : String}

/-! ## Fields -/

/-- Parts that are read alike at a place. -/
def Same : Place → Node → Node → Prop
  | .config, v, v' => Config.ofNode v = Config.ofNode v'
  | .server, v, v' => ServerConfig.ofNode v = ServerConfig.ofNode v'
  | .health, v, v' => HealthConfig.ofNode v = HealthConfig.ofNode v'
  | .metrics, v, v' => MetricsConfig.ofNode v = MetricsConfig.ofNode v'
  | .logging, v, v' => LoggingConfig.ofNode v = LoggingConfig.ofNode v'
  | .dependencies, v, v' => dependenciesOfNode v = dependenciesOfNode v'
  | .dependency, v, v' => DependencyConfig.ofNode v = DependencyConfig.ofNode v'
  | .value, v, v' => SameValue v v'

/-- What stands under a name before and after an edit. -/
inductive SameField (place : Place) (entries : List (Node × Node)) (name : String) :
    Option Node → Option Node → Prop
  | same (o : Option Node) : SameField place entries name o o
  | changed {v v' : Node} (h : Same (place.child (some name)) v v') :
      SameField place entries name (some v) (some v')
  | written {v : Node} (h : LeftOut place entries name v) :
      SameField place entries name none (some v)
  | extra {v : Node} (h : NoField place entries name) (hplain : place = .dependency → Plain 124 v) :
      SameField place entries name none (some v)

namespace Document

variable {s : Scalar}

theorem natural_of_presents {n limit : Nat} (hs : s.Presents (.natural n)) (hn : n < limit) :
    natural limit (.scalar s) = pure n := by
  have hread : s.natural?.filter (· < limit) = some n := by
    rw [hs.natural_eq, Value.natural?, Option.filter_some, if_pos (decide_eq_true hn)]
  have hnatural : natural limit (.scalar s) = liftM (s.natural?.filter (· < limit)) := rfl
  rw [hnatural, hread]
  rfl

theorem flag_of_presents {b : Bool} (hs : s.Presents (.flag b)) :
    flag (.scalar s) = pure b := by
  have hflag : flag (.scalar s) = liftM s.flag? := rfl
  rw [hflag, hs.flag_eq]
  rfl

theorem text_of_presents {t : String} (hs : s.Presents (.text t)) :
    text (.scalar s) = pure t := by
  have htext : text (.scalar s) = liftM s.text? := rfl
  rw [htext, (hs.text_eq t rfl).1]
  rfl

theorem choice_of_presents {t : String} (hs : s.Presents (.text t)) :
    choice (.scalar s) = pure t := by
  have hchoice : choice (.scalar s) = liftM s.choice? := rfl
  rw [hchoice, (hs.text_eq t rfl).2]
  rfl

end Document

/-- No kind has a field of its own by a name that all dependencies have. -/
theorem KindName.default?_of_common {kind : KindName}
    (hmem : name ∈ Place.dependency.fieldNames) : kind.default? name = none := by
  simp only [Place.fieldNames, List.mem_cons, List.not_mem_nil, or_false] at hmem
  rcases hmem with rfl | rfl | rfl | rfl <;> cases kind <;> rfl

/-- A field that is no section comes to the same if its reader reads equal values alike and takes
the default for what it is. -/
theorem reads_leaf {α : Type} {default : α} {read : Node → Reading α} (hplace : place ≠ .config)
    (hmem : name ∈ place.fieldNames) (hchild : place.child (some name) = .value)
    (hsame : ∀ v v', SameValue v v' → read v = read v')
    (hdefault : ∀ s value, place.default? name = some value → Scalar.Presents s value →
      read (.scalar s) = pure default) :
    Reads (SameField place entries) name default read := by
  intro o o' h
  cases h with
  | same => rfl
  | changed h =>
      rw [hchild] at h
      exact hsame _ _ h
  | written h =>
      cases h with
      | field hvalue hs => exact (hdefault _ _ hvalue hs).symm
      | ofKind hdependency _ hvalue =>
          subst hdependency
          rw [KindName.default?_of_common hmem] at hvalue
          cases hvalue
      | ofConfig hconfig => exact absurd hconfig hplace
  | extra h => exact absurd hmem h.notCommon

/-- A section comes to the same if its reader reads an empty mapping as the default. -/
theorem reads_section {α : Type} {default : α} {read : Node → Reading α}
    (hmem : name ∈ Place.config.fieldNames)
    (hsame : ∀ v v', Same (Place.config.child (some name)) v v' → read v = read v')
    (hdefault : ∀ marking, read (.mapping marking []) = pure default) :
    Reads (SameField .config entries) name default read := by
  intro o o' h
  cases h with
  | same => rfl
  | changed h => exact hsame _ _ h
  | written h =>
      cases h with
      | field hvalue => cases hvalue
      | ofKind hplace => cases hplace
      | ofConfig _ _ marking => exact (hdefault marking).symm
  | extra h => exact absurd hmem h.notCommon

/-! ## Sections -/

theorem SameValue.natural_eq (h : SameValue v v') (limit : Nat) :
    natural limit v = natural limit v' := h.scalar_eq _

theorem SameValue.flag_eq (h : SameValue v v') : flag v = flag v' := h.scalar_eq _

theorem SameValue.text_eq (h : SameValue v v') : text v = text v' := h.scalar_eq _

theorem server_same (h : FieldsAlike (SameField .server entries) ["listen"] v v') :
    ServerConfig.ofNode v = ServerConfig.ofNode v' := by
  refine ServerConfig.ofNode_congr h (reads_leaf nofun (by decide) rfl ?_ ?_)
  · intro v v' hsame
    rw [hsame.text_eq]
  · intro s value hvalue hs
    cases hvalue
    rw [text_of_presents hs, pure_bind, Net.SocketAddress.ofText?_everywhere]
    rfl

/-- A count comes to the same. -/
theorem reads_natural {limit n : Nat} (hplace : place ≠ .config) (hmem : name ∈ place.fieldNames)
    (hchild : place.child (some name) = .value) (hdefault : place.default? name = some (.natural n))
    (hn : n < limit) : Reads (SameField place entries) name n (natural limit) := by
  refine reads_leaf hplace hmem hchild (fun v v' hsame => hsame.natural_eq limit) ?_
  intro s value hvalue hs
  rw [hdefault] at hvalue
  cases hvalue
  exact natural_of_presents hs hn

/-- A flag comes to the same. -/
theorem reads_flag {b : Bool} (hplace : place ≠ .config) (hmem : name ∈ place.fieldNames)
    (hchild : place.child (some name) = .value) (hdefault : place.default? name = some (.flag b)) :
    Reads (SameField place entries) name b flag := by
  refine reads_leaf hplace hmem hchild (fun v v' hsame => hsame.flag_eq) ?_
  intro s value hvalue hs
  rw [hdefault] at hvalue
  cases hvalue
  exact flag_of_presents hs

/-- A text comes to the same. -/
theorem reads_text {t : String} (hplace : place ≠ .config) (hmem : name ∈ place.fieldNames)
    (hchild : place.child (some name) = .value) (hdefault : place.default? name = some (.text t)) :
    Reads (SameField place entries) name t text := by
  refine reads_leaf hplace hmem hchild (fun v v' hsame => hsame.text_eq) ?_
  intro s value hvalue hs
  rw [hdefault] at hvalue
  cases hvalue
  exact text_of_presents hs

theorem health_same (h : FieldsAlike (SameField .health entries)
    ["interval_secs", "probe_ceiling_secs", "retry_attempts", "retry_delay_secs"] v v') :
    HealthConfig.ofNode v = HealthConfig.ofNode v' :=
  HealthConfig.ofNode_congr h (reads_natural nofun (by decide) rfl rfl (by decide))
    (reads_natural nofun (by decide) rfl rfl (by decide))
    (reads_natural nofun (by decide) rfl rfl (by decide))
    (reads_natural nofun (by decide) rfl rfl (by decide))

theorem metrics_same
    (h : FieldsAlike (SameField .metrics entries) ["enabled", "port", "path"] v v') :
    MetricsConfig.ofNode v = MetricsConfig.ofNode v' :=
  MetricsConfig.ofNode_congr h (reads_flag nofun (by decide) rfl rfl)
    (reads_natural nofun (by decide) rfl rfl (by decide)) (reads_text nofun (by decide) rfl rfl)

theorem logging_same (h : FieldsAlike (SameField .logging entries) ["format", "directive"] v v') :
    LoggingConfig.ofNode v = LoggingConfig.ofNode v' := by
  refine LoggingConfig.ofNode_congr h (reads_leaf nofun (by decide) rfl ?_ ?_)
    (reads_text nofun (by decide) rfl rfl)
  · intro v v' hsame
    rw [hsame.choice_eq]
  · intro s value hvalue hs
    cases hvalue
    rw [choice_of_presents hs, pure_bind]
    rfl

theorem config_same (h : FieldsAlike (SameField .config entries)
    ["server", "health", "metrics", "logging", "dependencies"] v v') :
    Config.ofNode v = Config.ofNode v' :=
  Config.ofNode_congr h (reads_section (by decide) (fun _ _ h => h) fun _ => rfl)
    (reads_section (by decide) (fun _ _ h => h) fun _ => rfl)
    (reads_section (by decide) (fun _ _ h => h) fun _ => rfl)
    (reads_section (by decide) (fun _ _ h => h) fun _ => rfl)
    (reads_section (by decide) (fun _ _ h => h) fun _ => rfl)

theorem dependencies_same (h : EntriesAlike (SameField .dependencies entries) v v') (hv : v.IsTree)
    (hv' : v'.IsTree) : dependenciesOfNode v = dependenciesOfNode v' := by
  refine dependenciesOfNode_congr h hv hv' fun name o o' hfield => ?_
  cases hfield with
  | same => rfl
  | changed h => exact congrArg some h
  | written h =>
      cases h with
      | field hvalue => cases hvalue
      | ofKind hplace => cases hplace
      | ofConfig hplace => cases hplace
  | extra h => exact absurd rfl h.isSection.1

/-! ## A dependency -/

section

variable {levels : Nat} {marking : Marking} {l : List (String × Node)}

/-- What is listed under a name is what stands under a key of that text. -/
theorem mem_keyed_iff (h : entries.mapM keyed? = some l) :
    (name, v) ∈ l ↔ ∃ key, (key, v) ∈ entries ∧ key.key? = some name := by
  induction entries generalizing l with
  | nil =>
      cases h
      simp
  | cons e entries ih =>
      rw [mapM_keyed_cons] at h
      obtain ⟨x, hx, hmap⟩ := Option.bind_eq_some_iff.mp h
      obtain ⟨rest, hrest, rfl⟩ := Option.map_eq_some_iff.mp hmap
      obtain ⟨first, hfirst, rfl⟩ := Option.map_eq_some_iff.mp hx
      rw [List.mem_cons, ih hrest]
      constructor
      · rintro (heq | ⟨key, hmem, hkey⟩)
        · cases heq
          exact ⟨e.1, List.mem_cons_self, hfirst⟩
        · exact ⟨key, List.mem_cons_of_mem _ hmem, hkey⟩
      · rintro ⟨key, hmem, hkey⟩
        rcases List.mem_cons.mp hmem with rfl | hmem
        · rw [hfirst] at hkey
          exact .inl (by rw [Option.some.inj hkey])
        · exact .inr ⟨key, hmem, hkey⟩

/-- Only a scalar has a value. -/
theorem value_of_content {value : Value} (hv : v.IsTree)
    (h : (content levels v).alone? = some (.value value)) :
    ∃ s, v = .scalar s ∧ s.value? = some value := by
  have hnested : ∀ (p : Prop) [Decidable p],
      alone? (if p then pure .nested else failure : Reading Content) ≠ some (.value value) := by
    intro p _
    split <;> nofun
  cases hv with
  | scalar s =>
      rw [content_scalar, alone?_lift] at h
      obtain ⟨value', hs, heq⟩ := Option.map_eq_some_iff.mp h
      cases heq
      exact ⟨s, rfl, hs⟩
  | unreadable => cases levels <;> cases h
  | list hitems =>
      cases levels with
      | zero => cases h
      | succ levels =>
          rw [content_list fun item hitem => (hitems item hitem).content_settled levels] at h
          exact absurd h (hnested _)
  | mapping hnodup hkeys hvalues =>
      cases levels with
      | zero => cases h
      | succ levels =>
          rw [content_mapping (fun e he => (hkeys e he).content_settled levels)
            fun e he => (hvalues e he).content_settled levels] at h
          exact absurd h (hnested _)

/-- The kind that the entries of a tree name is the one that is read. -/
theorem namesKind_iff (hv : (mapping marking entries).IsTree)
    (hl : (mapping marking entries).entries? = some l) {kind : KindName} :
    NamesKind entries kind ↔ kindOf? (contentOf levels l "kind") = some kind := by
  have hnames := hv.names_nodup hl
  constructor
  · rintro ⟨key, s, value, hmem, hkey, hvalue, hkind⟩
    have hlookup : l.lookup "kind" = some (.scalar s) :=
      (lookup_eq_some_iff hnames).mpr ((mem_keyed_iff hl).mpr ⟨key, hmem, hkey⟩)
    rw [contentOf, hlookup, Option.bind_some, content_scalar, alone?_lift, hvalue]
    exact hkind
  · intro h
    cases hcontent : contentOf levels l "kind" with
    | none =>
        rw [hcontent] at h
        cases h
    | some c =>
        rw [hcontent] at h
        cases c with
        | nested => cases h
        | value value =>
            obtain ⟨v, hlookup, halone⟩ := Option.bind_eq_some_iff.mp hcontent
            have hmem := (lookup_eq_some_iff hnames).mp hlookup
            obtain ⟨s, rfl, hvalue⟩ := value_of_content (hv.of_mem hl hmem) halone
            obtain ⟨key, hentry, hkey⟩ := (mem_keyed_iff hl).mp hmem
            exact ⟨key, s, value, hentry, hkey, hvalue, h⟩

/-- What there is to a part of which everything can be read. -/
def Document.Node.shape? : Node → Option Content
  | .scalar s => s.value?.map .value
  | _ => some .nested

/-- All there is to what is plain can be read. -/
theorem Document.Node.Plain.content_eq {depth : Nat} (h : Plain depth v) (hv : v.IsTree)
    (hlevels : depth ≤ levels) : content levels v = liftM v.shape? ∧ v.shape?.isSome = true := by
  induction h generalizing levels with
  | @scalar depth s value hvalue =>
      refine ⟨content_scalar s levels, ?_⟩
      rw [shape?, hvalue]
      rfl
  | @list depth marking items hmarking hitems ih =>
      obtain ⟨levels, rfl⟩ := Nat.exists_eq_add_of_le' (Nat.one_le_of_lt hlevels)
      cases hv with
      | list htrees =>
          have hall : ∀ item ∈ items, Readable levels item := by
            intro item hitem
            obtain ⟨hcontent, hshape⟩ :=
              ih item hitem (htrees item hitem) (Nat.le_of_succ_le_succ hlevels)
            rwa [Readable, hcontent, alone?_lift]
          refine ⟨?_, rfl⟩
          rw [content_list fun item hitem => (htrees item hitem).content_settled levels,
            if_pos ⟨hmarking, hall⟩]
          rfl
  | @mapping depth marking entries hmarking hkeys hvalues ihkeys ihvalues =>
      obtain ⟨levels, rfl⟩ := Nat.exists_eq_add_of_le' (Nat.one_le_of_lt hlevels)
      cases hv with
      | mapping hnodup htreeKeys htrees =>
          have hall : ∀ e ∈ entries, Readable levels e.1 ∧ Readable levels e.2 := by
            intro e he
            obtain ⟨hkey, hkeyShape⟩ :=
              ihkeys e he (htreeKeys e he) (Nat.le_of_succ_le_succ hlevels)
            obtain ⟨hcontent, hshape⟩ :=
              ihvalues e he (htrees e he) (Nat.le_of_succ_le_succ hlevels)
            rw [Readable, Readable, hkey, hcontent, alone?_lift, alone?_lift]
            exact ⟨hkeyShape, hshape⟩
          refine ⟨?_, rfl⟩
          rw [content_mapping (fun e he => (htreeKeys e he).content_settled levels)
            (fun e he => (htrees e he).content_settled levels), if_pos ⟨hmarking, hall⟩]
          rfl

/-- What is plain can be read. -/
theorem Document.Node.Plain.readable {depth : Nat} (h : Plain depth v) (hv : v.IsTree)
    (hlevels : depth ≤ levels) : Readable levels v := by
  obtain ⟨hcontent, hshape⟩ := h.content_eq hv hlevels
  rwa [Readable, hcontent, alone?_lift]

/-- Two answers hold something unreadable together. -/
theorem SameField.readable_iff {o o' : Option Node} (h : SameField .dependency entries name o o')
    (hlevels : 124 ≤ levels) (htree' : ∀ v, o' = some v → v.IsTree) :
    (∃ v, o = some v ∧ ¬Readable levels v) ↔ ∃ v, o' = some v ∧ ¬Readable levels v := by
  have hadded : ∀ v : Node, Readable levels v →
      ((∃ w, none = some w ∧ ¬Readable levels w) ↔ ∃ w, some v = some w ∧ ¬Readable levels w) := by
    intro v hv
    simp [hv]
  cases h with
  | same => rfl
  | changed h =>
      have hcontent := h.content_eq levels
      simp only [Option.some.injEq, exists_eq_left', Readable, hcontent]
  | @written v h =>
      have hscalar : ∀ (s : Scalar) (value : Value), s.Presents value →
          Readable levels (.scalar s) := by
        intro s value hs
        rw [Readable, content_scalar, alone?_lift, hs.value_eq]
        rfl
      cases h with
      | field _ hs => exact hadded _ (hscalar _ _ hs)
      | ofKind _ _ _ hs => exact hadded _ (hscalar _ _ hs)
      | ofConfig hplace => cases hplace
  | extra h hplain => exact hadded _ ((hplain rfl).readable (htree' _ rfl) hlevels)

/-- Something unreadable among the own fields is found under its name. -/
theorem exists_ownFields_iff (hl : (l.map Prod.fst).Nodup) :
    (∃ e ∈ ownFields l, ¬Readable levels e.2) ↔
      ∃ name, commonFieldNames.contains name = false ∧
        ∃ v, l.lookup name = some v ∧ ¬Readable levels v := by
  constructor
  · rintro ⟨⟨name, v⟩, he, hv⟩
    obtain ⟨hmem, hown⟩ := List.mem_filter.mp he
    exact ⟨name, (Bool.not_eq_true' _).mp hown, v, (lookup_eq_some_iff hl).mpr hmem, hv⟩
  · rintro ⟨name, hown, v, hlookup, hv⟩
    have hmem := (lookup_eq_some_iff hl).mp hlookup
    exact ⟨(name, v), List.mem_filter.mpr ⟨hmem, (Bool.not_eq_true' _).mpr hown⟩, hv⟩

/-- What a kind needs is the same before and after an edit, up to what it may leave out. -/
theorem SameField.sameOrWritten {l' : List (String × Node)}
    (h : SameField .dependency entries name (l.lookup name) (l'.lookup name)) {kind : KindName}
    (hkind : ∀ other, NamesKind entries other ↔ other = kind) (hname : name ∈ kind.fieldNames) :
    SameOrWritten kind name (contentOf levels l name) (contentOf levels l' name) := by
  have hown : Place.dependency.default? name = none := by
    revert hname
    cases kind <;> simp only [KindName.fieldNames, List.mem_cons, List.not_mem_nil, or_false] <;>
      rintro (rfl | rfl | rfl) <;> rfl
  generalize ho : l.lookup name = o at h
  generalize ho' : l'.lookup name = o' at h
  rw [contentOf, contentOf, ho, ho']
  cases h with
  | same => exact .inl rfl
  | changed h => exact .inl (congrArg alone? (h.content_eq levels))
  | written h =>
      cases h with
      | field hdefault =>
          rw [hown] at hdefault
          cases hdefault
      | ofKind _ hother hdefault hs =>
          rw [(hkind _).mp hother] at hdefault
          refine .inr ⟨rfl, _, hdefault, ?_⟩
          rw [Option.bind_some, content_scalar, alone?_lift, hs.value_eq]
          rfl
      | ofConfig hplace => cases hplace
  | extra h => exact absurd hname (h.notOfKind rfl kind ((hkind kind).mpr rfl))

/-- The content of the kind is the same before and after an edit. -/
theorem SameField.kind_eq {l' : List (String × Node)}
    (h : SameField .dependency entries "kind" (l.lookup "kind") (l'.lookup "kind")) :
    contentOf levels l "kind" = contentOf levels l' "kind" := by
  generalize ho : l.lookup "kind" = o at h
  generalize ho' : l'.lookup "kind" = o' at h
  rw [contentOf, contentOf, ho, ho']
  cases h with
  | same => rfl
  | changed h => exact congrArg alone? (h.content_eq levels)
  | written h =>
      cases h with
      | field hdefault => cases hdefault
      | ofKind _ _ hdefault =>
          rw [KindName.default?_of_common (by decide)] at hdefault
          cases hdefault
      | ofConfig hplace => cases hplace
  | extra h => exact absurd (by decide) h.notCommon

theorem dependency_same {entries' : List (Node × Node)}
    (h : EntriesAlike (SameField .dependency entries) (.mapping marking entries)
      (.mapping marking entries'))
    (hv : (mapping marking entries).IsTree) (hv' : (mapping marking entries').IsTree) :
    DependencyConfig.ofNode (.mapping marking entries) =
      DependencyConfig.ofNode (.mapping marking entries') := by
  cases h with
  | neither h h' =>
      rw [DependencyConfig.ofNode_eq hv, DependencyConfig.ofNode_eq hv', h, h']
      rfl
  | @both l l' hl hl' hanswers =>
      have hlevels : 124 ≤ marking.maxDepth - 3 := by cases marking <;> decide
      have htree' : ∀ name v, l'.lookup name = some v → v.IsTree := fun name v hlookup =>
        hv'.of_mem hl' ((lookup_eq_some_iff (hv'.names_nodup hl')).mp hlookup)
      have henabled : Reads (SameField .dependency entries) "enabled"
          ({} : ConnectConfig).enabled flag := reads_flag nofun (by decide) rfl rfl
      have hretries : Reads (SameField .dependency entries) "connect_retries"
          ({} : ConnectConfig).connectRetries (natural (bound 32)) :=
        reads_natural nofun (by decide) rfl rfl (by decide)
      have hdelay : Reads (SameField .dependency entries) "connect_retry_delay_secs"
          ({} : ConnectConfig).connectRetryDelaySecs (natural (bound 64)) :=
        reads_natural nofun (by decide) rfl rfl (by decide)
      refine DependencyConfig.ofNode_congr (henabled _ _ (hanswers _)) (hretries _ _ (hanswers _))
        (hdelay _ _ (hanswers _)) hv hv' hl hl' ?_ (hanswers "kind").kind_eq ?_
      · rw [exists_ownFields_iff (hv.names_nodup hl), exists_ownFields_iff (hv'.names_nodup hl')]
        refine exists_congr fun name => and_congr_right fun _ => ?_
        exact (hanswers name).readable_iff hlevels (htree' name)
      · intro kind hkind name hname
        refine (hanswers name).sameOrWritten (fun other => ?_) hname
        have hnamed : NamesKind entries other ↔
            kindOf? (contentOf (valueDepth (.mapping marking entries)) l "kind") = some other :=
          namesKind_iff hv hl
        rw [hnamed, hkind]
        exact ⟨fun h => (Option.some.inj h).symm, fun h => h ▸ rfl⟩

end

/-! ## Every edit -/

/-- What is read of its fields is read alike if they are the same. -/
theorem same_of_entriesAlike {marking : Marking} {entries' : List (Node × Node)}
    (hplace : place ≠ .value)
    (h : EntriesAlike (SameField place entries) (.mapping marking entries)
      (.mapping marking entries'))
    (hv : (mapping marking entries).IsTree) (hv' : (mapping marking entries').IsTree) :
    Same place (.mapping marking entries) (.mapping marking entries') := by
  have hfields := h.fields hv hv' nofun nofun
  cases place with
  | config => exact config_same (hfields _)
  | server => exact server_same (hfields _)
  | health => exact health_same (hfields _)
  | metrics => exact metrics_same (hfields _)
  | logging => exact logging_same (hfields _)
  | dependencies => exact dependencies_same h hv hv'
  | dependency => exact dependency_same h hv hv'
  | value => exact absurd rfl hplace

/-- Fields in their order are alike if the items are the same values. -/
theorem zip_sameField {items items' : List Node} (h : List.Forall₂ SameValue items items')
    (hchild : ∀ name, place.child (some name) = .value) (names : List String) (name : String) :
    SameField place entries name ((names.zip items).lookup name)
      ((names.zip items').lookup name) := by
  induction names generalizing items items' with
  | nil => exact .same none
  | cons first names ih =>
      cases h with
      | nil => exact .same none
      | cons hitem hrest =>
          rw [List.zip_cons_cons, List.zip_cons_cons, lookup_cons_eq, lookup_cons_eq]
          split
          · refine .changed ?_
            rw [hchild name]
            exact hitem
          · exact ih hrest

/-- Lists of the same values have the same fields. -/
theorem list_fieldsAlike (entries : List (Node × Node)) {marking : Marking}
    {items items' : List Node}
    (h : List.Forall₂ SameValue items items') (hv : (list marking items).IsTree)
    (hv' : (list marking items').IsTree) (hchild : ∀ name, place.child (some name) = .value)
    (names : List String) :
    FieldsAlike (SameField place entries) names (.list marking items) (.list marking items') := by
  by_cases hpositional : marking = .positional
  · subst hpositional
    have hfields : ∀ items : List Node, (list .positional items).fields names =
        if items.length ≤ names.length then pure (names.zip items) else failure := fun _ => rfl
    by_cases hlength : items.length ≤ names.length
    · have hlength' : items'.length ≤ names.length := h.length_eq ▸ hlength
      refine .both ((hfields _).trans (if_pos hlength)) ((hfields _).trans (if_pos hlength')) ?_
      exact fun name _ => zip_sameField h hchild names name
    · have hlength' : ¬items'.length ≤ names.length := h.length_eq ▸ hlength
      exact .neither ((hfields _).trans (if_neg hlength)) ((hfields _).trans (if_neg hlength'))
  · have hnoList : ∀ items : List Node, (list marking items).NoList := by
      intro items other heq
      exact hpositional (list.inj heq).1
    have hentries : EntriesAlike (SameField place entries) (.list marking items)
      (.list marking items') := .neither rfl rfl
    exact hentries.fields hv hv' (hnoList _) (hnoList _) names

/-- A list of the same values is read alike, except in place of a configuration. -/
theorem same_of_items {marking : Marking} {items items' : List Node} (hplace : place ≠ .config)
    (hvalue : place ≠ .value) (h : List.Forall₂ SameValue items items')
    (hv : (list marking items).IsTree) (hv' : (list marking items').IsTree) :
    Same place (.list marking items) (.list marking items') := by
  cases place with
  | config => exact absurd rfl hplace
  | server => exact server_same (list_fieldsAlike [] h hv hv' (fun _ => rfl) _)
  | health => exact health_same (list_fieldsAlike [] h hv hv' (fun _ => rfl) _)
  | metrics => exact metrics_same (list_fieldsAlike [] h hv hv' (fun _ => rfl) _)
  | logging => exact logging_same (list_fieldsAlike [] h hv hv' (fun _ => rfl) _)
  | dependencies =>
      have hentries : EntriesAlike (SameField .dependencies []) (.list marking items)
        (.list marking items') := .neither rfl rfl
      exact dependencies_same hentries hv hv'
  | dependency =>
      have hread : DependencyConfig.ofNode (.list marking items) =
          DependencyConfig.ofNode (.list marking items') := by
        rw [DependencyConfig.ofNode_eq hv, DependencyConfig.ofNode_eq hv']
        rfl
      exact hread
  | value => exact absurd rfl hvalue

theorem Same.refl (place : Place) (v : Node) : Same place v v := by
  cases place with
  | value => exact SameValue.refl v
  | _ => exact rfl

theorem Same.trans {w : Node} (h : Same place v v') (h' : Same place v' w) : Same place v w := by
  cases place with
  | value => exact ⟨fun levels => (h.content_eq levels).trans (h'.content_eq levels),
      fun read => (h.scalar_eq read).trans (h'.scalar_eq read), h.choice_eq.trans h'.choice_eq⟩
  | _ => exact Eq.trans h h'

/-- A mapping is read alike before and after an edit if its fields are the same. -/
theorem Edit.same_of_entriesAlike {marking : Marking} {entries' : List (Node × Node)}
    (h : Edit place (.mapping marking entries) (.mapping marking entries'))
    (hv : (mapping marking entries).IsTree)
    (hentries : EntriesAlike (SameField place entries) (.mapping marking entries)
      (.mapping marking entries')) :
    Same place (.mapping marking entries) (.mapping marking entries') := by
  by_cases hplace : place = .value
  · subst hplace
    exact h.sameValue hv
  · exact HealthWatch.same_of_entriesAlike hplace hentries hv (h.isTree hv)

/-- **Each place is read alike before and after an edit.** -/
theorem Edit.same (h : Edit place v v') (hv : v.IsTree) : Same place v v' := by
  have hreflField : ∀ (place : Place) (entries : List (Node × Node)) (name : String)
      (o : Option Node), SameField place entries name o o := fun _ _ _ => .same
  induction h with
  | @permute place marking entries entries' hperm =>
      have hnodup : (keys entries).Nodup := by
        cases hv with
        | mapping hnodup => exact hnodup
      exact (Edit.permute hperm).same_of_entriesAlike hv
        (entriesAlike_of_perm (hreflField _ _) hperm hnodup)
  | @extra place marking entries key name v hkey hnew hname htree hplain =>
      have hadded : SameField place entries name none (some v) := .extra hname hplain
      exact (Edit.extra hkey hnew hname htree hplain).same_of_entriesAlike hv
        (entriesAlike_cons (hreflField _ _) hkey hnew hadded)
  | @write place marking entries key name v hkey hnew hleftOut =>
      have hadded : SameField place entries name none (some v) := .written hleftOut
      exact (Edit.write hkey hnew hleftOut).same_of_entriesAlike hv
        (entriesAlike_cons (hreflField _ _) hkey hnew hadded)
  | @under place marking before after key v v' hedit ih =>
      have htree : v.IsTree := by
        cases hv with
        | mapping _ _ hvalues => exact hvalues (key, v) (by simp)
      have hfield : ∀ name, key.key? = some name →
          SameField place (before ++ (key, v) :: after) name (some v) (some v') := by
        intro name hname
        have hsame := ih htree
        rw [hname] at hsame
        exact .changed hsame
      refine (Edit.under hedit).same_of_entriesAlike hv
        (entriesAlike_of_forall₂ (fun _ => .same none) ?_)
      exact List.rel_append (List.forall₂_same.mpr fun e _ => ⟨rfl, fun _ _ => .same _⟩)
        (.cons ⟨rfl, hfield⟩ (List.forall₂_same.mpr fun e _ => ⟨rfl, fun _ _ => .same _⟩))
  | @inKey place marking before after key key' v hedit ih =>
      obtain ⟨hkey, hkey'⟩ := hedit.key?_eq_none
      refine (Edit.inKey hedit).same_of_entriesAlike hv
        (entriesAlike_of_forall₂ (fun _ => .same none) ?_)
      exact List.rel_append (List.forall₂_same.mpr fun e _ => ⟨rfl, fun _ _ => .same _⟩)
        (.cons ⟨hkey.trans hkey'.symm, fun _ _ => .same _⟩
          (List.forall₂_same.mpr fun e _ => ⟨rfl, fun _ _ => .same _⟩))
  | @item place marking before after v v' hnoConfig hedit ih =>
      have hwhole : Edit place (.list marking (before ++ v :: after))
        (.list marking (before ++ v' :: after)) := .item hnoConfig hedit
      by_cases hplace : place = .value
      · subst hplace
        exact hwhole.sameValue hv
      · have htree : v.IsTree := by
          cases hv with
          | list hitems => exact hitems v (by simp)
        refine same_of_items hnoConfig hplace ?_ hv (hwhole.isTree hv)
        exact List.rel_append (List.forall₂_same.mpr fun w _ => .refl w)
          (.cons (hedit.sameValue htree) (List.forall₂_same.mpr fun w _ => .refl w))

/-- Each place is read alike before and after any edits. -/
theorem same_of_edits (h : Relation.ReflTransGen (Edit place) v v') (hv : v.IsTree) :
    v'.IsTree ∧ Same place v v' := by
  induction h with
  | refl => exact ⟨hv, .refl place v⟩
  | tail _ hedit ih => exact ⟨hedit.isTree ih.1, ih.2.trans (hedit.same ih.1)⟩

end HealthWatch
