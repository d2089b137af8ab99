import HealthWatch.Proofs.DocumentTrees

/-!
# What readers of sections do not tell apart

Every section is read field by field, so two sections are read alike if each field comes to the
same (`Reads`), and the sections of a configuration are no exception.  A dependency is read in
two parts: of the fields that all dependencies have the reader sees what they come to, and of
all others the content (`contentOf`), of which its kind then takes what it needs
(`DependencyConfig.ofNode_congr`).  The dependencies themselves are read alike if under each
name stands one that is read alike (`dependenciesOfNode_congr`).
-/

namespace HealthWatch

open HealthWatch.Document HealthWatch.Document.Reading HealthWatch.Document.Node HealthWatch.Net

/-! ## Fields -/

namespace Document

variable {α : Type}

/-- What a field comes to that may be left out. -/
def given (o : Option Node) (default : α) (read : Node → Reading α) : Reading α :=
  match o with
  | some v => read v
  | none => pure default

theorem field_eq (fields : List (String × Node)) (name : String) (default : α)
    (read : Node → Reading α) :
    Node.field fields name default read = given (fields.lookup name) default read := rfl

/-- Answers that are related come to the same. -/
def Reads (R : String → Option Node → Option Node → Prop) (name : String) (default : α)
    (read : Node → Reading α) : Prop :=
  ∀ o o', R name o o' → given o default read = given o' default read

/-- A reader of all fields of a list. -/
def readAll (read : Node → Option α) (l : List (String × Node)) : Option (List (String × α)) :=
  l.mapM fun e => (read e.2).map (e.1, ·)

variable {read : Node → Option α} {l : List (String × Node)}

/-- Fields whose readings need nothing of the document are read one by one. -/
theorem mapM_named {read : Node → Reading α} {l : List (String × Node)}
    (h : ∀ e ∈ l, (read e.2).Settled) :
    l.mapM (fun e => do return (e.1, ← read e.2)) =
      (liftM (readAll (fun v => (read v).alone?) l) : Reading _) := by
  refine mapM_eq_lift fun e he => ?_
  have hnamed : ∀ o : Option α, ((liftM o : Reading α) >>= fun a => pure (e.1, a)) =
      liftM (o.map (e.1, ·)) := by
    intro o
    cases o <;> rfl
  exact (congrArg (· >>= fun a => pure (e.1, a)) (h e he)).trans (hnamed _)

theorem readAll_cons (e : String × Node) (l : List (String × Node)) :
    readAll read (e :: l) =
      (read e.2).bind fun a => (readAll read l).map ((e.1, a) :: ·) := by
  rw [readAll, List.mapM_cons]
  cases read e.2 with
  | none => rfl
  | some a => cases hl : l.mapM fun e => (read e.2).map (e.1, ·) <;> simp [readAll, hl]

/-- All fields can be read if each of them can. -/
theorem readAll_eq_none_iff : readAll read l = none ↔ ∃ e ∈ l, read e.2 = none := by
  induction l with
  | nil => simp [readAll]
  | cons e l ih =>
      rw [readAll_cons, Option.bind_eq_none_iff, List.exists_mem_cons_iff, ← ih]
      cases read e.2 <;> simp

/-- What was read of all fields has their names, and answers what was read of each. -/
theorem readAll_eq_some {m : List (String × α)} (h : readAll read l = some m) :
    m.map Prod.fst = l.map Prod.fst ∧ ∀ name, m.lookup name = (l.lookup name).bind read := by
  induction l generalizing m with
  | nil =>
      cases h
      exact ⟨rfl, fun name => rfl⟩
  | cons e l ih =>
      rw [readAll_cons] at h
      obtain ⟨a, ha, hmap⟩ := Option.bind_eq_some_iff.mp h
      obtain ⟨rest, hrest, rfl⟩ := Option.map_eq_some_iff.mp hmap
      obtain ⟨hnames, hlookup⟩ := ih hrest
      refine ⟨congrArg (e.1 :: ·) hnames, fun name => ?_⟩
      rw [lookup_cons_eq, lookup_cons_eq, hlookup]
      split
      · exact ha.symm
      · rfl

end Document

/-! ## Sections -/

variable {R : String → Option Node → Option Node → Prop} {v v' : Node}

theorem ServerConfig.ofNode_congr (h : FieldsAlike R ["listen"] v v')
    (hlisten : Reads R "listen" ({} : ServerConfig).listen fun n => do
      ((SocketAddress.ofText? (← n.text) : Option SocketAddress) : Reading SocketAddress)) :
    ServerConfig.ofNode v = ServerConfig.ofNode v' := by
  refine h.bind_congr fun l l' hl => ?_
  simp only [field_eq]
  rw [hlisten _ _ (hl "listen" (by simp))]

theorem HealthConfig.ofNode_congr
    (h : FieldsAlike R
      ["interval_secs", "probe_ceiling_secs", "retry_attempts", "retry_delay_secs"] v v')
    (hinterval : Reads R "interval_secs" ({} : HealthConfig).intervalSecs (natural (bound 64)))
    (hceiling : Reads R "probe_ceiling_secs" ({} : HealthConfig).probeCeilingSecs
      (natural (bound 64)))
    (hattempts : Reads R "retry_attempts" ({} : HealthConfig).retryAttempts
      (natural (bound 32)))
    (hdelay : Reads R "retry_delay_secs" ({} : HealthConfig).retryDelaySecs
      (natural (bound 64))) :
    HealthConfig.ofNode v = HealthConfig.ofNode v' := by
  refine h.bind_congr fun l l' hl => ?_
  simp only [field_eq]
  rw [hinterval _ _ (hl "interval_secs" (by simp)),
    hceiling _ _ (hl "probe_ceiling_secs" (by simp)),
    hattempts _ _ (hl "retry_attempts" (by simp)), hdelay _ _ (hl "retry_delay_secs" (by simp))]

theorem MetricsConfig.ofNode_congr (h : FieldsAlike R ["enabled", "port", "path"] v v')
    (henabled : Reads R "enabled" ({} : MetricsConfig).enabled flag)
    (hport : Reads R "port" ({} : MetricsConfig).port (natural (bound 16)))
    (hpath : Reads R "path" ({} : MetricsConfig).path text) :
    MetricsConfig.ofNode v = MetricsConfig.ofNode v' := by
  refine h.bind_congr fun l l' hl => ?_
  simp only [field_eq]
  rw [henabled _ _ (hl "enabled" (by simp)), hport _ _ (hl "port" (by simp)),
    hpath _ _ (hl "path" (by simp))]

theorem LoggingConfig.ofNode_congr (h : FieldsAlike R ["format", "directive"] v v')
    (hformat : Reads R "format" ({} : LoggingConfig).format fun n => do
      ((LogFormat.ofName? (← n.choice) : Option LogFormat) : Reading LogFormat))
    (hdirective : Reads R "directive" ({} : LoggingConfig).directive text) :
    LoggingConfig.ofNode v = LoggingConfig.ofNode v' := by
  refine h.bind_congr fun l l' hl => ?_
  simp only [field_eq]
  rw [hformat _ _ (hl "format" (by simp)), hdirective _ _ (hl "directive" (by simp))]

theorem Config.ofNode_congr
    (h : FieldsAlike R ["server", "health", "metrics", "logging", "dependencies"] v v')
    (hserver : Reads R "server" ({} : Config).server ServerConfig.ofNode)
    (hhealth : Reads R "health" ({} : Config).health HealthConfig.ofNode)
    (hmetrics : Reads R "metrics" ({} : Config).metrics MetricsConfig.ofNode)
    (hlogging : Reads R "logging" ({} : Config).logging LoggingConfig.ofNode)
    (hdependencies : Reads R "dependencies" ({} : Config).dependencies dependenciesOfNode) :
    Config.ofNode v = Config.ofNode v' := by
  refine h.bind_congr fun l l' hl => ?_
  simp only [field_eq]
  rw [hserver _ _ (hl "server" (by simp)), hhealth _ _ (hl "health" (by simp)),
    hmetrics _ _ (hl "metrics" (by simp)), hlogging _ _ (hl "logging" (by simp)),
    hdependencies _ _ (hl "dependencies" (by simp))]

/-! ## A dependency -/

/-- What the fields of a kind may leave out, as it would be written. -/
def KindName.default? : KindName → String → Option Value
  | .redis, "password" | .redis, "db" => some .null
  | .http, "detailed" => some (.flag false)
  | _, _ => none

theorem namedOnce_of_nodup {α : Type} {l : List (String × α)} (h : (l.map Prod.fst).Nodup)
    (wanted : List String) : namedOnce wanted l = true :=
  decide_eq_true (h.filter _)

/-- The second answer to a name is the first one, or writes down what the first one leaves
out. -/
def SameOrWritten (kind : KindName) (name : String) (o o' : Option Content) : Prop :=
  o = o' ∨ o = none ∧ ∃ value, kind.default? name = some value ∧ o' = some (.value value)

variable {own own' : List (String × Content)}

theorem required?_congr {α : Type} {kind : KindName} {name : String}
    (h : SameOrWritten kind name (own.lookup name) (own'.lookup name))
    (hdefault : kind.default? name = none) (read : Value → Option α) :
    required? own name read = required? own' name read := by
  rcases h with h | ⟨_, value, hvalue, _⟩
  · rw [required?, required?, h]
  · rw [hdefault] at hvalue
    cases hvalue

theorem optional?_congr {α : Type} {kind : KindName} {name : String}
    (h : SameOrWritten kind name (own.lookup name) (own'.lookup name)) {default : α}
    {read : Value → Option α}
    (hdefault : ∀ value, kind.default? name = some value → read value = some default) :
    optional? own name default read = optional? own' name default read := by
  rcases h with h | ⟨hnone, value, hvalue, hsome⟩
  · rw [optional?, optional?, h]
  · rw [optional?, optional?, hnone, hsome]
    exact (hdefault value hvalue).symm

/-- What a kind needs is the same if the contents of its fields are, up to what they may leave
out. -/
theorem DependencyKind.ofFields?_congr {kind : KindName}
    (h : ∀ name ∈ kind.fieldNames, SameOrWritten kind name (own.lookup name) (own'.lookup name)) :
    DependencyKind.ofFields? own kind = DependencyKind.ofFields? own' kind := by
  cases kind with
  | tcp =>
      simp only [ofFields?]
      rw [required?_congr (h "address" (by simp [KindName.fieldNames])) rfl]
  | postgres =>
      simp only [ofFields?]
      rw [required?_congr (h "url" (by simp [KindName.fieldNames])) rfl]
  | mongo =>
      simp only [ofFields?]
      rw [required?_congr (h "uri" (by simp [KindName.fieldNames])) rfl]
  | redis =>
      have hpassword : ∀ value, KindName.redis.default? "password" = some value →
          optionalTextOf? value = some none := by
        intro value hvalue
        cases hvalue
        rfl
      have hdb : ∀ value, KindName.redis.default? "db" = some value →
          optionalCountOf? value = some none := by
        intro value hvalue
        cases hvalue
        rfl
      simp only [ofFields?]
      rw [required?_congr (h "address" (by simp [KindName.fieldNames])) rfl,
        optional?_congr (h "password" (by simp [KindName.fieldNames])) hpassword,
        optional?_congr (h "db" (by simp [KindName.fieldNames])) hdb]
  | http =>
      have hdetailed : ∀ value, KindName.http.default? "detailed" = some value →
          flagOf? value = some false := by
        intro value hvalue
        cases hvalue
        rfl
      simp only [ofFields?]
      rw [required?_congr (h "url" (by simp [KindName.fieldNames])) rfl,
        optional?_congr (h "detailed" (by simp [KindName.fieldNames])) hdetailed]

/-- The kind that is read of contents. -/
def kindOf? (o : Option Content) : Option KindName :=
  match o with
  | some (.value value) => KindName.ofValue? value
  | _ => none

theorem DependencyKind.ofContents?_congr (hown : (own.map Prod.fst).Nodup)
    (hown' : (own'.map Prod.fst).Nodup) (hkind : own.lookup "kind" = own'.lookup "kind")
    (hfields : ∀ kind, kindOf? (own.lookup "kind") = some kind → ∀ name ∈ kind.fieldNames,
      SameOrWritten kind name (own.lookup name) (own'.lookup name)) :
    DependencyKind.ofContents? own = DependencyKind.ofContents? own' := by
  have hrequired : ∀ own : List (String × Content),
      required? own "kind" KindName.ofValue? = kindOf? (own.lookup "kind") := by
    intro own
    unfold required? kindOf?
    rcases own.lookup "kind" with _ | _ | _ <;> rfl
  rw [ofContents?, ofContents?, hrequired, hrequired, ← hkind]
  cases hname : kindOf? (own.lookup "kind") with
  | none => rfl
  | some kind =>
      have hneeds := ofFields?_congr (hfields kind hname)
      simp only [namedOnce_of_nodup hown, namedOnce_of_nodup hown', Option.bind_eq_bind,
        Option.bind_some, hneeds]

/-- What there is to the field of a name. -/
def contentOf (levels : Nat) (l : List (String × Node)) (name : String) : Option Content :=
  (l.lookup name).bind fun v => (content levels v).alone?

/-- The fields that not all dependencies have. -/
def ownFields (l : List (String × Node)) : List (String × Node) :=
  l.filter fun e => !commonFieldNames.contains e.1

/-- Reads a dependency of its entries. -/
def DependencyConfig.ofEntries (levels : Nat) (l : List (String × Node)) :
    Reading DependencyConfig := do
  let own ← ((readAll (fun v => (content levels v).alone?) (ownFields l) : Option _) : Reading _)
  let connect ← ConnectConfig.ofFields (l.filter fun e => commonFieldNames.contains e.1)
  let kind ← ((DependencyKind.ofContents? own : Option _) : Reading DependencyKind)
  return { connect with kind }

/-- A dependency that is a tree is read of its entries. -/
theorem DependencyConfig.ofNode_eq (hv : v.IsTree) :
    DependencyConfig.ofNode v =
      (liftM v.entries? : Reading _) >>= DependencyConfig.ofEntries (valueDepth v) := by
  have hnode : DependencyConfig.ofNode v = (v.entries >>= fun l => do
      guard (namedOnce commonFieldNames (l.partition fun e => commonFieldNames.contains e.1).1)
      let own ← (l.partition fun e => commonFieldNames.contains e.1).2.mapM fun e => do
        return (e.1, ← e.2.content (valueDepth v))
      let connect ← ConnectConfig.ofFields
        (l.partition fun e => commonFieldNames.contains e.1).1
      let kind ← ((DependencyKind.ofContents? own : Option _) : Reading DependencyKind)
      return { connect with kind }) := by
    rw [DependencyConfig.ofNode, hv.follow_eq, pure_bind]
  rw [hnode, hv.entries_eq]
  cases hl : v.entries? with
  | none => rfl
  | some l =>
      have hcommon : ((l.filter fun e => commonFieldNames.contains e.1).map Prod.fst).Nodup :=
        (hv.names_nodup hl).sublist (List.filter_sublist.map Prod.fst)
      have hown : (ownFields l).mapM (fun e => do return (e.1, ← e.2.content (valueDepth v))) =
          (liftM (readAll (fun v' => (content (valueDepth v) v').alone?) (ownFields l)) :
            Reading _) := by
        refine mapM_named fun e he => ?_
        have htree : e.2.IsTree := hv.of_mem hl (List.mem_filter.mp he).1
        exact htree.content_settled (valueDepth v)
      have hpartition : l.partition (fun e => commonFieldNames.contains e.1) =
          (l.filter fun e => commonFieldNames.contains e.1, ownFields l) :=
        List.partition_eq_filter_filter ..
      rw [lift_some_bind, lift_some_bind]
      rw [hpartition]
      dsimp only
      rw [namedOnce_of_nodup hcommon, guard_bind, if_pos rfl, hown]
      rfl

theorem Document.given_settled {α : Type} {o : Option Node} {default : α}
    {read : Node → Reading α} (h : ∀ v, o = some v → (read v).Settled) :
    (given o default read).Settled := by
  cases o with
  | none => exact .pure default
  | some v => exact h v rfl

/-- Reading common fields that are trees needs nothing of the document. -/
theorem ConnectConfig.ofFields_settled {fields : List (String × Node)}
    (h : ∀ name v, fields.lookup name = some v → v.IsTree) :
    (ConnectConfig.ofFields fields).Settled := by
  have hscalar : ∀ {α : Type} (read : Scalar → Option α) (default : α) (name : String),
      (Node.field fields name default (ofScalar read)).Settled := by
    intro α read default name
    refine given_settled fun v hv => ?_
    rw [(h name v hv).ofScalar_eq]
    exact .lift _
  refine (hscalar _ _ _).bind fun enabled => (hscalar _ _ _).bind fun retries => ?_
  exact (hscalar _ _ _).bind fun delay => .pure _

/-- A dependency that is a tree needs nothing of the document. -/
theorem DependencyConfig.ofNode_settled (hv : v.IsTree) :
    (DependencyConfig.ofNode v).Settled := by
  rw [DependencyConfig.ofNode_eq hv]
  cases hl : v.entries? with
  | none => exact .failure
  | some l =>
      have hlookup : ∀ name v',
          (l.filter fun e => commonFieldNames.contains e.1).lookup name = some v' →
            v'.IsTree := by
        intro name v' hsome
        rw [lookup_eq_answer] at hsome
        exact hv.of_mem hl (List.mem_filter.mp (NameMap.mem_of_answer hsome)).1
      have hentries : (DependencyConfig.ofEntries (valueDepth v) l).Settled :=
        (Settled.lift _).bind fun own => (ConnectConfig.ofFields_settled hlookup).bind
          fun connect => (Settled.lift _).bind fun kind => .pure _
      exact hentries

/-- What is not common is asked of the own fields. -/
theorem contentOf_ownFields {levels : Nat} {l : List (String × Node)}
    {own : List (String × Content)}
    (h : readAll (fun v => (content levels v).alone?) (ownFields l) = some own) {name : String}
    (hname : commonFieldNames.contains name = false) :
    own.lookup name = contentOf levels l name := by
  have hkeep : (!commonFieldNames.contains name) = true := by rw [hname]; rfl
  rw [(readAll_eq_some h).2, contentOf, ownFields,
    lookup_filter (fun name => !commonFieldNames.contains name) hkeep]

/-- Whether all own fields can be read is seen of each of them. -/
theorem readAll_ownFields_eq_none_iff {levels : Nat} {l : List (String × Node)} :
    readAll (fun v => (content levels v).alone?) (ownFields l) = none ↔
      ∃ e ∈ ownFields l, ¬Readable levels e.2 := by
  simp only [readAll_eq_none_iff, Readable, Option.not_isSome_iff_eq_none]

/-- Kinds are read alike if the own fields of dependencies say the same of them and of what they
need. -/
theorem ofContents?_ownFields_congr {levels levels' : Nat} {l l' : List (String × Node)}
    (hl : (l.map Prod.fst).Nodup) (hl' : (l'.map Prod.fst).Nodup)
    {own own' : List (String × Content)}
    (hown : readAll (fun v => (content levels v).alone?) (ownFields l) = some own)
    (hown' : readAll (fun v => (content levels' v).alone?) (ownFields l') = some own')
    (hkind : contentOf levels l "kind" = contentOf levels' l' "kind")
    (hfields : ∀ kind, kindOf? (contentOf levels l "kind") = some kind →
      ∀ name ∈ kind.fieldNames,
        SameOrWritten kind name (contentOf levels l name) (contentOf levels' l' name)) :
    DependencyKind.ofContents? own = DependencyKind.ofContents? own' := by
  have hnotCommon : ∀ kind : KindName, ∀ name ∈ kind.fieldNames,
      commonFieldNames.contains name = false := by
    intro kind
    cases kind <;> decide
  have hnames : (own.map Prod.fst).Nodup := by
    rw [(readAll_eq_some hown).1]
    exact hl.sublist (List.filter_sublist.map Prod.fst)
  have hnames' : (own'.map Prod.fst).Nodup := by
    rw [(readAll_eq_some hown').1]
    exact hl'.sublist (List.filter_sublist.map Prod.fst)
  refine DependencyKind.ofContents?_congr hnames hnames' ?_ fun kind hk name hname => ?_
  · rw [contentOf_ownFields hown (by decide), contentOf_ownFields hown' (by decide), hkind]
  · rw [contentOf_ownFields hown (by decide)] at hk
    rw [contentOf_ownFields hown (hnotCommon kind name hname),
      contentOf_ownFields hown' (hnotCommon kind name hname)]
    exact hfields kind hk name hname

section

variable {l l' : List (String × Node)}
  (henabled : given (l.lookup "enabled") ({} : ConnectConfig).enabled flag =
    given (l'.lookup "enabled") ({} : ConnectConfig).enabled flag)
  (hretries : given (l.lookup "connect_retries") ({} : ConnectConfig).connectRetries
      (natural (bound 32)) =
    given (l'.lookup "connect_retries") ({} : ConnectConfig).connectRetries
      (natural (bound 32)))
  (hdelay : given (l.lookup "connect_retry_delay_secs")
      ({} : ConnectConfig).connectRetryDelaySecs (natural (bound 64)) =
    given (l'.lookup "connect_retry_delay_secs")
      ({} : ConnectConfig).connectRetryDelaySecs (natural (bound 64)))
include henabled hretries hdelay

/-- The common fields are read alike if each of them comes to the same. -/
theorem ConnectConfig.ofFields_congr :
    ConnectConfig.ofFields (l.filter fun e => commonFieldNames.contains e.1) =
      ConnectConfig.ofFields (l'.filter fun e => commonFieldNames.contains e.1) := by
  have hcommon : ∀ name ∈ commonFieldNames, commonFieldNames.contains name = true :=
    fun name hname => List.contains_iff_mem.mpr hname
  have hlookup : ∀ name ∈ commonFieldNames, ∀ l : List (String × Node),
      (l.filter fun e => commonFieldNames.contains e.1).lookup name = l.lookup name :=
    fun name hname => lookup_filter _ (hcommon name hname)
  simp only [ConnectConfig.ofFields, field_eq]
  rw [hlookup "enabled" (by decide), hlookup "enabled" (by decide), henabled,
    hlookup "connect_retries" (by decide), hlookup "connect_retries" (by decide), hretries,
    hlookup "connect_retry_delay_secs" (by decide),
    hlookup "connect_retry_delay_secs" (by decide), hdelay]

/-- Dependencies are read alike if what their common fields come to, the contents of their
kinds and what these need are the same, and if nothing else is unreadable in one only. -/
theorem DependencyConfig.ofNode_congr (hv : v.IsTree) (hv' : v'.IsTree)
    (hl : v.entries? = some l) (hl' : v'.entries? = some l')
    (hreadable : (∃ e ∈ ownFields l, ¬Readable (valueDepth v) e.2) ↔
      ∃ e ∈ ownFields l', ¬Readable (valueDepth v') e.2)
    (hkind : contentOf (valueDepth v) l "kind" = contentOf (valueDepth v') l' "kind")
    (hfields : ∀ kind, kindOf? (contentOf (valueDepth v) l "kind") = some kind →
      ∀ name ∈ kind.fieldNames, SameOrWritten kind name (contentOf (valueDepth v) l name)
        (contentOf (valueDepth v') l' name)) :
    DependencyConfig.ofNode v = DependencyConfig.ofNode v' := by
  have hconnect := ConnectConfig.ofFields_congr henabled hretries hdelay
  rw [DependencyConfig.ofNode_eq hv, DependencyConfig.ofNode_eq hv', hl, hl']
  rw [lift_some_bind, lift_some_bind, DependencyConfig.ofEntries, DependencyConfig.ofEntries]
  cases hown : readAll (fun v' => (content (valueDepth v) v').alone?) (ownFields l) with
  | none =>
      have hnone := readAll_ownFields_eq_none_iff.mpr
        (hreadable.mp (readAll_ownFields_eq_none_iff.mp hown))
      rw [hnone]
      rfl
  | some own =>
      cases hown' : readAll (fun v => (content (valueDepth v') v).alone?) (ownFields l') with
      | none =>
          have hnone := readAll_ownFields_eq_none_iff.mpr
            (hreadable.mpr (readAll_ownFields_eq_none_iff.mp hown'))
          rw [hown] at hnone
          cases hnone
      | some own' =>
          have hkinds := ofContents?_ownFields_congr (hv.names_nodup hl) (hv'.names_nodup hl')
            hown hown' hkind hfields
          rw [lift_some_bind, lift_some_bind, hconnect, hkinds]

end

/-! ## The dependencies -/

/-- Whether all entries with distinct names can be read is seen of their answers. -/
theorem Document.readAll_eq_none_iff_lookup {α : Type} {read : Node → Option α}
    {l : List (String × Node)} (hl : (l.map Prod.fst).Nodup) :
    readAll read l = none ↔ ∃ name, (l.lookup name).map read = some none := by
  rw [readAll_eq_none_iff]
  constructor
  · rintro ⟨e, he, hnone⟩
    exact ⟨e.1, by rw [(lookup_eq_some_iff hl).mpr he, Option.map_some, hnone]⟩
  · rintro ⟨name, hname⟩
    obtain ⟨v, hv, hnone⟩ := Option.map_eq_some_iff.mp hname
    exact ⟨(name, v), (lookup_eq_some_iff hl).mp hv, hnone⟩

/-- The dependencies of a tree are read one by one. -/
theorem dependenciesOfNode_eq (hv : v.IsTree) {l : List (String × Node)}
    (hl : v.entries? = some l) :
    dependenciesOfNode v =
      liftM ((readAll (fun w => (DependencyConfig.ofNode w).alone?) l).map NameMap.ofList) := by
  have hnode : dependenciesOfNode v = (v.entries >>= fun l => do
      let dependencies ← l.mapM fun e => do return (e.1, ← DependencyConfig.ofNode e.2)
      return .ofList dependencies) := rfl
  have hread : l.mapM (fun e => do return (e.1, ← DependencyConfig.ofNode e.2)) =
      (liftM (readAll (fun w => (DependencyConfig.ofNode w).alone?) l) : Reading _) :=
    mapM_named fun e he => DependencyConfig.ofNode_settled (hv.of_mem hl he)
  rw [hnode, hv.entries_eq, hl, lift_some_bind, hread]
  cases readAll (fun w => (DependencyConfig.ofNode w).alone?) l <;> rfl

/-- Dependencies are read alike if those under the same names are. -/
theorem dependenciesOfNode_congr (h : EntriesAlike R v v') (hv : v.IsTree) (hv' : v'.IsTree)
    (hR : ∀ name o o', R name o o' →
      o.map DependencyConfig.ofNode = o'.map DependencyConfig.ofNode) :
    dependenciesOfNode v = dependenciesOfNode v' := by
  cases h with
  | neither h h' =>
      have hnone : ∀ v : Node, v.IsTree → v.entries? = none → dependenciesOfNode v = failure := by
        intro v hv hl
        rw [dependenciesOfNode, hv.entries_eq, hl]
        rfl
      rw [hnone v hv h, hnone v' hv' h']
  | @both l l' hl hl' hanswers =>
      have hnames := hv.names_nodup hl
      have hnames' := hv'.names_nodup hl'
      rw [dependenciesOfNode_eq hv hl, dependenciesOfNode_eq hv' hl']
      generalize hread : (fun w => (DependencyConfig.ofNode w).alone?) = read
      have halike : ∀ name, (l.lookup name).map read = (l'.lookup name).map read := by
        intro name
        have hread' : read = alone? ∘ DependencyConfig.ofNode := hread.symm
        rw [hread', ← Option.map_map, ← Option.map_map, hR name _ _ (hanswers name)]
      congr 1
      cases hm : readAll read l with
      | none =>
          obtain ⟨name, hname⟩ := (readAll_eq_none_iff_lookup hnames).mp hm
          rw [halike name] at hname
          rw [(readAll_eq_none_iff_lookup hnames').mpr ⟨name, hname⟩]
      | some m =>
          cases hm' : readAll read l' with
          | none =>
              obtain ⟨name, hname⟩ := (readAll_eq_none_iff_lookup hnames').mp hm'
              rw [← halike name] at hname
              rw [(readAll_eq_none_iff_lookup hnames).mpr ⟨name, hname⟩] at hm
              cases hm
          | some m' =>
              obtain ⟨hmnames, hlookup⟩ := readAll_eq_some hm
              obtain ⟨hmnames', hlookup'⟩ := readAll_eq_some hm'
              have hdistinct : m.Pairwise fun a b => a.1 ≠ b.1 :=
                List.pairwise_map.mp (hmnames ▸ hnames)
              have hdistinct' : m'.Pairwise fun a b => a.1 ≠ b.1 :=
                List.pairwise_map.mp (hmnames' ▸ hnames')
              have hjoin : ∀ o : Option Node, o.bind read = (o.map read).join := by
                intro o
                cases o <;> rfl
              refine congrArg some (NameMap.ext_get? fun name => ?_)
              rw [NameMap.get?_ofList hdistinct, NameMap.get?_ofList hdistinct',
                ← lookup_eq_answer, ← lookup_eq_answer, hlookup, hlookup',
                hjoin, hjoin, halike name]

/-! ## The whole configuration -/

/-- What is read of the fields of a tree is settled if it is settled of fields that are trees. -/
theorem Document.Node.IsTree.section_settled {α : Type} {f : List (String × Node) → Reading α}
    (hv : v.IsTree) (names : List String)
    (hf : ∀ l, (∀ name w, l.lookup name = some w → w.IsTree) → (f l).Settled) :
    (v.fields names >>= f).Settled := by
  have hlookup : ∀ l : List (String × Node), (∀ e ∈ l, e.2.IsTree) →
      ∀ name w, l.lookup name = some w → w.IsTree := by
    intro l hl name w hw
    rw [lookup_eq_answer] at hw
    exact hl _ (NameMap.mem_of_answer hw)
  by_cases hlist : v.NoList
  · rw [hv.fields_eq hlist]
    cases hl : v.entries? with
    | none => exact .failure
    | some l =>
        refine hf _ (hlookup _ fun e he => ?_)
        exact hv.of_mem hl (List.mem_filter.mp he).1
  · obtain ⟨items, hitems⟩ := not_forall_not.mp hlist
    subst hitems
    have hfields : (Node.list .positional items).fields names =
        if items.length ≤ names.length then pure (names.zip items) else failure := rfl
    rw [hfields]
    split
    · refine hf _ (hlookup _ fun e he => ?_)
      cases hv with
      | list htrees => exact htrees _ (List.of_mem_zip he).2
    · exact .failure

theorem Document.Node.IsTree.ofScalar_settled {α : Type} (hv : v.IsTree)
    (read : Scalar → Option α) : (ofScalar read v).Settled := by
  rw [hv.ofScalar_eq]
  exact .lift _

theorem Document.Node.IsTree.choice_settled (hv : v.IsTree) : v.choice.Settled := by
  unfold choice
  split
  · split
    · exact .lift _
    · exact .failure
  · exact hv.ofScalar_settled _

theorem dependenciesOfNode_settled (hv : v.IsTree) : (dependenciesOfNode v).Settled := by
  cases hl : v.entries? with
  | none =>
      have hnone : dependenciesOfNode v = failure := by
        rw [dependenciesOfNode, hv.entries_eq, hl]
        rfl
      rw [hnone]
      exact .failure
  | some l =>
      rw [dependenciesOfNode_eq hv hl]
      exact .lift _

/-- A configuration that is a tree needs nothing of the document. -/
theorem Config.ofNode_settled (hv : v.IsTree) : (Config.ofNode v).Settled := by
  have hserver : ∀ w : Node, w.IsTree → (ServerConfig.ofNode w).Settled := fun w hw =>
    hw.section_settled _ fun l hl =>
      (given_settled fun u hu => ((hl _ u hu).ofScalar_settled _).bind fun t => .lift _).bind
        fun listen => .pure _
  have hhealth : ∀ w : Node, w.IsTree → (HealthConfig.ofNode w).Settled := by
    intro w hw
    refine hw.section_settled _ fun l hl => ?_
    have hcount : ∀ (name : String) (default limit : Nat),
        (Node.field l name default (natural limit)).Settled := fun name default limit =>
      given_settled fun u hu => (hl _ u hu).ofScalar_settled _
    exact (hcount _ _ _).bind fun interval => (hcount _ _ _).bind fun ceiling =>
      (hcount _ _ _).bind fun attempts => (hcount _ _ _).bind fun delay => .pure _
  have hmetrics : ∀ w : Node, w.IsTree → (MetricsConfig.ofNode w).Settled := by
    intro w hw
    refine hw.section_settled _ fun l hl => ?_
    have hleaf : ∀ {α : Type} (read : Scalar → Option α) (name : String) (default : α),
        (Node.field l name default (ofScalar read)).Settled := fun read name default =>
      given_settled fun u hu => (hl _ u hu).ofScalar_settled _
    exact (hleaf _ _ _).bind fun enabled => (hleaf _ _ _).bind fun port =>
      (hleaf _ _ _).bind fun path => .pure _
  have hlogging : ∀ w : Node, w.IsTree → (LoggingConfig.ofNode w).Settled := fun w hw =>
    hw.section_settled _ fun l hl =>
      (given_settled fun u hu => (hl _ u hu).choice_settled.bind fun t => .lift _).bind
        fun format => (given_settled fun u hu => (hl _ u hu).ofScalar_settled _).bind
          fun directive => .pure _
  refine hv.section_settled _ fun l hl => ?_
  exact (given_settled fun u hu => hserver u (hl _ u hu)).bind fun server =>
    (given_settled fun u hu => hhealth u (hl _ u hu)).bind fun health =>
      (given_settled fun u hu => hmetrics u (hl _ u hu)).bind fun metrics =>
        (given_settled fun u hu => hlogging u (hl _ u hu)).bind fun logging =>
          (given_settled fun u hu => dependenciesOfNode_settled (hl _ u hu)).bind
            fun dependencies => .pure _

/-- What a settled reader gets of a document is what it gets of its root. -/
theorem Document.Reading.Settled.ofDocument?_eq {α : Type} {read : Node → Reading α}
    {d : Document} (h : (read d.root).Settled) : ofDocument? read d = (read d.root).alone? := by
  rw [ofDocument?, h, alone?_lift]
  cases (read d.root).alone? <;> rfl

/-- Documents whose roots are read alike hold the same configuration. -/
theorem Config.ofDocument?_congr {d d' : Document} (hd : d.root.IsTree) (hd' : d'.root.IsTree)
    (h : Config.ofNode d.root = Config.ofNode d'.root) :
    Config.ofDocument? d = Config.ofDocument? d' := by
  rw [Config.ofDocument?, Config.ofDocument?, (Config.ofNode_settled hd).ofDocument?_eq,
    (Config.ofNode_settled hd').ofDocument?_eq, h]

end HealthWatch
