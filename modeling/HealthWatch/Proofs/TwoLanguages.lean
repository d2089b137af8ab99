import HealthWatch.Config.Loading
import HealthWatch.Proofs.EditedSections
import HealthWatch.Proofs.SpelledScalars

/-!
# One tree in two languages

`Twins` are the same tree of texts, whole numbers and flags in JSON and in YAML.  They are read
alike (`Twins.config_eq`), but for two differences of the languages that `Twins` leaves out: a
number or a flag is taken as a text in YAML where nothing but a text is asked for, and a list
may give the fields of a section in JSON (`languages_differ`).

So how a configuration is presented makes no difference (`Config.parse_presentation`), neither
within one language nor from one to the other.
-/

namespace HealthWatch

open HealthWatch.Document HealthWatch.Document.Node HealthWatch.Document.Reading

/-! ## Twins -/

/-- The fields that are texts however they are spelled, in one of the languages. -/
def Place.textNames : Place → List String
  | .metrics => ["path"]
  | .logging => ["directive"]
  | _ => []

/-- Whether the fields at a place may be given by a list, in one of the languages. -/
def Place.isListed : Place → Bool
  | .config | .server | .health | .metrics | .logging => true
  | .dependencies | .dependency | .value => false

/-- The same text as a key, in JSON and in YAML. -/
def TwinKeys (key key' : Node) : Prop :=
  ∃ name style, key = .scalar (Json.scalarOfValue (.text name)) ∧
    key' = .scalar (Yaml.scalarOf none style name) ∧
    Yaml.scalarValue? none style name = some (.text name)

/-- The same tree of texts, whole numbers and flags at a place, in JSON and in YAML.  There is
no list where one would give fields, what is always a text is one, and what a dependency has is not
nested deeper than both languages allow. -/
inductive Twins : Place → Node → Node → Prop
  | scalar {place : Place} {style : Yaml.ScalarStyle} {text : String} {value : Value}
      (hplain : value.IsPlain) (hvalue : Yaml.scalarValue? none style text = some value) :
      Twins place (.scalar (Json.scalarOfValue value)) (.scalar (Yaml.scalarOf none style text))
  | list {place : Place} {items items' : List Node} (hplace : place.isListed = false)
      (hlength : items.length = items'.length)
      (hitems : ∀ p ∈ items.zip items', Twins .value p.1 p.2) :
      Twins place (.list .positional items) (.list .keyed items')
  | mapping {place : Place} {entries entries' : List (Node × Node)}
      (hlength : entries.length = entries'.length)
      (hkeys : ∀ p ∈ entries.zip entries', TwinKeys p.1.1 p.2.1)
      (hvalues : ∀ p ∈ entries.zip entries', Twins (place.child p.1.1.key?) p.1.2 p.2.2)
      (htexts : ∀ e ∈ entries, ∀ name ∈ place.textNames, e.1.key? = some name →
        ∀ s, e.2 = .scalar s → ∃ t, s.value? = some (.text t))
      (hdepth : place = .dependency → ∀ e ∈ entries, Plain 124 e.2) :
      Twins place (.mapping .positional entries) (.mapping .keyed entries')

variable {place : Place} {v v' : Node}

theorem TwinKeys.key?_eq {key key' : Node} (h : TwinKeys key key') : key.key? = key'.key? := by
  obtain ⟨name, style, rfl, rfl, _⟩ := h
  rfl

/-- Of two lists of one length, each element of the second has one beside it. -/
theorem exists_mem_zip {α β : Type} {l : List α} {m : List β} (hlength : l.length = m.length)
    {b : β} (hb : b ∈ m) : ∃ a, (a, b) ∈ l.zip m := by
  rw [← List.map_snd_zip (Nat.le_of_eq hlength.symm)] at hb
  obtain ⟨⟨a, c⟩, hmem, rfl⟩ := List.mem_map.mp hb
  exact ⟨a, hmem⟩

theorem keys_eq_of_zip {entries entries' : List (Node × Node)}
    (hlength : entries.length = entries'.length)
    (h : ∀ p ∈ entries.zip entries', p.1.1.key? = p.2.1.key?) : keys entries = keys entries' := by
  induction entries generalizing entries' with
  | nil => rw [List.length_eq_zero_iff.mp hlength.symm]
  | cons e entries ih =>
      cases entries' with
      | nil => cases hlength
      | cons e' entries' =>
          rw [List.zip_cons_cons, List.forall_mem_cons] at h
          have hrest := ih (Nat.succ.inj hlength) h.2
          simp only [keys, List.filterMap_cons, h.1]
          simp only [keys] at hrest
          rw [hrest]

namespace Twins

/-- A twin of a tree is a tree. -/
theorem isTree (h : Twins place v v') (hv : v.IsTree) : v'.IsTree := by
  induction h with
  | scalar => exact .scalar _
  | list hplace hlength hitems ih =>
      cases hv with
      | list htrees =>
          refine .list fun item' hitem' => ?_
          obtain ⟨item, hmem⟩ := exists_mem_zip hlength hitem'
          exact ih _ hmem (htrees _ (List.of_mem_zip hmem).1)
  | mapping hlength hkeys hvalues htexts hdepth ih =>
      cases hv with
      | mapping hnodup htreeKeys htrees =>
          refine .mapping ?_ ?_ ?_
          · rwa [← keys_eq_of_zip hlength fun p hp => (hkeys p hp).key?_eq]
          · intro e' he'
            obtain ⟨e, hmem⟩ := exists_mem_zip hlength he'
            obtain ⟨name, style, _, hkey', _⟩ := hkeys _ hmem
            rw [hkey']
            exact .scalar _
          · intro e' he'
            obtain ⟨e, hmem⟩ := exists_mem_zip hlength he'
            exact ih _ hmem (htrees _ (List.of_mem_zip hmem).1)

/-- A twin of what is plain is plain. -/
theorem plain {depth : Nat} (h : Twins place v v') (hv : Plain depth v) : Plain depth v' := by
  induction h generalizing depth with
  | scalar hplain hvalue => exact .scalar hvalue
  | list hplace hlength hitems ih =>
      cases hv with
      | list hmarking hplain =>
          refine .list nofun fun item' hitem' => ?_
          obtain ⟨item, hmem⟩ := exists_mem_zip hlength hitem'
          exact ih _ hmem (hplain _ (List.of_mem_zip hmem).1)
  | mapping hlength hkeys hvalues htexts hdepth ih =>
      cases hv with
      | mapping hmarking hplainKeys hplain =>
          refine .mapping nofun ?_ ?_
          · intro e' he'
            obtain ⟨e, hmem⟩ := exists_mem_zip hlength he'
            obtain ⟨name, style, _, hkey', hvalue⟩ := hkeys _ hmem
            rw [hkey']
            exact .scalar hvalue
          · intro e' he'
            obtain ⟨e, hmem⟩ := exists_mem_zip hlength he'
            exact ih _ hmem (hplain _ (List.of_mem_zip hmem).1)

/-! ## Values of twins -/

theorem shape?_eq (h : Twins place v v') : v.shape? = v'.shape? := by
  cases h with
  | scalar hplain hvalue =>
      rw [shape?, shape?, (Json.presents _).value_eq, (Yaml.presents hvalue).value_eq]
  | list => rfl
  | mapping => rfl

theorem natural_eq (h : Twins place v v') (limit : Nat) : natural limit v = natural limit v' := by
  cases h with
  | @scalar _ style text value hplain hvalue =>
      have hread : ∀ s : Scalar, natural limit (.scalar s) =
          liftM (s.natural?.filter (· < limit)) := fun _ => rfl
      rw [hread, hread, (Json.presents _).natural_eq, (Yaml.presents hvalue).natural_eq]
  | list => rfl
  | mapping => rfl

theorem flag_eq (h : Twins place v v') : flag v = flag v' := by
  cases h with
  | @scalar _ style text value hplain hvalue =>
      have hread : ∀ s : Scalar, flag (.scalar s) = liftM s.flag? := fun _ => rfl
      rw [hread, hread, (Json.presents _).flag_eq, (Yaml.presents hvalue).flag_eq]
  | list => rfl
  | mapping => rfl

/-- A scalar that is a text, if it is one, is the same text. -/
theorem text_eq (h : Twins place v v')
    (htext : ∀ s, v = .scalar s → ∃ t, s.value? = some (.text t)) : text v = text v' := by
  cases h with
  | scalar hplain hvalue =>
      have hread : ∀ s : Scalar, Node.text (.scalar s) = liftM s.text? := fun _ => rfl
      obtain ⟨t, ht⟩ := htext _ rfl
      cases ht
      rw [hread, hread, ((Json.presents _).text_eq t rfl).1,
        ((Yaml.presents hvalue).text_eq t rfl).1]
  | list => rfl
  | mapping => rfl

/-- What is read of a text is the same, and what is no text is refused in JSON, and in YAML if
its spelling is. -/
theorem spelled_eq {α : Type} {style : Yaml.ScalarStyle} {text : String} {value : Value}
    (hvalue : Yaml.scalarValue? none style text = some value) {read : String → Option α}
    (hunfit : (∀ t, value ≠ .text t) → read text = none) (get : Scalar → Option String)
    (hjson : get (Json.scalarOfValue value) = (Json.scalarOfValue value).text?)
    (hyaml : get (Yaml.scalarOf none style text) = some text) :
    (ofScalar get (.scalar (Json.scalarOfValue value)) >>= fun t => (liftM (read t) : Reading α)) =
      ofScalar get (.scalar (Yaml.scalarOf none style text)) >>= fun t => liftM (read t) := by
  have hget : ∀ s : Scalar, ofScalar get (.scalar s) = liftM (get s) := fun _ => rfl
  rw [hget, hget, hjson, hyaml, lift_some_bind]
  by_cases htext : ∃ t, value = .text t
  · obtain ⟨t, rfl⟩ := htext
    have hsame : some text = some t := ((Yaml.presents hvalue).text_eq t rfl).1
    cases hsame
    rfl
  · have hnone : (Json.scalarOfValue value).text? = none := by
      cases value with
      | text t => exact absurd ⟨t, rfl⟩ htext
      | _ => rfl
    rw [hnone, hunfit fun t ht => htext ⟨t, ht⟩]
    rfl

/-- An address is the same. -/
theorem address_eq (h : Twins place v v') :
    (v.text >>= fun t => (liftM (Net.SocketAddress.ofText? t) : Reading _)) =
      v'.text >>= fun t => liftM (Net.SocketAddress.ofText? t) := by
  cases h with
  | scalar hplain hvalue =>
      exact spelled_eq hvalue (fun htext => (Yaml.spelling_unfit hvalue hplain htext).1)
        Scalar.text? rfl rfl
  | list => rfl
  | mapping => rfl

theorem not_null {s : Scalar} (h : Twins place (.scalar s) v') : s.value? ≠ some .null := by
  intro hnull
  cases h with
  | scalar hplain =>
      cases hnull
      exact hplain

/-- A mapping with a plain value in it names no choice. -/
theorem choice_eq_failure {entries entries' : List (Node × Node)}
    (h : Twins place (.mapping .positional entries) (.mapping .keyed entries')) :
    (Node.mapping .positional entries).choice = failure := by
  unfold choice
  split
  · next key content heq =>
      obtain ⟨_, rfl⟩ := Node.mapping.inj heq
      cases h with
      | mapping hlength hkeys hvalues =>
          obtain ⟨e', rfl⟩ := List.length_eq_one_iff.mp hlength.symm
          have hvalue := hvalues ((.scalar key, .scalar content), e') (by simp)
          rw [if_neg hvalue.not_null]
  · rfl

/-- The name of a format is the same. -/
theorem format_eq (h : Twins place v v') :
    (v.choice >>= fun t => (liftM (LogFormat.ofName? t) : Reading _)) =
      v'.choice >>= fun t => liftM (LogFormat.ofName? t) := by
  cases h with
  | @scalar _ style text value hplain hvalue =>
      have hjson : (Json.scalarOfValue value).choice? = (Json.scalarOfValue value).text? := by
        cases value <;> rfl
      exact spelled_eq hvalue (fun htext => (Yaml.spelling_unfit hvalue hplain htext).2)
        Scalar.choice? hjson rfl
  | list => rfl
  | mapping hlength hkeys hvalues htexts hdepth =>
      have hfailure := choice_eq_failure (.mapping hlength hkeys hvalues htexts hdepth)
      rw [hfailure]
      rfl

/-! ## Sections of twins -/

/-- Answers of twins to a name. -/
def Field (place : Place) (name : String) : Option Node → Option Node → Prop :=
  Option.Rel fun v v' => Twins (place.child (some name)) v v' ∧ v.IsTree ∧ v'.IsTree ∧
    (name ∈ place.textNames → ∀ s, v = .scalar s → ∃ t, s.value? = some (.text t)) ∧
    (place = .dependency → Plain 124 v)

/-- Twins answer to each name with twins. -/
theorem entriesAlike (h : Twins place v v') (hv : v.IsTree) :
    EntriesAlike (Field place) v v' := by
  have hv' := h.isTree hv
  cases h with
  | @scalar _ style text value hplain hvalue =>
      have hnotNull : value ≠ .null := by
        rintro rfl
        exact hplain
      refine .neither rfl ?_
      rw [entries?, (Yaml.presents hvalue).blank_eq hnotNull]
      rfl
  | list => exact .neither rfl rfl
  | mapping hlength hkeys hvalues htexts hdepth =>
      refine entriesAlike_of_forall₂ (fun _ => .none) ?_
      refine List.forall₂_iff_zip.mpr ⟨hlength, fun {e e'} hmem => ?_⟩
      obtain ⟨hleft, hright⟩ := List.of_mem_zip hmem
      refine ⟨(hkeys _ hmem).key?_eq, fun name hname => .some ?_⟩
      have hvalue := hvalues _ hmem
      rw [hname] at hvalue
      cases hv with
      | mapping _ _ htrees =>
          cases hv' with
          | mapping _ _ htrees' =>
              exact ⟨hvalue, htrees _ hleft, htrees' _ hright,
                fun htext => htexts _ hleft name htext hname, fun hd => hdepth hd _ hleft⟩

/-- Twins have the same fields. -/
theorem fieldsAlike (h : Twins place v v') (hplace : place.isListed = true) (hv : v.IsTree)
    (names : List String) : FieldsAlike (Field place) names v v' := by
  have hlists : v.NoList ∧ v'.NoList := by
    cases h with
    | scalar => exact ⟨nofun, nofun⟩
    | list hnot =>
        rw [hplace] at hnot
        cases hnot
    | mapping => exact ⟨nofun, nofun⟩
  exact (h.entriesAlike hv).fields hv (h.isTree hv) hlists.1 hlists.2 names

/-- A field of twins comes to the same if its reader reads them alike. -/
theorem reads {α : Type} {name : String} {default : α} {read : Node → Reading α}
    (h : ∀ v v', Twins (place.child (some name)) v v' → v.IsTree →
      (name ∈ place.textNames → ∀ s, v = .scalar s → ∃ t, s.value? = some (.text t)) →
        read v = read v') : Reads (Field place) name default read := by
  intro o o' hfield
  cases hfield with
  | none => rfl
  | some hrel =>
      obtain ⟨htwins, htree, _, htext, _⟩ := hrel
      exact h _ _ htwins htree htext

theorem server_eq (h : Twins .server v v') (hv : v.IsTree) :
    ServerConfig.ofNode v = ServerConfig.ofNode v' :=
  ServerConfig.ofNode_congr (h.fieldsAlike rfl hv _) (reads fun _ _ h _ _ => h.address_eq)

theorem health_eq (h : Twins .health v v') (hv : v.IsTree) :
    HealthConfig.ofNode v = HealthConfig.ofNode v' :=
  HealthConfig.ofNode_congr (h.fieldsAlike rfl hv _) (reads fun _ _ h _ _ => h.natural_eq _)
    (reads fun _ _ h _ _ => h.natural_eq _) (reads fun _ _ h _ _ => h.natural_eq _)
    (reads fun _ _ h _ _ => h.natural_eq _)

theorem metrics_eq (h : Twins .metrics v v') (hv : v.IsTree) :
    MetricsConfig.ofNode v = MetricsConfig.ofNode v' :=
  MetricsConfig.ofNode_congr (h.fieldsAlike rfl hv _) (reads fun _ _ h _ _ => h.flag_eq)
    (reads fun _ _ h _ _ => h.natural_eq _)
    (reads fun _ _ h _ htext => h.text_eq (htext (by decide)))

theorem logging_eq (h : Twins .logging v v') (hv : v.IsTree) :
    LoggingConfig.ofNode v = LoggingConfig.ofNode v' :=
  LoggingConfig.ofNode_congr (h.fieldsAlike rfl hv _) (reads fun _ _ h _ _ => h.format_eq)
    (reads fun _ _ h _ htext => h.text_eq (htext (by decide)))

/-- Twins in a field of a dependency have the same content, if there are levels enough. -/
theorem content_of_field {levels levels' : Nat} (hlevels : 124 ≤ levels ∧ 124 ≤ levels')
    {name : String} {w w' : Node} (h : Field .dependency name (some w) (some w')) :
    (content levels w).alone? = (content levels' w').alone? := by
  cases h with
  | some hrel =>
      obtain ⟨htwins, htree, htree', _, hplain⟩ := hrel
      obtain ⟨hcontent, _⟩ := (hplain rfl).content_eq htree hlevels.1
      obtain ⟨hcontent', _⟩ := (htwins.plain (hplain rfl)).content_eq htree' hlevels.2
      rw [hcontent, hcontent', htwins.shape?_eq]

theorem dependency_eq (h : Twins .dependency v v') (hv : v.IsTree) :
    DependencyConfig.ofNode v = DependencyConfig.ofNode v' := by
  have hv' := h.isTree hv
  cases h.entriesAlike hv with
  | neither hl hl' =>
      rw [DependencyConfig.ofNode_eq hv, DependencyConfig.ofNode_eq hv', hl, hl']
      rfl
  | @both l l' hl hl' hanswers =>
      have hlevels : 124 ≤ valueDepth v ∧ 124 ≤ valueDepth v' := by
        cases h with
        | scalar => cases hl
        | list => cases hl
        | mapping => exact ⟨Nat.le_refl 124, Nat.le_succ 124⟩
      have hcontents : ∀ name,
          contentOf (valueDepth v) l name = contentOf (valueDepth v') l' name := by
        intro name
        have hfield := hanswers name
        rw [contentOf, contentOf]
        generalize l.lookup name = o at hfield
        generalize l'.lookup name = o' at hfield
        cases hfield with
        | none => rfl
        | some hrel => exact content_of_field hlevels (.some hrel)
      have hreadable : ∀ name,
          (∃ w, l.lookup name = some w ∧ ¬Readable (valueDepth v) w) ↔
            ∃ w, l'.lookup name = some w ∧ ¬Readable (valueDepth v') w := by
        intro name
        have hfield := hanswers name
        generalize l.lookup name = o at hfield
        generalize l'.lookup name = o' at hfield
        cases hfield with
        | none => simp only [reduceCtorEq, false_and, exists_false]
        | some hrel =>
            have hsame := content_of_field hlevels (.some hrel)
            simp only [Option.some.injEq, exists_eq_left', Readable, hsame]
      refine DependencyConfig.ofNode_congr
        (reads (fun _ _ h _ _ => h.flag_eq) _ _ (hanswers "enabled"))
        (reads (fun _ _ h _ _ => h.natural_eq _) _ _ (hanswers "connect_retries"))
        (reads (fun _ _ h _ _ => h.natural_eq _) _ _ (hanswers "connect_retry_delay_secs"))
        hv hv' hl hl' ?_ (hcontents "kind") fun kind _ name _ => .inl (hcontents name)
      rw [exists_ownFields_iff (hv.names_nodup hl), exists_ownFields_iff (hv'.names_nodup hl')]
      exact exists_congr fun name => and_congr_right fun _ => hreadable name

theorem dependencies_eq (h : Twins .dependencies v v') (hv : v.IsTree) :
    dependenciesOfNode v = dependenciesOfNode v' := by
  refine dependenciesOfNode_congr (h.entriesAlike hv) hv (h.isTree hv) ?_
  intro name o o' hfield
  cases hfield with
  | none => rfl
  | some hrel => exact congrArg some (dependency_eq hrel.1 hrel.2.1)

/-- **Twins are read alike.** -/
theorem config_eq (h : Twins .config v v') (hv : v.IsTree) :
    Config.ofNode v = Config.ofNode v' :=
  Config.ofNode_congr (h.fieldsAlike rfl hv _) (reads fun _ _ h hv _ => h.server_eq hv)
    (reads fun _ _ h hv _ => h.health_eq hv) (reads fun _ _ h hv _ => h.metrics_eq hv)
    (reads fun _ _ h hv _ => h.logging_eq hv) (reads fun _ _ h hv _ => h.dependencies_eq hv)

end Twins

/-! ## What is parsed -/

/-- An error as it is told of a text in another language. -/
def ConfigError.inLanguage (language : Language) : ConfigError → ConfigError
  | .unparsable _ => .unparsable language
  | e => e

/-- What is parsed is told by the language and by what the document holds. -/
theorem Config.parse_congr {language language' : Language} {text text' : String} {d d' : Document}
    (hd : language.readDocument text = some d) (hd' : language'.readDocument text' = some d')
    (h : Config.ofDocument? d = Config.ofDocument? d') :
    Config.parse language' text' =
      (Config.parse language text).mapError (ConfigError.inLanguage language') := by
  rw [Config.parse, Config.parse, hd, hd', Option.bind_some, Option.bind_some, h]
  cases Config.ofDocument? d' with
  | none => rfl
  | some config =>
      dsimp only
      split
      · rfl
      · rfl

/-- How a configuration is presented makes no difference. -/
theorem Config.parse_presentation :
    (∀ (language : Language) (text text' : String) (d d' : Document),
      language.readDocument text = some d → language.readDocument text' = some d' →
        d.root.IsTree → Relation.ReflTransGen (Edit .config) d.root d'.root →
          Config.parse language text' = Config.parse language text) ∧
    ∀ (text text' : String) (d d' : Document) (v v' : Node),
      Language.json.readDocument text = some d → Language.yaml.readDocument text' = some d' →
        d.root.IsTree → Relation.ReflTransGen (Edit .config) d.root v → Twins .config v v' →
          Relation.ReflTransGen (Edit .config) v' d'.root →
            Config.parse .yaml text' =
              (Config.parse .json text).mapError (ConfigError.inLanguage .yaml) := by
  constructor
  · intro language text text' d d' hd hd' htree hedits
    obtain ⟨htree', hsame⟩ := same_of_edits hedits htree
    rw [Config.parse, Config.parse, hd, hd', Option.bind_some, Option.bind_some,
      Config.ofDocument?_congr htree htree' hsame]
  · intro text text' d d' v v' hd hd' htree hedits htwins hedits'
    obtain ⟨hv, hsame⟩ := same_of_edits hedits htree
    have hv' := htwins.isTree hv
    obtain ⟨htree', hsame'⟩ := same_of_edits hedits' hv'
    have hroots : Config.ofNode d.root = Config.ofNode d'.root :=
      hsame.trans ((htwins.config_eq hv).trans hsame')
    exact Config.parse_congr hd hd' (Config.ofDocument?_congr htree htree' hroots)

/-- A text in JSON. -/
def Json.textNode (t : String) : Node := .scalar (Json.scalarOfValue (.text t))

/-- A plain scalar in YAML. -/
def Yaml.plainNode (s : String) : Node := .scalar (Yaml.scalarOf none .plain s)

/-- A configuration of one dependency. -/
def withCache (marking : Marking) (name : String → Node) (fields : List (Node × Node)) : Node :=
  .mapping marking [(name "dependencies", .mapping marking
    [(name "cache", .mapping marking fields)])]

theorem withCache_isTree {fields : List (Node × Node)} (h : (mapping .positional fields).IsTree) :
    (withCache .positional Json.textNode fields).IsTree := by
  have hsingle : ∀ (name : String) (v : Node), v.IsTree →
      (mapping .positional [(Json.textNode name, v)]).IsTree := fun name v hv =>
    .mapping (List.pairwise_singleton _ name) (List.forall_mem_singleton.mpr (.scalar _))
      (List.forall_mem_singleton.mpr hv)
  exact hsingle _ _ (hsingle _ _ h)

theorem withCache_edit {fields fields' : List (Node × Node)}
    (h : Edit .dependency (.mapping .positional fields) (.mapping .positional fields')) :
    Edit .config (withCache .positional Json.textNode fields)
      (withCache .positional Json.textNode fields') := by
  have hdependencies : Edit .dependencies
      (.mapping .positional ([] ++ [(Json.textNode "cache", .mapping .positional fields)]))
      (.mapping .positional ([] ++ [(Json.textNode "cache", .mapping .positional fields')])) :=
    .under h
  exact @Edit.under .config .positional [] [] _ _ _ hdependencies

theorem plain_twin {name : String} (h : Yaml.plainValue? name = some (.text name)) (place : Place) :
    TwinKeys (Json.textNode name) (Yaml.plainNode name) ∧
      Twins place (Json.textNode name) (Yaml.plainNode name) :=
  ⟨⟨name, .plain, rfl, rfl, h⟩, .scalar trivial h⟩

theorem withCache_twins {fields fields' : List (Node × Node)}
    (h : Twins .dependency (.mapping .positional fields) (.mapping .keyed fields')) :
    Twins .config (withCache .positional Json.textNode fields)
      (withCache .keyed Yaml.plainNode fields') := by
  have hdependencies : Twins .dependencies
      (.mapping .positional [(Json.textNode "cache", .mapping .positional fields)])
      (.mapping .keyed [(Yaml.plainNode "cache", .mapping .keyed fields')]) :=
    .mapping rfl (List.forall_mem_singleton.mpr (plain_twin (by decide +kernel) .value).1)
      (List.forall_mem_singleton.mpr h) nofun nofun
  exact .mapping rfl (List.forall_mem_singleton.mpr (plain_twin (by decide +kernel) .value).1)
    (List.forall_mem_singleton.mpr hdependencies) nofun nofun

/-- The fields of a cache. -/
def cacheFields (name : String → Node) : List (Node × Node) :=
  [(name "kind", name "redis"), (name "address", name "a:1")]

theorem cacheFields_isTree :
    (withCache .positional Json.textNode (cacheFields Json.textNode)).IsTree :=
  withCache_isTree (.mapping (by decide)
    (List.forall_mem_cons.mpr ⟨.scalar _, List.forall_mem_singleton.mpr (.scalar _)⟩)
    (List.forall_mem_cons.mpr ⟨.scalar _, List.forall_mem_singleton.mpr (.scalar _)⟩))

theorem cacheFields_twins :
    Twins .config (withCache .positional Json.textNode (cacheFields Json.textNode))
      (withCache .keyed Yaml.plainNode (cacheFields Yaml.plainNode)) := by
  have hnames : ∀ name ∈ ["kind", "address", "redis", "a:1"],
      Yaml.plainValue? name = some (.text name) := by decide +kernel
  refine withCache_twins (.mapping rfl ?_ ?_ nofun fun _ => ?_)
  · exact List.forall_mem_cons.mpr ⟨(plain_twin (hnames _ (by simp)) .value).1,
      List.forall_mem_singleton.mpr (plain_twin (hnames _ (by simp)) .value).1⟩
  · exact List.forall_mem_cons.mpr ⟨(plain_twin (hnames _ (by simp)) .value).2,
      List.forall_mem_singleton.mpr (plain_twin (hnames _ (by simp)) .value).2⟩
  · exact List.forall_mem_cons.mpr ⟨.scalar rfl, List.forall_mem_singleton.mpr (.scalar rfl)⟩

/-- The fields of a cache the other way round, with one that nothing reads. -/
def notedFields : List (Node × Node) :=
  (Json.textNode "note", list .positional [.scalar (Json.scalarOfValue (.natural 1))]) ::
    (cacheFields Json.textNode).reverse

/-- A cache with all of these fields and one at its default, and a section at its default. -/
def withServer : Node :=
  .mapping .positional [(Json.textNode "server", .mapping .positional []),
    (Json.textNode "dependencies", .mapping .positional [(Json.textNode "cache",
      .mapping .positional ((Json.textNode "db", .scalar (Json.scalarOfValue .null)) ::
        notedFields))])]

theorem withServer_edits : Relation.ReflTransGen (Edit .config)
    (withCache .positional Json.textNode (cacheFields Json.textNode)) withServer := by
  have hnote : NoField .dependency (cacheFields Json.textNode).reverse "note" := by
    refine ⟨⟨nofun, nofun⟩, by decide, fun _ kind _ => ?_⟩
    cases kind <;> decide
  have hitem : ∀ item ∈ [Node.scalar (Json.scalarOfValue (.natural 1))],
      item.IsTree ∧ Plain 123 item := List.forall_mem_singleton.mpr ⟨.scalar _, .scalar rfl⟩
  have hredis : NamesKind notedFields .redis :=
    ⟨_, _, _, .tail _ (.tail _ (.head _)), rfl, rfl, rfl⟩
  have hpermuted : Edit .dependency (.mapping .positional (cacheFields Json.textNode))
      (.mapping .positional (cacheFields Json.textNode).reverse) :=
    .permute (List.reverse_perm _).symm
  have hadded : Edit .dependency (.mapping .positional (cacheFields Json.textNode).reverse)
      (.mapping .positional notedFields) :=
    .extra rfl (by decide) hnote (.list fun item h => (hitem item h).1)
      fun _ => .list nofun fun item h => (hitem item h).2
  have hwritten : Edit .dependency (.mapping .positional notedFields) (.mapping .positional
      ((Json.textNode "db", .scalar (Json.scalarOfValue .null)) :: notedFields)) :=
    .write rfl (by decide) (.ofKind rfl hredis rfl (Json.presents _))
  have hserver : Edit .config (withCache .positional Json.textNode
      ((Json.textNode "db", .scalar (Json.scalarOfValue .null)) :: notedFields)) withServer :=
    .write rfl (by decide) (.ofConfig rfl (by decide) .positional)
  exact .tail (.tail (.tail (.single (withCache_edit hpermuted)) (withCache_edit hadded))
    (withCache_edit hwritten)) hserver

theorem cache_presented :
    Config.parse .json ("\x7b\"server\":\x7b\x7d,\"dependencies\":\x7b\"cache\":\x7b\"db\":null," ++
        "\"note\":[1],\"address\":\"a:1\",\"kind\":\"redis\"\x7d\x7d\x7d") =
      Config.parse .json
        "\x7b\"dependencies\":\x7b\"cache\":\x7b\"kind\":\"redis\",\"address\":\"a:1\"\x7d\x7d\x7d" ∧
    Config.parse .yaml "dependencies:\n  cache:\n    kind: redis\n    address: a:1\n" =
      (Config.parse .json
        "\x7b\"dependencies\":\x7b\"cache\":\x7b\"kind\":\"redis\",\"address\":\"a:1\"\x7d\x7d\x7d").mapError
          (ConfigError.inLanguage .yaml) := by
  obtain ⟨d, hd, hroot⟩ := exists_root
    (v := withCache .positional Json.textNode (cacheFields Json.textNode))
    (o := Language.json.readDocument
      "\x7b\"dependencies\":\x7b\"cache\":\x7b\"kind\":\"redis\",\"address\":\"a:1\"\x7d\x7d\x7d")
    (by decide +kernel)
  obtain ⟨d', hd', hroot'⟩ := exists_root (v := withServer)
    (o := Language.json.readDocument
      ("\x7b\"server\":\x7b\x7d,\"dependencies\":\x7b\"cache\":\x7b\"db\":null," ++
        "\"note\":[1],\"address\":\"a:1\",\"kind\":\"redis\"\x7d\x7d\x7d"))
    (by decide +kernel)
  obtain ⟨e, he, heroot⟩ := exists_root
    (v := withCache .keyed Yaml.plainNode (cacheFields Yaml.plainNode))
    (o := Language.yaml.readDocument "dependencies:\n  cache:\n    kind: redis\n    address: a:1\n")
    (by decide +kernel)
  have htree : d.root.IsTree := hroot ▸ cacheFields_isTree
  have hedits : Relation.ReflTransGen (Edit .config) d.root d'.root := by
    rw [hroot, hroot']
    exact withServer_edits
  have htwins : Twins .config d.root e.root := by
    rw [hroot, heroot]
    exact cacheFields_twins
  exact ⟨Config.parse_presentation.1 .json _ _ d d' hd hd' htree hedits,
    Config.parse_presentation.2 _ _ d e _ _ hd he htree .refl htwins .refl⟩

theorem unparsable_of_isNone {language : Language} {text : String}
    (h : ((language.readDocument text).bind Config.ofDocument?).isNone = true) :
    Config.parse language text = .error (.unparsable language) := by
  rw [Config.parse, Option.isNone_iff_eq_none.mp h]

/-- A number for a path is refused in JSON and taken as its spelling in YAML, and a list for a
section is taken in JSON and refused in YAML. -/
theorem languages_differ :
    (∃ d e, Language.json.readDocument "\x7b\"metrics\":\x7b\"path\":9090\x7d\x7d" = some d ∧
      Language.yaml.readDocument "metrics:\n  path: 9090\n" = some e ∧
      d.root = .mapping .positional [(Json.textNode "metrics", .mapping .positional
        [(Json.textNode "path", .scalar (Json.scalarOfValue (.natural 9090)))])] ∧
      e.root = .mapping .keyed [(Yaml.plainNode "metrics", .mapping .keyed
        [(Yaml.plainNode "path", Yaml.plainNode "9090")])]) ∧
    Yaml.plainValue? "9090" = some (.natural 9090) ∧
    Config.parse .json "\x7b\"metrics\":\x7b\"path\":9090\x7d\x7d" = .error (.unparsable .json) ∧
    ((Config.parse .yaml "metrics:\n  path: 9090\n").toOption.map fun c => c.metrics.path) =
      some "9090" ∧
    (∃ d e, Language.json.readDocument "\x7b\"logging\":[\"json\"]\x7d" = some d ∧
      Language.yaml.readDocument "logging:\n  - json\n" = some e ∧
      d.root = .mapping .positional
        [(Json.textNode "logging", .list .positional [Json.textNode "json"])] ∧
      e.root = .mapping .keyed [(Yaml.plainNode "logging", .list .keyed [Yaml.plainNode "json"])]) ∧
    ((Config.parse .json "\x7b\"logging\":[\"json\"]\x7d").toOption.map fun c =>
      c.logging.format) = some .json ∧
    Config.parse .yaml "logging:\n  - json\n" = .error (.unparsable .yaml) := by
  have hread : ∀ {o o' : Option Document} {v v' : Node},
      (o.any fun d => same d.root v) = true → (o'.any fun d => same d.root v') = true →
        ∃ d e, o = some d ∧ o' = some e ∧ d.root = v ∧ e.root = v' := by
    intro o o' v v' h h'
    obtain ⟨d, hd, hroot⟩ := exists_root h
    obtain ⟨e, he, hroot'⟩ := exists_root h'
    exact ⟨d, e, hd, he, hroot, hroot'⟩
  refine ⟨hread (by decide +kernel) (by decide +kernel), by decide +kernel, ?_, by decide +kernel,
    hread (by decide +kernel) (by decide +kernel), by decide +kernel, ?_⟩
  · exact unparsable_of_isNone (by decide +kernel)
  · exact unparsable_of_isNone (by decide +kernel)

end HealthWatch
