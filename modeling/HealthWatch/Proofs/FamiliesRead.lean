import HealthWatch.Proofs.ExpositionReading
import Mathlib.Data.String.Basic

/-!
# Families are read as they are written

The lines of a family tell its name, its help, its kind and its samples (`readLines_family`), and
what they tell is what is told of one more metric (`add_family`).  So families that are written
and read again are the same (`read?_write`), if none of them comes back to an earlier metric.
-/

namespace HealthWatch.Exposition

/-! ## Lines of a family -/

/-- A family whose name is a name, with a help of one line and samples of its own. -/
structure PlainFamily (f : Family) : Prop where
  name : isName f.name.toList = true
  help : ∀ c ∈ f.help.toList, c ≠ '\\' ∧ c ≠ '\n'
  help_head : f.help.toList.head?.all fun c => !isBlank c
  kind : f.kind ∈ kinds
  samples : ∀ s ∈ f.samples, PlainSample s
  own : ∀ s ∈ f.samples, (Told.ofFamily f).owns s.name = true

/-- The characters of the lines of a family. -/
def familyLines (f : Family) : List (List Char) :=
  ("# HELP ".toList ++ (f.name.toList ++ ' ' :: f.help.toList)) ::
    ("# TYPE ".toList ++ (f.name.toList ++ ' ' :: f.kind.toList)) :: f.samples.map sampleChars

/-- What the lines of a family tell. -/
def toldLines (f : Family) : List Line :=
  .help f.name f.help :: .kind f.name f.kind :: f.samples.map .sample

theorem toList_writeFamily (f : Family) :
    f.write.toList = (familyLines f).flatMap fun line => line ++ ['\n'] := by
  have hsamples : (String.join (f.samples.map Sample.write)).toList =
      (f.samples.map sampleChars).flatMap fun line => line ++ ['\n'] := by
    simp only [String.toList_join, List.flatMap_map, toList_write]
  have hspace : " ".toList = [' '] := rfl
  have hfeed : "\n".toList = ['\n'] := rfl
  -- the equation that Lean makes of `write` is slow to check
  delta Family.write
  simp only [familyLines, String.toList_append, hsamples, hspace, hfeed,
    List.flatMap_cons, List.append_assoc, List.cons_append, List.nil_append]

/-- A help without escapes is read as it is. -/
theorem readHelp_plain {cs : List Char} (h : ∀ c ∈ cs, c ≠ '\\') : readHelp cs = some cs := by
  induction cs with
  | nil => rfl
  | cons c cs ih =>
      obtain ⟨hc, hcs⟩ := List.forall_mem_cons.mp h
      rw [readHelp, ih hcs]
      · rfl
      · exact fun _ h => absurd h hc
      · exact fun _ h => absurd h hc
      · exact hc

theorem nameWord {name : List Char} (h : isName name = true) : ∀ c ∈ name, isBlank c = false :=
  fun c hc => (nameChar_plain (isName_all h c hc)).1

/-- The keyword of a comment is read up to the name behind it. -/
theorem word_keyword {keyword name rest : List Char} (hkeyword : isName keyword = true)
    (hname : isName name = true) :
    word (skipBlanks (' ' :: (keyword ++ ' ' :: (name ++ ' ' :: rest)))) =
      (keyword, name ++ ' ' :: rest) := by
  have hskip : ∀ {w : List Char}, isName w = true → ∀ rest, skipBlanks (w ++ rest) = w ++ rest := by
    intro w hw rest
    obtain ⟨c, cs, rfl, hc⟩ := isName_head hw
    exact skipBlanks_eq (by simpa using (startsName_plain hc).1)
  have hspace : skipBlanks (' ' :: (keyword ++ ' ' :: (name ++ ' ' :: rest))) =
      skipBlanks (keyword ++ ' ' :: (name ++ ' ' :: rest)) := rfl
  rw [hspace, hskip hkeyword, word_append (nameWord hkeyword), hskip hname]

/-- The help of a family is read as it is written. -/
theorem readLine_help {f : Family} (hf : PlainFamily f) :
    readLine ("# HELP ".toList ++ (f.name.toList ++ ' ' :: f.help.toList)) =
      some (.help f.name f.help) := by
  have hmark : "# HELP ".toList = '#' :: ' ' :: ("HELP".toList ++ [' ']) := by decide
  have hcomment : ∀ cs : List Char, readLine ('#' :: cs) = readComment cs := fun _ => rfl
  have hhelp : word (f.name.toList ++ ' ' :: f.help.toList) = (f.name.toList, f.help.toList) := by
    rw [word_append (nameWord hf.name), skipBlanks_eq hf.help_head]
  rw [hmark, List.cons_append, hcomment, List.cons_append, List.append_assoc, readComment,
    List.singleton_append, word_keyword (by decide) hf.name]
  simp only [if_true, hhelp, hf.name, readHelp_plain fun c hc => (hf.help c hc).1,
    Option.bind_eq_bind, Option.bind_some, String.ofList_toList]

/-- The kind of a family is read as it is written. -/
theorem readLine_kind {f : Family} (hf : PlainFamily f) :
    readLine ("# TYPE ".toList ++ (f.name.toList ++ ' ' :: f.kind.toList)) =
      some (.kind f.name f.kind) := by
  have hmark : "# TYPE ".toList = '#' :: ' ' :: ("TYPE".toList ++ [' ']) := by decide
  have hcomment : ∀ cs : List Char, readLine ('#' :: cs) = readComment cs := fun _ => rfl
  have hother : "TYPE".toList ≠ "HELP".toList := by decide
  have hkinds : ∀ kind ∈ kinds, isName kind.toList = true := by decide
  have hkind : isName f.kind.toList = true := hkinds f.kind hf.kind
  obtain ⟨c, cs, hcs, hc⟩ := isName_head hkind
  have hhead : f.kind.toList.head?.all fun c => !isBlank c := by
    rw [hcs]
    simpa using (startsName_plain hc).1
  have hname : word (f.name.toList ++ ' ' :: f.kind.toList) = (f.name.toList, f.kind.toList) := by
    rw [word_append (nameWord hf.name), skipBlanks_eq hhead]
  rw [hmark, List.cons_append, hcomment, List.cons_append, List.append_assoc, readComment,
    List.singleton_append, word_keyword (by decide) hf.name]
  simp only [hother, if_false, if_true, hname, hf.name, word_last (nameWord hkind),
    String.ofList_toList, List.contains_iff_mem.mpr hf.kind, List.isEmpty_nil, Bool.and_self]

/-- A sample is read as it is written. -/
theorem readLine_sample {s : Sample} (hs : PlainSample s) :
    readLine (sampleChars s) = some (.sample s) := by
  obtain ⟨c, cs, hcs, hc⟩ := isName_head hs.name
  obtain ⟨hblank, -, hmark⟩ := startsName_plain hc
  have hchars : sampleChars s =
      c :: (cs ++ ((Sample.writeLabels s.labels).toList ++ ' ' :: s.value.toList)) := by
    rw [sampleChars, hcs]
    rfl
  have hskip : skipBlanks (sampleChars s) = sampleChars s :=
    skipBlanks_eq (by simpa [hchars] using hblank)
  have hline : readLine (sampleChars s) = (readSample (sampleChars s)).map .sample := by
    rw [readLine, hskip, hchars]
    split
    · next h => cases h
    · next h => exact absurd (List.cons.inj h).1 hmark
    · rfl
  rw [hline, readSample_write hs]
  rfl

theorem mapM_sampleChars {samples : List Sample} (h : ∀ s ∈ samples, PlainSample s) :
    (samples.map sampleChars).mapM readLine = some (samples.map .sample) := by
  induction samples with
  | nil => rfl
  | cons s samples ih =>
      obtain ⟨hs, hsamples⟩ := List.forall_mem_cons.mp h
      rw [List.map_cons, List.mapM_cons, readLine_sample hs, ih hsamples]
      rfl

/-- The lines of a family are read as what they tell. -/
theorem readLines_family {f : Family} (hf : PlainFamily f) :
    (familyLines f).mapM readLine = some (toldLines f) := by
  rw [familyLines, toldLines, List.mapM_cons, List.mapM_cons, readLine_help hf, readLine_kind hf,
    mapM_sampleChars hf.samples]
  rfl

/-! ## Families -/

theorem name_lineFeed {name : List Char} (h : isName name = true) : '\n' ∉ name :=
  fun hfeed => (nameChar_plain (isName_all h _ hfeed)).2 rfl

/-- An escaped character is no line feed. -/
theorem escape_lineFeed (c : Char) : '\n' ∉ Sample.escape c := by
  unfold Sample.escape
  split
  · decide
  split
  · decide
  split
  · decide
  · next hfeed => exact fun h => hfeed (List.mem_singleton.mp h).symm

theorem labelChars_lineFeed {labels : List (String × String)}
    (hnames : ∀ label ∈ labels, isLabelName label.1.toList = true) : '\n' ∉ labelChars labels := by
  have hlabel : ∀ label : String × String, isLabelName label.1.toList = true →
      '\n' ∉ (Sample.writeLabel label).toList := by
    intro label hname
    have hfree : '\n' ∉ label.1.toList := name_lineFeed (isName_of_label hname)
    rw [toList_writeLabel]
    simp [hfree, escape_lineFeed]
  induction labels with
  | nil => exact List.not_mem_nil
  | cons label labels ih =>
      obtain ⟨hname, hrest⟩ := List.forall_mem_cons.mp hnames
      cases labels with
      | nil =>
          rw [labelChars_singleton]
          exact hlabel label hname
      | cons next labels =>
          rw [labelChars_cons]
          simp [hlabel label hname, ih hrest]

/-- The line of a sample is one line. -/
theorem sampleChars_lineFeed {s : Sample} (hs : PlainSample s) : '\n' ∉ sampleChars s := by
  have hname : '\n' ∉ s.name.toList := name_lineFeed hs.name
  have hvalue : '\n' ∉ s.value.toList := fun h => (valueChar_plain (hs.value.chars _ h)).2.1 rfl
  have hlabels : '\n' ∉ (Sample.writeLabels s.labels).toList := by
    have hchars := labelChars_lineFeed hs.labels
    cases hcases : s.labels with
    | nil => exact List.not_mem_nil
    | cons label labels =>
        rw [hcases] at hchars
        rw [toList_writeLabels]
        simp [hchars]
  rw [sampleChars]
  simp [hname, hlabels, hvalue]

/-- The lines of a family are lines. -/
theorem familyLines_lineFeed {f : Family} (hf : PlainFamily f) :
    ∀ line ∈ familyLines f, '\n' ∉ line := by
  have hname : '\n' ∉ f.name.toList := name_lineFeed hf.name
  have hhelp : '\n' ∉ f.help.toList := fun h => (hf.help _ h).2 rfl
  have hkinds : ∀ kind ∈ kinds, '\n' ∉ kind.toList := by decide
  have hmarks : '\n' ∉ "# HELP ".toList ∧ '\n' ∉ "# TYPE ".toList := by decide
  intro line hline
  rw [familyLines, List.mem_cons, List.mem_cons] at hline
  rcases hline with rfl | rfl | hsample
  · simp only [List.mem_append, List.mem_cons, not_or]
    exact ⟨hmarks.1, hname, by decide, hhelp⟩
  · simp only [List.mem_append, List.mem_cons, not_or]
    exact ⟨hmarks.2, hname, by decide, hkinds f.kind hf.kind⟩
  · obtain ⟨s, hs, rfl⟩ := List.mem_map.mp hsample
    exact sampleChars_lineFeed (hf.samples s hs)

/-- Lines that end in a line feed are split there, and nothing follows the last one. -/
theorem splitOn_lines {lines : List (List Char)} (h : ∀ line ∈ lines, '\n' ∉ line) :
    (lines.flatMap fun line => line ++ ['\n']).splitOn '\n' = lines ++ [[]] := by
  induction lines with
  | nil => exact List.splitOn_nil '\n'
  | cons line lines ih =>
      obtain ⟨hline, hlines⟩ := List.forall_mem_cons.mp h
      rw [List.flatMap_cons, List.append_assoc, List.singleton_append,
        List.splitOn_append_cons_self_of_not_mem hline, ih hlines]
      rfl

/-- What the samples of a metric tell is added to it. -/
theorem add_samples {t : Told} (told : List Told) {samples : List Sample}
    (hown : ∀ s ∈ samples, t.owns s.name = true) :
    (samples.map Line.sample).foldlM add? (t :: told) =
      some ({ t with samples := t.samples ++ samples } :: told) := by
  induction samples generalizing t with
  | nil => simp
  | cons s samples ih =>
      obtain ⟨hs, hsamples⟩ := List.forall_mem_cons.mp hown
      have hadd : add? (t :: told) (.sample s) =
          some ({ t with samples := t.samples ++ [s] } :: told) := by
        simp [add?, Line.subject, hs, Told.add?]
      have hmore := ih (t := { t with samples := t.samples ++ [s] }) hsamples
      rw [List.append_assoc, List.singleton_append] at hmore
      rw [List.map_cons, List.foldlM_cons, hadd, Option.bind_eq_bind, Option.bind_some, hmore]

/-- What the lines of a family tell is what is told of one more metric. -/
theorem add_family {told : List Told} {f : Family} (hf : PlainFamily f)
    (hnew : ∀ t ∈ told, t.owns f.name = false) :
    (toldLines f).foldlM add? told = some (Told.ofFamily f :: told) := by
  have hhelp : add? told (.help f.name f.help) =
      some ({ name := f.name, help := some f.help } :: told) := by
    cases told with
    | nil => rfl
    | cons t rest =>
        obtain ⟨ht, hrest⟩ := List.forall_mem_cons.mp hnew
        have hnone : rest.any (·.owns f.name) = false :=
          List.any_eq_false.mpr fun t ht => by rw [hrest t ht]; decide
        simp [add?, Line.subject, ht, hnone, Told.add?]
  have hkind : add? ({ name := f.name, help := some f.help } :: told) (.kind f.name f.kind) =
      some ({ name := f.name, help := some f.help, kind := some f.kind } :: told) := by
    simp [add?, Line.subject, Told.owns, Told.add?]
  have hsamples := add_samples told
    (t := { name := f.name, help := some f.help, kind := some f.kind }) hf.own
  simp only [toldLines, List.foldlM_cons, hhelp, hkind, Option.bind_eq_bind, Option.bind_some,
    hsamples, List.nil_append]
  rfl

/-- Families are told one after the other if none comes back to an earlier one. -/
theorem add_families {told : List Told} {fs : List Family} (hfs : ∀ f ∈ fs, PlainFamily f)
    (hnew : ∀ f ∈ fs, ∀ t ∈ told, t.owns f.name = false)
    (hother : fs.Pairwise fun f g => (Told.ofFamily f).owns g.name = false) :
    (fs.flatMap toldLines).foldlM add? told = some ((fs.map Told.ofFamily).reverse ++ told) := by
  induction fs generalizing told with
  | nil => rfl
  | cons f fs ih =>
      obtain ⟨hf, hplain⟩ := List.forall_mem_cons.mp hfs
      obtain ⟨hfirst, hlater⟩ := List.forall_mem_cons.mp hnew
      obtain ⟨hnext, hrest⟩ := List.pairwise_cons.mp hother
      have htold : ∀ g ∈ fs, ∀ t ∈ Told.ofFamily f :: told, t.owns g.name = false :=
        fun g hg => List.forall_mem_cons.mpr ⟨hnext g hg, hlater g hg⟩
      rw [List.flatMap_cons, List.foldlM_append, add_family hf hfirst, Option.bind_eq_bind,
        Option.bind_some, ih hplain htold hrest]
      simp

/-- **Families are read as they are written**, if each of them is plain and none owns the name of a
later one. -/
theorem read?_write {fs : List Family} (hfs : ∀ f ∈ fs, PlainFamily f)
    (hother : fs.Pairwise fun f g => (Told.ofFamily f).owns g.name = false) :
    read? (String.join (fs.map Family.write)) = some fs := by
  have hchars : (String.join (fs.map Family.write)).toList =
      (fs.flatMap familyLines).flatMap fun line => line ++ ['\n'] := by
    simp [String.toList_join, List.flatMap_map, List.flatMap_assoc, toList_writeFamily]
  have hfeed : ∀ line ∈ fs.flatMap familyLines, '\n' ∉ line := by
    intro line hline
    obtain ⟨f, hf, hline⟩ := List.mem_flatMap.mp hline
    exact familyLines_lineFeed (hfs f hf) line hline
  have hlines : (fs.flatMap familyLines).mapM readLine = some (fs.flatMap toldLines) := by
    clear hchars hfeed hother
    induction fs with
    | nil => rfl
    | cons f fs ih =>
        obtain ⟨hf, hplain⟩ := List.forall_mem_cons.mp hfs
        rw [List.flatMap_cons, List.mapM_append, readLines_family hf, ih hplain]
        rfl
  have htold : (fs.flatMap toldLines).foldlM add? [] = some (fs.map Told.ofFamily).reverse := by
    have hall := add_families hfs (fun f _ t ht => absurd ht List.not_mem_nil) hother
    rwa [List.append_nil] at hall
  have hfamily : Told.family ∘ Told.ofFamily = id := rfl
  rw [read?, hchars, splitOn_lines hfeed, List.reverse_append]
  simp only [List.reverse_singleton, List.singleton_append, List.reverse_reverse, hlines, htold,
    Option.bind_eq_bind, Option.bind_some, List.map_map, hfamily, List.map_id]

end HealthWatch.Exposition
