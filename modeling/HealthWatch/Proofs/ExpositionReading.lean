import HealthWatch.Decimal.Reading
import HealthWatch.Metrics.Exposition
import Mathlib.Data.List.TakeWhile

/-!
# Reading an exposition

A reader of the text format of expositions, line by line.  A line is empty, a comment, the help or
the kind of a metric, or a sample: a name, perhaps labels in braces, a number and perhaps a time.
Inside the quotes of a label a backslash stands before a backslash, a quote or the letter for a
line feed.  The lines of one metric stand together, and its help and its kind are told at most
once, the kind before the first sample.

A sample that is written and read again is the same (`readSample_write`), whatever the texts of its
labels are.  Its names only have to be names and its value a number (`PlainSample`).
-/

namespace HealthWatch.Exposition

/-! ## Lines -/

/-- The blanks between the parts of a line. -/
def isBlank (c : Char) : Bool := c == ' ' || c == '\t'

def skipBlanks (cs : List Char) : List Char := cs.dropWhile isBlank

/-- What stands up to the next blank, and what follows it. -/
def word (cs : List Char) : List Char × List Char :=
  (cs.takeWhile fun c => !isBlank c, skipBlanks (cs.dropWhile fun c => !isBlank c))

/-- What the name of a metric may begin with. -/
def startsName (c : Char) : Bool := c.isAlpha || c == '_' || c == ':'

def isNameChar (c : Char) : Bool := startsName c || c.isDigit

/-- Whether characters are the name of a metric. -/
def isName (cs : List Char) : Bool := cs.head?.any startsName && cs.all isNameChar

/-- Whether characters are the name of a label. -/
def isLabelName (cs : List Char) : Bool := isName cs && !cs.contains ':'

/-- The longest name that characters begin with. -/
def readName (cs : List Char) : Option (List Char × List Char) :=
  let name := cs.takeWhile isNameChar
  if isName name then some (name, cs.dropWhile isNameChar) else none

/-- A text after its opening quote, and what follows its closing one. -/
def readText : List Char → Option (List Char × List Char)
  | [] => none
  | '"' :: rest => some ([], rest)
  | '\\' :: '\\' :: rest => (readText rest).map fun r => ('\\' :: r.1, r.2)
  | '\\' :: '"' :: rest => (readText rest).map fun r => ('"' :: r.1, r.2)
  | '\\' :: 'n' :: rest => (readText rest).map fun r => ('\n' :: r.1, r.2)
  | '\\' :: _ => none
  | c :: rest => (readText rest).map fun r => (c :: r.1, r.2)

/-- A label, and what follows it and blanks. -/
def readLabel (cs : List Char) : Option ((String × String) × List Char) := do
  let (name, rest) ← readName cs
  if isLabelName name then
    match skipBlanks rest with
    | '=' :: rest =>
      match skipBlanks rest with
      | '"' :: rest => do
        let (text, rest) ← readText rest
        some ((String.ofList name, String.ofList text), skipBlanks rest)
      | _ => none
    | _ => none
  else none

/-- Labels up to the closing brace.  Each takes a character, so `fuel` is their number. -/
def readLabels : (fuel : Nat) → List Char → Option (List (String × String) × List Char)
  | 0, _ => none
  | fuel + 1, cs =>
    match skipBlanks cs with
    | '\x7d' :: rest => some ([], rest)
    | cs =>
      match readLabel cs with
      | some (label, '\x7d' :: rest) => some ([label], rest)
      | some (label, ',' :: rest) => (readLabels fuel rest).map fun r => (label :: r.1, r.2)
      | _ => none

/-- Labels in braces, if there are any. -/
def readBraces (cs : List Char) : Option (List (String × String) × List Char) :=
  match skipBlanks cs with
  | '\x7b' :: rest => readLabels (rest.length + 1) rest
  | rest => some ([], rest)

/-- Whether a spelling is a number: a decimal one, an infinity or none. -/
def isNumber (s : String) : Bool :=
  (floatOfText? s).isSome ||
    ["nan", "inf", "+inf", "-inf"].any fun name => s.toList.map Char.toLower == name.toList

/-- Whether a spelling is a time in milliseconds. -/
def isTime (cs : List Char) : Bool :=
  match cs with
  | '-' :: ds => !ds.isEmpty && ds.all Char.isDigit
  | ds => !ds.isEmpty && ds.all Char.isDigit

/-- The line of a sample.  No label is named twice, and its time is not kept. -/
def readSample (cs : List Char) : Option Sample := do
  let (name, rest) ← readName cs
  let (labels, rest) ← readBraces rest
  let (value, rest) := word (skipBlanks rest)
  let (time, rest) := word rest
  if decide (labels.map Prod.fst).Nodup && isNumber (String.ofList value) &&
      (time.isEmpty || isTime time) && rest.isEmpty then
    some ⟨String.ofList name, labels, String.ofList value⟩
  else none

/-- A help to the end of its line. -/
def readHelp : List Char → Option (List Char)
  | [] => some []
  | '\\' :: '\\' :: rest => (readHelp rest).map ('\\' :: ·)
  | '\\' :: 'n' :: rest => (readHelp rest).map ('\n' :: ·)
  | '\\' :: _ => none
  | c :: rest => (readHelp rest).map (c :: ·)

/-- What a line tells. -/
inductive Line where
  | nothing
  | help (name help : String)
  | kind (name kind : String)
  | sample (s : Sample)

/-- The kinds of metrics. -/
def kinds : List String := ["counter", "gauge", "histogram", "summary", "untyped"]

/-- The line of a comment, after its mark. -/
def readComment (cs : List Char) : Option Line :=
  let (keyword, rest) := word (skipBlanks cs)
  if keyword = "HELP".toList then do
    let (name, rest) := word rest
    if isName name then
      some (.help (String.ofList name) (String.ofList (← readHelp rest)))
    else none
  else if keyword = "TYPE".toList then
    let (name, rest) := word rest
    let (kind, rest) := word rest
    if isName name && kinds.contains (String.ofList kind) && rest.isEmpty then
      some (.kind (String.ofList name) (String.ofList kind))
    else none
  else some .nothing

/-- One line. -/
def readLine (cs : List Char) : Option Line :=
  match skipBlanks cs with
  | [] => some .nothing
  | '#' :: rest => readComment rest
  | cs => (readSample cs).map .sample

/-! ## Metrics -/

/-- What lines have told of one metric. -/
structure Told where
  name : String
  help : Option String := none
  kind : Option String := none
  samples : List Sample := []

namespace Told

/-- Whether samples of a name belong to a metric. -/
def owns (t : Told) (name : String) : Bool :=
  name == t.name ||
    (t.kind == some "histogram" &&
      ["_bucket", "_sum", "_count"].any fun s => name == t.name ++ s) ||
    (t.kind == some "summary" && ["_sum", "_count"].any fun s => name == t.name ++ s)

/-- Tells the help, the kind or a sample of a metric. -/
def add? (t : Told) : Line → Option Told
  | .nothing => some t
  | .help _ help => if t.help.isSome then none else some { t with help }
  | .kind _ kind =>
    if t.kind.isSome || !t.samples.isEmpty then none else some { t with kind }
  | .sample s => some { t with samples := t.samples ++ [s] }

/-- The family of a metric. -/
def family (t : Told) : Family := ⟨t.name, t.help.getD "", t.kind.getD "untyped", t.samples⟩

/-- What the lines of a family tell of its metric. -/
def ofFamily (f : Family) : Told where
  name := f.name
  help := some f.help
  kind := some f.kind
  samples := f.samples

end Told

/-- The metric that a line is about. -/
def Line.subject : Line → Option String
  | .nothing => none
  | .help name _ | .kind name _ => some name
  | .sample s => some s.name

/-- Adds a line to what was told, of which the last metric is listed first.  No line may come back
to an earlier metric. -/
def add? (told : List Told) (line : Line) : Option (List Told) :=
  match line.subject, told with
  | none, _ => some told
  | some name, t :: rest =>
    if t.owns name then (t.add? line).map (· :: rest)
    else if rest.any (·.owns name) then none
    else (Told.add? { name } line).map (· :: t :: rest)
  | some name, [] => (Told.add? { name } line).map ([·])

/-- Reads an exposition.  Its last line must end like all others. -/
def read? (text : String) : Option (List Family) :=
  match (text.toList.splitOn '\n').reverse with
  | [] :: lines => do
    let lines ← lines.reverse.mapM readLine
    let told ← lines.foldlM add? []
    some (told.reverse.map Told.family)
  | _ => none

/-- A text of a label may hold any character. -/
example : read? "# TYPE up gauge\nup\x7bname=\"a\\\"\x7d \\n\\\\\"\x7d 1\n" =
    some [⟨"up", "", "gauge", [⟨"up", [("name", "a\"\x7d \n\\")], "1"⟩]⟩] := by decide +kernel

/-- No metric is told of twice. -/
example : read? "up 1\ndown 2\nup 3\n" = none := by decide +kernel

/-! ## Words and names -/

section

variable {cs name rest : List Char}

theorem skipBlanks_eq (h : cs.head?.all fun c => !isBlank c) : skipBlanks cs = cs := by
  cases cs with
  | nil => rfl
  | cons c cs =>
      have hc : isBlank c = false := by simpa using h
      rw [skipBlanks, List.dropWhile_cons, hc]
      rfl

/-- A word is read up to the blank behind it. -/
theorem word_append {w : List Char} (hw : ∀ c ∈ w, isBlank c = false) (rest : List Char) :
    word (w ++ ' ' :: rest) = (w, skipBlanks rest) := by
  have hpos : ∀ c ∈ w, (!isBlank c) = true := fun c hc => by rw [hw c hc]; rfl
  rw [word, List.takeWhile_append_of_pos hpos, List.dropWhile_append_of_pos hpos]
  simp [isBlank, skipBlanks]

/-- The last word of a line is read to its end. -/
theorem word_last {w : List Char} (hw : ∀ c ∈ w, isBlank c = false) : word w = (w, []) := by
  have hpos : ∀ c ∈ w, (!isBlank c) = true := fun c hc => by rw [hw c hc]; rfl
  rw [word, List.takeWhile_eq_self_iff.mpr hpos, List.dropWhile_eq_nil_iff.mpr hpos]
  rfl

/-- A name begins with a character that is no blank and no mark. -/
theorem isName_head (h : isName name = true) :
    ∃ c cs, name = c :: cs ∧ startsName c = true := by
  cases name with
  | nil => cases h
  | cons c cs =>
      rw [isName, Bool.and_eq_true, List.head?_cons, Option.any_some] at h
      exact ⟨c, cs, rfl, h.1⟩

theorem isName_all (h : isName name = true) : ∀ c ∈ name, isNameChar c = true := by
  rw [isName, Bool.and_eq_true] at h
  exact List.all_eq_true.mp h.2

theorem isName_of_label (h : isLabelName name = true) : isName name = true := by
  rw [isLabelName, Bool.and_eq_true] at h
  exact h.1

/-- No character of a name is a blank or a line feed. -/
theorem nameChar_plain {c : Char} (h : isNameChar c = true) : isBlank c = false ∧ c ≠ '\n' := by
  constructor
  · cases hblank : isBlank c with
    | false => rfl
    | true =>
        have hc : c = ' ' ∨ c = '\t' := by simpa [isBlank] using hblank
        rcases hc with rfl | rfl <;> revert h <;> decide
  · rintro rfl
    revert h
    decide

/-- A name is read up to what is no part of a name. -/
theorem readName_append (hname : isName name = true)
    (hrest : rest.head?.all fun c => !isNameChar c) :
    readName (name ++ rest) = some (name, rest) := by
  have hall := isName_all hname
  have hstop : rest.takeWhile isNameChar = [] ∧ rest.dropWhile isNameChar = rest := by
    cases rest with
    | nil => exact ⟨rfl, rfl⟩
    | cons c rest =>
        have hc : isNameChar c = false := by simpa using hrest
        rw [List.takeWhile_cons, List.dropWhile_cons, hc]
        exact ⟨rfl, rfl⟩
  rw [readName, List.takeWhile_append_of_pos hall, List.dropWhile_append_of_pos hall, hstop.1,
    hstop.2, List.append_nil]
  exact if_pos hname

end

/-! ## Labels -/

/-- A character is read as it is written inside quotes. -/
theorem readText_escape (c : Char) (rest : List Char) :
    readText (Sample.escape c ++ rest) = (readText rest).map fun r => (c :: r.1, r.2) := by
  unfold Sample.escape
  split
  · next h => rw [h]; rfl
  split
  · next h => rw [h]; rfl
  split
  · next h => rw [h]; rfl
  · next hslash hquote hfeed =>
    rw [List.singleton_append, readText]
    · exact hquote
    · exact fun _ h => absurd h hslash
    · exact fun _ h => absurd h hslash
    · exact fun _ h => absurd h hslash
    · exact hslash

/-- A text is read as it is written between quotes, whatever its characters are. -/
theorem readText_write (cs rest : List Char) :
    readText (cs.flatMap Sample.escape ++ '"' :: rest) = some (cs, rest) := by
  induction cs with
  | nil => rfl
  | cons c cs ih =>
      rw [List.flatMap_cons, List.append_assoc, readText_escape, ih]
      rfl

theorem toList_writeLabel (label : String × String) : (Sample.writeLabel label).toList =
    label.1.toList ++ '=' :: '"' :: (label.2.toList.flatMap Sample.escape ++ ['"']) := by
  simp [Sample.writeLabel]

/-- A label is read as it is written. -/
theorem readLabel_append {label : String × String} (hname : isLabelName label.1.toList = true)
    {rest : List Char} (hrest : rest.head?.all fun c => !isBlank c) :
    readLabel ((Sample.writeLabel label).toList ++ rest) = some (label, rest) := by
  rw [toList_writeLabel, List.append_assoc, readLabel,
    readName_append (isName_of_label hname) rfl]
  have hequals : ∀ rest : List Char, skipBlanks ('=' :: rest) = '=' :: rest := fun _ => rfl
  have hopen : ∀ rest : List Char, skipBlanks ('"' :: rest) = '"' :: rest := fun _ => rfl
  simp only [Option.bind_eq_bind, Option.bind_some, hname, if_true, List.cons_append, hequals,
    hopen, List.append_assoc, List.nil_append, readText_write, skipBlanks_eq hrest,
    String.ofList_toList]

/-- The characters between the braces of a sample. -/
def labelChars (labels : List (String × String)) : List Char :=
  (",".intercalate (labels.map Sample.writeLabel)).toList

theorem labelChars_singleton (label : String × String) :
    labelChars [label] = (Sample.writeLabel label).toList := by
  simp [labelChars]

theorem labelChars_cons (label next : String × String) (labels : List (String × String)) :
    labelChars (label :: next :: labels) =
      (Sample.writeLabel label).toList ++ ',' :: labelChars (next :: labels) := by
  simp [labelChars, String.toList_intercalate, List.intercalate]

/-- Labels begin with the name of the first one. -/
theorem labelChars_head {label : String × String} (hname : isLabelName label.1.toList = true)
    (labels : List (String × String)) :
    ∃ c cs, labelChars (label :: labels) = c :: cs ∧ startsName c = true := by
  obtain ⟨c, cs, hcs, hc⟩ := isName_head (isName_of_label hname)
  have hlabel : ∃ cs', (Sample.writeLabel label).toList = c :: cs' := by
    rw [toList_writeLabel, hcs]
    exact ⟨_, rfl⟩
  obtain ⟨cs', hcs'⟩ := hlabel
  cases labels with
  | nil => exact ⟨c, cs', by rw [labelChars_singleton, hcs'], hc⟩
  | cons next labels =>
      refine ⟨c, cs' ++ ',' :: labelChars (next :: labels), ?_, hc⟩
      rw [labelChars_cons, hcs']
      rfl

/-- What a name begins with is no blank and no mark. -/
theorem startsName_plain {c : Char} (h : startsName c = true) :
    isBlank c = false ∧ c ≠ '\x7d' ∧ c ≠ '#' := by
  have hname : isNameChar c = true := by rw [isNameChar, h]; rfl
  refine ⟨(nameChar_plain hname).1, ?_, ?_⟩
  · rintro rfl
    revert h
    decide
  · rintro rfl
    revert h
    decide

/-- After a label either the braces are closed or there is another one. -/
theorem readLabels_succ (fuel : Nat) {c : Char} (cs : List Char) (hc : startsName c = true) :
    readLabels (fuel + 1) (c :: cs) =
      match readLabel (c :: cs) with
      | some (label, '\x7d' :: rest) => some ([label], rest)
      | some (label, ',' :: rest) => (readLabels fuel rest).map fun r => (label :: r.1, r.2)
      | _ => none := by
  have hblank : isBlank c = false := (startsName_plain hc).1
  have hopen : skipBlanks (c :: cs) = c :: cs := skipBlanks_eq (by simpa using hblank)
  rw [readLabels, hopen]
  split
  · next heq => exact absurd (List.cons.inj heq).1 (startsName_plain hc).2.1
  · rfl

/-- Labels are read as they are written. -/
theorem readLabels_append {labels : List (String × String)} (hne : labels ≠ [])
    (hnames : ∀ label ∈ labels, isLabelName label.1.toList = true) {fuel : Nat}
    (hfuel : labels.length ≤ fuel) (rest : List Char) :
    readLabels fuel (labelChars labels ++ '\x7d' :: rest) = some (labels, rest) := by
  induction labels generalizing fuel with
  | nil => exact absurd rfl hne
  | cons label labels ih =>
      obtain ⟨fuel, rfl⟩ := Nat.exists_eq_add_of_le' (Nat.one_le_of_lt hfuel)
      obtain ⟨hname, hrest⟩ := List.forall_mem_cons.mp hnames
      obtain ⟨c, cs, hcs, hc⟩ := labelChars_head hname labels
      have hstep := readLabels_succ fuel (cs ++ '\x7d' :: rest) hc
      rw [← List.cons_append, ← hcs] at hstep
      rw [hstep]
      cases labels with
      | nil =>
          rw [labelChars_singleton, readLabel_append hname rfl]
          rfl
      | cons next labels =>
          rw [labelChars_cons, List.append_assoc, List.cons_append, readLabel_append hname rfl]
          have hmore := ih (List.cons_ne_nil next labels) hrest (Nat.le_of_succ_le_succ hfuel)
          exact congrArg (Option.map fun r => (label :: r.1, r.2)) hmore

theorem length_le_labelChars (labels : List (String × String)) :
    labels.length ≤ (labelChars labels).length := by
  have hlabel : ∀ label, 1 ≤ (Sample.writeLabel label).toList.length := by
    intro label
    rw [toList_writeLabel, List.length_append, List.length_cons]
    omega
  induction labels with
  | nil => exact Nat.zero_le _
  | cons label labels ih =>
      have hfirst := hlabel label
      cases labels with
      | nil => rwa [labelChars_singleton]
      | cons next labels =>
          simp only [labelChars_cons, List.length_append, List.length_cons] at ih ⊢
          omega

/-! ## Samples -/

/-- What stands in a number. -/
def isValueChar (c : Char) : Bool := c.isAlphanum || c == '.' || c == '-' || c == '+'

/-- A value that is a number. -/
structure PlainValue (value : String) : Prop where
  number : isNumber value = true
  chars : ∀ c ∈ value.toList, isValueChar c = true

/-- A sample whose names are names and whose value is a number. -/
structure PlainSample (s : Sample) : Prop where
  name : isName s.name.toList = true
  labels : ∀ label ∈ s.labels, isLabelName label.1.toList = true
  distinct : (s.labels.map Prod.fst).Nodup
  value : PlainValue s.value

/-- The characters of the line of a sample. -/
def sampleChars (s : Sample) : List Char :=
  s.name.toList ++ ((Sample.writeLabels s.labels).toList ++ ' ' :: s.value.toList)

theorem toList_write (s : Sample) : s.write.toList = sampleChars s ++ ['\n'] := by
  simp [Sample.write, sampleChars]

theorem valueChar_plain {c : Char} (h : isValueChar c = true) :
    isBlank c = false ∧ c ≠ '\n' ∧ c ≠ '\x7b' := by
  refine ⟨?_, ?_, ?_⟩
  · cases hblank : isBlank c with
    | false => rfl
    | true =>
        have hc : c = ' ' ∨ c = '\t' := by simpa [isBlank] using hblank
        rcases hc with rfl | rfl <;> revert h <;> decide
  · rintro rfl
    revert h
    decide
  · rintro rfl
    revert h
    decide

theorem toList_writeLabels (label : String × String) (labels : List (String × String)) :
    (Sample.writeLabels (label :: labels)).toList =
      '\x7b' :: (labelChars (label :: labels) ++ ['\x7d']) := by
  simp [Sample.writeLabels, labelChars]

/-- Labels are read as they are written, with braces only if there are any. -/
theorem readBraces_write {labels : List (String × String)}
    (hnames : ∀ label ∈ labels, isLabelName label.1.toList = true) {value : List Char}
    (hvalue : ∀ c ∈ value, isValueChar c = true) :
    ∃ rest, readBraces ((Sample.writeLabels labels).toList ++ ' ' :: value) = some (labels, rest) ∧
      skipBlanks rest = value := by
  have hskip : skipBlanks value = value := by
    refine skipBlanks_eq ?_
    cases value with
    | nil => rfl
    | cons c cs => simpa using (valueChar_plain (hvalue c List.mem_cons_self)).1
  have hspace : skipBlanks (' ' :: value) = value := hskip
  cases labels with
  | nil =>
      refine ⟨value, ?_, hskip⟩
      have hempty : (Sample.writeLabels []).toList = [] := rfl
      rw [hempty, List.nil_append, readBraces, hspace]
      split
      · have hbrace := hvalue '\x7b' List.mem_cons_self
        exact absurd rfl (valueChar_plain hbrace).2.2
      · rfl
  | cons label labels =>
      refine ⟨' ' :: value, ?_, hspace⟩
      have hbrace : ∀ cs : List Char, readBraces ('\x7b' :: cs) = readLabels (cs.length + 1) cs :=
        fun _ => rfl
      rw [toList_writeLabels, List.cons_append, hbrace, List.append_assoc, List.singleton_append]
      refine readLabels_append (List.cons_ne_nil label labels) hnames ?_ (' ' :: value)
      have hlength := length_le_labelChars (label :: labels)
      rw [List.length_append]
      omega

/-- A sample is read as it is written. -/
theorem readSample_write {s : Sample} (hs : PlainSample s) :
    readSample (sampleChars s) = some s := by
  obtain ⟨rest, hbraces, hrest⟩ := readBraces_write hs.labels hs.value.chars
  have hstop : ((Sample.writeLabels s.labels).toList ++ ' ' :: s.value.toList).head?.all
      fun c => !isNameChar c := by
    cases s.labels with
    | nil => rfl
    | cons label labels =>
        rw [toList_writeLabels]
        rfl
  have hword : word s.value.toList = (s.value.toList, []) :=
    word_last fun c hc => (valueChar_plain (hs.value.chars c hc)).1
  rw [readSample, sampleChars, readName_append hs.name hstop]
  simp only [Option.bind_eq_bind, Option.bind_some, hbraces, hrest, hword, String.ofList_toList,
    hs.distinct, hs.value.number]
  rfl

end HealthWatch.Exposition
