import HealthWatch.Json.Reader
import Mathlib.Data.List.Forall2
import Mathlib.Data.List.TakeWhile

/-!
# Reading what was written

A value that is written and read again is the same value, whatever follows it in the text
(`Value.Readable.isRead`).  This is seen part by part: a text by its characters, each of which is
written as one piece of a string (`pieces_escape`); a number by the parts of a `Numeral`,
which no character that may follow a value goes on with (`readNumber_append`); and a list or
an object by its items, as they are joined by commas.  The recursion of the reader is bounded
by the length of the text, so the bound of `read` suffices for all of it.
-/

namespace HealthWatch.Json

/-! ## Texts -/

/-- The pieces that a character is read as: itself, or its number if it is a control. -/
inductive Stands : Piece → Char → Prop where
  | char (c : Char) : Stands (.char c) c
  | unit (c : Char) (hc : c.toNat < 0x20) : Stands (.unit c.toNat) c

theorem hexUnit_control : ∀ n < 0x20,
    hexUnit? '0' '0' (Nat.digitChar (n / 16)) (Nat.digitChar (n % 16)) = some n := by decide

/-- A character is written as one piece of a string. -/
theorem pieces_escape (c : Char) : ∃ p, Stands p c ∧ ∀ rest : List Char,
    pieces (escape c ++ rest) = (pieces rest).map fun r => (p :: r.1, r.2) := by
  unfold escape
  split
  · next h => exact ⟨.char c, .char c, fun rest => by subst h; rfl⟩
  split
  · next h => exact ⟨.char c, .char c, fun rest => by subst h; rfl⟩
  split
  · next h => exact ⟨.char c, .char c, fun rest => by subst h; rfl⟩
  split
  · next h => exact ⟨.char c, .char c, fun rest => by subst h; rfl⟩
  split
  · next h => exact ⟨.char c, .char c, fun rest => by subst h; rfl⟩
  split
  · next h => exact ⟨.char c, .char c, fun rest => by subst h; rfl⟩
  split
  · next h => exact ⟨.char c, .char c, fun rest => by subst h; rfl⟩
  split
  · next hc =>
    refine ⟨.unit c.toNat, .unit c hc, fun rest => ?_⟩
    simp only [List.cons_append, List.nil_append]
    rw [pieces, hexUnit_control c.toNat hc]
  · next hquote hslash _ _ _ _ _ hc =>
    refine ⟨.char c, .char c, fun rest => ?_⟩
    rw [List.singleton_append, pieces, if_neg]
    · simp [hc, hslash]
    · exact hquote
    · exact fun _ _ _ _ _ h => absurd h hslash
    · exact fun _ _ h => absurd h hslash

theorem join_of_stands {ps : List Piece} {cs : List Char} (h : List.Forall₂ Stands ps cs) :
    join ps = some cs := by
  induction h with
  | nil => rfl
  | @cons p c ps cs hp hrest ih =>
      cases hp with
      | char => rw [join, ih, Option.map_some]
      | unit _ hc =>
          have hleading : isLeading c.toNat = false := by
            simp only [isLeading, Bool.and_eq_false_iff, decide_eq_false_iff_not]
            omega
          have htrailing : isTrailing c.toNat = false := by
            simp only [isTrailing, Bool.and_eq_false_iff, decide_eq_false_iff_not]
            omega
          -- the reader looks whether another unit follows
          cases hrest with
          | nil => simp [join, hleading, htrailing]
          | cons hnext _ =>
              cases hnext <;> simp [join, hleading, htrailing] <;> simpa [join] using ih

theorem readString_escape (cs rest : List Char) :
    readString (cs.flatMap escape ++ '"' :: rest) = some (some (String.ofList cs), rest) := by
  have hpieces : ∃ ps, List.Forall₂ Stands ps cs ∧
      pieces (cs.flatMap escape ++ '"' :: rest) = some (ps, rest) := by
    induction cs with
    | nil => exact ⟨[], .nil, rfl⟩
    | cons c cs ih =>
        obtain ⟨ps, hstands, hps⟩ := ih
        obtain ⟨p, hp, hescape⟩ := pieces_escape c
        refine ⟨p :: ps, .cons hp hstands, ?_⟩
        rw [List.flatMap_cons, List.append_assoc, hescape, hps, Option.map_some]
  obtain ⟨ps, hstands, hps⟩ := hpieces
  rw [readString, hps, Option.map_some, join_of_stands hstands, Option.map_some]

/-! ## Numbers -/

/-- One or more digits. -/
structure Digits where
  chars : List Char
  ne_nil : chars ≠ []
  all_digits : ∀ c ∈ chars, c.isDigit = true

/-- A number as it is spelled: its sign, its whole part without needless zeros, its decimals
and its power of ten, whose own sign is spelled out. -/
structure Numeral where
  negative : Bool
  whole : Digits
  canonical : whole.chars = ['0'] ∨ whole.chars.head? ≠ some '0'
  decimals : Option Digits
  power : Option (Bool × Digits)

/-- The decimals with their point. -/
def Numeral.pointChars (n : Numeral) : List Char :=
  match n.decimals with
  | some ds => '.' :: ds.chars
  | none => []

/-- The power of ten with its mark. -/
def Numeral.powerChars (n : Numeral) : List Char :=
  match n.power with
  | some (negative, ds) => 'e' :: (if negative then '-' else '+') :: ds.chars
  | none => []

/-- The characters of a numeral. -/
def Numeral.chars (n : Numeral) : List Char :=
  (if n.negative then ['-'] else []) ++ n.whole.chars ++ n.pointChars ++ n.powerChars

/-- What may follow a value in a text: nothing that a number would go on with. -/
def Ends (rest : List Char) : Prop :=
  ∀ c ∈ rest.head?, c.isDigit = false ∧ c ≠ '.' ∧ c ≠ 'e' ∧ c ≠ 'E'

section Span

variable (d : Digits) {rest : List Char} (h : ∀ c ∈ rest.head?, c.isDigit = false)
include h

/-- Digits are taken up to what is no digit. -/
theorem Digits.takeWhile_append : (d.chars ++ rest).takeWhile Char.isDigit = d.chars := by
  rw [List.takeWhile_append_of_pos d.all_digits]
  cases rest with
  | nil => simp
  | cons c rest => simp [h c rfl]

theorem Digits.dropWhile_append : (d.chars ++ rest).dropWhile Char.isDigit = rest := by
  rw [List.dropWhile_append_of_pos d.all_digits]
  cases rest with
  | nil => rfl
  | cons c rest => simp [h c rfl]

theorem digits1_append : digits1 (d.chars ++ rest) = some (d.chars, rest) := by
  unfold digits1
  rw [d.takeWhile_append h, d.dropWhile_append h]
  split
  · next hnil => exact absurd hnil d.ne_nil
  · rfl

end Span

theorem wholePart_append (d : Digits) (hd : d.chars = ['0'] ∨ d.chars.head? ≠ some '0')
    {rest : List Char} (h : ∀ c ∈ rest.head?, c.isDigit = false) :
    wholePart (d.chars ++ rest) = some (d.chars, rest) := by
  rcases hd with hzero | hhead
  · rw [hzero]
    rfl
  · unfold wholePart
    split
    · next rest' heq =>
      obtain ⟨c, cs, hcs⟩ := List.exists_cons_of_ne_nil d.ne_nil
      rw [hcs] at heq hhead
      injection heq with hc
      rw [hc] at hhead
      exact absurd rfl hhead
    · exact digits1_append d h

theorem exponentPart_append (n : Numeral) {rest : List Char} (h : Ends rest) :
    exponentPart (n.powerChars ++ rest) = some (n.powerChars, rest) := by
  have hdigit : ∀ c ∈ rest.head?, c.isDigit = false := fun c hc => (h c hc).1
  unfold Numeral.powerChars
  split
  · next negative ds _ =>
    have hds := digits1_append ds hdigit
    cases negative <;> simp [exponentPart, hds]
  · cases rest with
    | nil => rfl
    | cons c rest =>
        obtain ⟨_, _, he, hE⟩ := h c rfl
        simp [exponentPart, he, hE]

theorem decimals_append (n : Numeral) {rest : List Char} (h : Ends rest) :
    decimals (n.pointChars ++ (n.powerChars ++ rest)) =
      some (n.pointChars, n.powerChars ++ rest) := by
  have hends : ∀ c ∈ (n.powerChars ++ rest).head?, c.isDigit = false ∧ c ≠ '.' := by
    unfold Numeral.powerChars
    split
    · intro c hc
      obtain rfl : 'e' = c := by simpa using hc
      decide
    · exact fun c hc => ⟨(h c hc).1, (h c hc).2.1⟩
  unfold Numeral.pointChars
  split
  · next ds _ =>
    have hds := digits1_append ds fun c hc => (hends c hc).1
    simp [decimals, hds]
  · rw [List.nil_append]
    unfold decimals
    split
    · next rest' heq =>
      rw [heq] at hends
      exact absurd rfl (hends '.' rfl).2
    · rfl

/-- A number is read up to what cannot go on with it. -/
theorem readNumber_append (n : Numeral) {rest : List Char} (h : Ends rest) :
    readNumber (n.chars ++ rest) = some (String.ofList n.chars, rest) := by
  have hends : ∀ c ∈ (n.pointChars ++ (n.powerChars ++ rest)).head?, c.isDigit = false := by
    unfold Numeral.pointChars Numeral.powerChars
    intro c hc
    split at hc
    · obtain rfl : '.' = c := by simpa using hc
      decide
    · split at hc
      · obtain rfl : 'e' = c := by simpa using hc
        decide
      · exact (h c hc).1
  have hwhole := wholePart_append n.whole n.canonical hends
  have hdecimals := decimals_append n h
  have hexponent := exponentPart_append n h
  unfold readNumber Numeral.chars
  cases n.negative
  · have hfirst : ∀ cs, n.whole.chars ++ (n.pointChars ++ (n.powerChars ++ rest)) ≠ '-' :: cs := by
      intro cs heq
      obtain ⟨c, more, hcs⟩ := List.exists_cons_of_ne_nil n.whole.ne_nil
      have hdigit := n.whole.all_digits c (hcs ▸ List.mem_cons_self)
      rw [hcs] at heq
      injection heq with hc
      rw [hc] at hdigit
      exact absurd hdigit (by decide)
    simp [hwhole, hdecimals, hexponent]
  · simp [hwhole, hdecimals, hexponent]

/-! ## Values -/

/-- A value that is read again as what it is: its numbers are numerals, and its strings stand
for texts. -/
inductive Value.Readable : Value → Prop where
  | null : Value.Readable .null
  | bool (b : Bool) : Value.Readable (.bool b)
  | number (n : Numeral) : Value.Readable (.number (String.ofList n.chars))
  | text (s : String) : Value.Readable (.text (some s))
  | list {items : List Value} (hitems : ∀ v ∈ items, v.Readable) : Value.Readable (.list items)
  | object {fields : List (Option String × Value)} (hnames : ∀ f ∈ fields, f.1.isSome = true)
      (hvalues : ∀ f ∈ fields, f.2.Readable) : Value.Readable (.object fields)

theorem toList_quote (s : String) :
    (quote s).toList = '"' :: (s.toList.flatMap escape ++ ['"']) := by
  simp [quote]

/-- The characters between the brackets of a list. -/
def itemChars (items : List Value) : List Char := (commaSeparated (writeItems items)).toList

theorem itemChars_singleton (v : Value) : itemChars [v] = v.write.toList := by
  simp [itemChars, writeItems, commaSeparated]

theorem itemChars_cons (v w : Value) (items : List Value) :
    itemChars (v :: w :: items) = v.write.toList ++ ',' :: itemChars (w :: items) := by
  simp [itemChars, writeItems, commaSeparated, String.toList_intercalate, List.intercalate]

/-- The characters between the braces of an object. -/
def fieldChars (fields : List (Option String × Value)) : List Char :=
  (commaSeparated (writeFields fields)).toList

theorem fieldChars_singleton (name : Option String) (v : Value) :
    fieldChars [(name, v)] = (quote (name.getD "")).toList ++ ':' :: v.write.toList := by
  simp [fieldChars, writeFields, commaSeparated]

theorem fieldChars_cons (name : Option String) (v : Value) (f : Option String × Value)
    (fields : List (Option String × Value)) :
    fieldChars ((name, v) :: f :: fields) =
      (quote (name.getD "")).toList ++ ':' :: (v.write.toList ++ ',' :: fieldChars (f :: fields)) := by
  simp [fieldChars, writeFields, commaSeparated, String.toList_intercalate, List.intercalate]

theorem write_list (items : List Value) :
    (Value.list items).write.toList = '[' :: (itemChars items ++ [']']) := by
  simp [Value.write, itemChars]

theorem write_object (fields : List (Option String × Value)) :
    (Value.object fields).write.toList = '\x7b' :: (fieldChars fields ++ ['\x7d']) := by
  simp [Value.write, fieldChars]

/-- The first character of a numeral. -/
theorem Numeral.chars_head (n : Numeral) :
    ∃ c cs, n.chars = c :: cs ∧ (c = '-' ∨ c.isDigit = true) := by
  obtain ⟨c, cs, hcs⟩ := List.exists_cons_of_ne_nil n.whole.ne_nil
  have hdigit := n.whole.all_digits c (hcs ▸ List.mem_cons_self)
  unfold Numeral.chars
  cases n.negative
  · exact ⟨c, cs ++ n.pointChars ++ n.powerChars, by simp [hcs], .inr hdigit⟩
  · exact ⟨'-', c :: cs ++ n.pointChars ++ n.powerChars, by simp [hcs], .inl rfl⟩

/-- A value begins with a character that is no blank and ends nothing. -/
theorem Value.write_head {v : Value} (h : v.Readable) :
    ∃ c cs, v.write.toList = c :: cs ∧ isBlank c = false ∧ c ≠ ']' ∧ c ≠ '\x7d' := by
  cases h with
  | null => exact ⟨'n', _, rfl, by decide⟩
  | bool b =>
      cases b
      · exact ⟨'f', _, rfl, by decide⟩
      · exact ⟨'t', _, rfl, by decide⟩
  | number n =>
      obtain ⟨c, cs, hcs, hc⟩ := n.chars_head
      refine ⟨c, cs, by rw [write, String.toList_ofList, hcs], ?_⟩
      rcases hc with rfl | hdigit
      · decide
      · have hother : ∀ d : Char, d.isDigit = false → c ≠ d := by
          rintro d hd rfl
          rw [hdigit] at hd
          cases hd
        have hblank : isBlank c = false := by
          simp [isBlank, hother ' ' (by decide), hother '\t' (by decide),
            hother '\n' (by decide), hother '\r' (by decide)]
        exact ⟨hblank, hother _ (by decide), hother _ (by decide)⟩
  | text s => exact ⟨'"', _, by rw [write, toList_quote], by decide⟩
  | list => exact ⟨'[', _, write_list _, by decide⟩
  | object => exact ⟨'\x7b', _, write_object _, by decide⟩

theorem skipBlanks_cons {c : Char} (h : isBlank c = false) (cs : List Char) :
    skipBlanks (c :: cs) = c :: cs := by
  simp [skipBlanks, h]

/-! ## Reading values -/

/-- What may follow an item may follow a value. -/
theorem ends_cons {c : Char} (cs : List Char)
    (h : c.isDigit = false ∧ c ≠ '.' ∧ c ≠ 'e' ∧ c ≠ 'E') : Ends (c :: cs) := by
  intro d hd
  obtain rfl : c = d := by simpa using hd
  exact h

/-- A value is read from what it is written as, up to its end. -/
def Value.IsRead (v : Value) : Prop :=
  ∀ (fuel : Nat) (rest : List Char), 2 * v.write.toList.length ≤ fuel → Ends rest →
    readValue fuel (v.write.toList ++ rest) = some (v, rest)

theorem readValue_number (fuel : Nat) (n : Numeral) {rest : List Char} (h : Ends rest) :
    readValue (fuel + 1) (n.chars ++ rest) = some (.number (String.ofList n.chars), rest) := by
  obtain ⟨c, cs, hcs, hblank, _, _⟩ := Value.write_head (.number n)
  rw [Value.write, String.toList_ofList] at hcs
  have hother : ∀ d : Char, d.isDigit = false → d ≠ '-' → ∀ more, n.chars ++ rest ≠ d :: more := by
    intro d hd hminus more heq
    obtain ⟨c, cs, hcs, hc⟩ := n.chars_head
    rw [hcs] at heq
    injection heq with hcd
    rcases hc with rfl | hdigit
    · exact hminus hcd.symm
    · rw [← hcd, hdigit] at hd
      cases hd
  have hskip : skipBlanks (n.chars ++ rest) = n.chars ++ rest := by
    rw [hcs]
    exact skipBlanks_cons hblank _
  rw [readValue, hskip]
  split
  case h_7 => rw [readNumber_append n h, Option.map_some]
  all_goals
    next heq => exact absurd heq (hother _ (by decide) (by decide) _)

theorem readValue_quote (fuel : Nat) (s : String) (rest : List Char) :
    readValue (fuel + 1) ((quote s).toList ++ rest) = some (.text (some s), rest) := by
  have hquote : readValue (fuel + 1) ((quote s).toList ++ rest) =
      (readString (s.toList.flatMap escape ++ '"' :: rest)).map fun r => (.text r.1, r.2) := by
    rw [toList_quote, List.cons_append, List.append_assoc, List.singleton_append, readValue]
    rfl
  rw [hquote, readString_escape, Option.map_some, String.ofList_toList]

/-- Items are read up to the end of their list. -/
theorem readItems_append {item : Value} {items : List Value}
    (h : ∀ v ∈ item :: items, v.IsRead) {fuel : Nat} (rest : List Char)
    (hfuel : 2 * (itemChars (item :: items)).length < fuel) :
    readItems fuel (itemChars (item :: items) ++ ']' :: rest) = some (item :: items, rest) := by
  induction items generalizing item fuel with
  | nil =>
      obtain ⟨fuel, rfl⟩ := Nat.exists_eq_succ_of_ne_zero (Nat.ne_zero_of_lt hfuel)
      rw [itemChars_singleton] at hfuel ⊢
      have hread := h item List.mem_cons_self fuel (']' :: rest)
        (Nat.le_of_lt_succ hfuel) (ends_cons _ (by decide))
      rw [readItems, hread]
      rfl
  | cons w items ih =>
      obtain ⟨fuel, rfl⟩ := Nat.exists_eq_succ_of_ne_zero (Nat.ne_zero_of_lt hfuel)
      rw [itemChars_cons, List.length_append, List.length_cons] at hfuel
      have hread := h item List.mem_cons_self fuel
        (',' :: (itemChars (w :: items) ++ ']' :: rest)) (by omega)
        (ends_cons _ (by decide))
      have hmore : readItems fuel (itemChars (w :: items) ++ ']' :: rest) =
          some (w :: items, rest) :=
        ih (fun v hv => h v (List.mem_cons_of_mem _ hv)) (by omega)
      rw [itemChars_cons, List.append_assoc, List.cons_append, readItems, hread]
      show (readItems fuel (itemChars (w :: items) ++ ']' :: rest)).map _ = _
      rw [hmore, Option.map_some]

theorem skipBlanks_quote (name : String) (cs : List Char) :
    skipBlanks ((quote name).toList ++ ':' :: cs) =
      '"' :: (name.toList.flatMap escape ++ '"' :: ':' :: cs) := by
  rw [toList_quote, List.cons_append, List.append_assoc]
  exact skipBlanks_cons (by decide) _

section Field

variable {fuel : Nat} (name : String) {v : Value} {cs rest : List Char}

theorem readFields_last (h : readValue fuel cs = some (v, '\x7d' :: rest)) :
    readFields (fuel + 1) ((quote name).toList ++ ':' :: cs) = some ([(some name, v)], rest) := by
  have hcolon : skipBlanks (':' :: cs) = ':' :: cs := skipBlanks_cons (by decide) cs
  have hbrace : skipBlanks ('\x7d' :: rest) = '\x7d' :: rest := skipBlanks_cons (by decide) rest
  simp only [readFields, skipBlanks_quote, readString_escape, String.ofList_toList, hcolon, h,
    hbrace]

theorem readFields_next (h : readValue fuel cs = some (v, ',' :: rest)) :
    readFields (fuel + 1) ((quote name).toList ++ ':' :: cs) =
      (readFields fuel rest).map fun r => ((some name, v) :: r.1, r.2) := by
  have hcolon : skipBlanks (':' :: cs) = ':' :: cs := skipBlanks_cons (by decide) cs
  have hcomma : skipBlanks (',' :: rest) = ',' :: rest := skipBlanks_cons (by decide) rest
  simp only [readFields, skipBlanks_quote, readString_escape, String.ofList_toList, hcolon, h,
    hcomma]

end Field

/-- Fields are read up to the end of their object. -/
theorem readFields_append {field : Option String × Value} {fields : List (Option String × Value)}
    (hnames : ∀ f ∈ field :: fields, f.1.isSome = true)
    (hvalues : ∀ f ∈ field :: fields, f.2.IsRead) {fuel : Nat} (rest : List Char)
    (hfuel : 2 * (fieldChars (field :: fields)).length < fuel) :
    readFields fuel (fieldChars (field :: fields) ++ '\x7d' :: rest) =
      some (field :: fields, rest) := by
  induction fields generalizing field fuel with
  | nil =>
      obtain ⟨fuel, rfl⟩ := Nat.exists_eq_succ_of_ne_zero (Nat.ne_zero_of_lt hfuel)
      obtain ⟨name, v⟩ := field
      obtain ⟨name, rfl⟩ := Option.isSome_iff_exists.mp (hnames _ List.mem_cons_self)
      rw [fieldChars_singleton, List.length_append, List.length_cons] at hfuel
      have hread := hvalues (some name, v) List.mem_cons_self fuel ('\x7d' :: rest)
        (by dsimp only; omega) (ends_cons _ (by decide))
      rw [fieldChars_singleton, Option.getD_some, List.append_assoc, List.cons_append,
        readFields_last name hread]
  | cons f fields ih =>
      obtain ⟨fuel, rfl⟩ := Nat.exists_eq_succ_of_ne_zero (Nat.ne_zero_of_lt hfuel)
      obtain ⟨name, v⟩ := field
      obtain ⟨name, rfl⟩ := Option.isSome_iff_exists.mp (hnames _ List.mem_cons_self)
      rw [fieldChars_cons, List.length_append, List.length_cons, List.length_append,
        List.length_cons] at hfuel
      have hread := hvalues (some name, v) List.mem_cons_self fuel
        (',' :: (fieldChars (f :: fields) ++ '\x7d' :: rest)) (by dsimp only; omega)
        (ends_cons _ (by decide))
      have hmore : readFields fuel (fieldChars (f :: fields) ++ '\x7d' :: rest) =
          some (f :: fields, rest) :=
        ih (fun x hx => hnames x (List.mem_cons_of_mem _ hx))
          (fun x hx => hvalues x (List.mem_cons_of_mem _ hx)) (by omega)
      rw [fieldChars_cons, Option.getD_some, List.append_assoc, List.cons_append,
        List.append_assoc, List.cons_append, readFields_next name hread, hmore, Option.map_some]

theorem itemChars_head {item : Value} (items : List Value) (h : item.Readable) :
    ∃ c cs, itemChars (item :: items) = c :: cs ∧ isBlank c = false ∧ c ≠ ']' := by
  obtain ⟨c, cs, hcs, hblank, hend, _⟩ := Value.write_head h
  cases items with
  | nil => exact ⟨c, cs, by rw [itemChars_singleton, hcs], hblank, hend⟩
  | cons w items => exact ⟨c, _, by rw [itemChars_cons, hcs, List.cons_append], hblank, hend⟩

theorem fieldChars_head (field : Option String × Value) (fields : List (Option String × Value)) :
    ∃ cs, fieldChars (field :: fields) = '"' :: cs := by
  obtain ⟨name, value⟩ := field
  cases fields with
  | nil => exact ⟨_, by rw [fieldChars_singleton, toList_quote, List.cons_append]⟩
  | cons f fields => exact ⟨_, by rw [fieldChars_cons, toList_quote, List.cons_append]⟩

theorem readValue_bracket (fuel : Nat) {c : Char} (cs : List Char) (hc : isBlank c = false)
    (hend : c ≠ ']') : readValue (fuel + 1) ('[' :: c :: cs) =
      (readItems fuel (c :: cs)).map fun r => (.list r.1, r.2) := by
  have hskip : skipBlanks ('[' :: c :: cs) = '[' :: c :: cs := skipBlanks_cons (by decide) _
  simp only [readValue, hskip, skipBlanks_cons hc]
  split
  · next heq => exact absurd (List.cons.inj heq).1 hend
  · rfl

theorem readValue_brace (fuel : Nat) (cs : List Char) :
    readValue (fuel + 1) ('\x7b' :: '"' :: cs) =
      (readFields fuel ('"' :: cs)).map fun r => (.object r.1, r.2) := by
  rw [readValue]
  rfl

/-- A value that can be read is read from what it is written as. -/
theorem Value.Readable.isRead {v : Value} (h : v.Readable) : v.IsRead := by
  have hpos : ∀ {v : Value}, v.Readable → ∀ {fuel}, 2 * v.write.toList.length ≤ fuel →
      ∃ less, fuel = less + 1 := by
    intro v hv fuel hfuel
    obtain ⟨c, cs, hcs, _⟩ := write_head hv
    rw [hcs, List.length_cons] at hfuel
    exact ⟨fuel - 1, by omega⟩
  induction h with
  | null =>
      intro fuel rest hfuel _
      obtain ⟨fuel, rfl⟩ := hpos .null hfuel
      rw [readValue]
      rfl
  | bool b =>
      intro fuel rest hfuel _
      obtain ⟨fuel, rfl⟩ := hpos (.bool b) hfuel
      rw [readValue]
      cases b <;> rfl
  | number n =>
      intro fuel rest hfuel hrest
      obtain ⟨fuel, rfl⟩ := hpos (.number n) hfuel
      rw [write, String.toList_ofList]
      exact readValue_number fuel n hrest
  | text s =>
      intro fuel rest hfuel _
      obtain ⟨fuel, rfl⟩ := hpos (.text s) hfuel
      rw [write, Option.getD_some]
      exact readValue_quote fuel s rest
  | @list items hitems ih =>
      intro fuel rest hfuel _
      obtain ⟨fuel, rfl⟩ := hpos (.list hitems) hfuel
      cases items with
      | nil =>
          rw [readValue]
          rfl
      | cons item items =>
          rw [write_list, List.length_cons, List.length_append] at hfuel
          have hread : readItems fuel _ = _ := readItems_append ih rest (by omega)
          obtain ⟨c, cs, hcs, hblank, hend⟩ := itemChars_head items (hitems item List.mem_cons_self)
          rw [hcs, List.cons_append] at hread
          rw [write_list, hcs, List.cons_append, List.cons_append, List.cons_append,
            List.append_assoc, List.singleton_append, readValue_bracket fuel _ hblank hend, hread,
            Option.map_some]
  | @object fields hnames hvalues ih =>
      intro fuel rest hfuel _
      obtain ⟨fuel, rfl⟩ := hpos (.object hnames hvalues) hfuel
      cases fields with
      | nil =>
          rw [readValue]
          rfl
      | cons field fields =>
          rw [write_object, List.length_cons, List.length_append] at hfuel
          have hread : readFields fuel _ = _ := readFields_append hnames ih rest (by omega)
          obtain ⟨cs, hcs⟩ := fieldChars_head field fields
          rw [hcs, List.cons_append] at hread
          rw [write_object, hcs, List.cons_append, List.cons_append, List.cons_append,
            List.append_assoc, List.singleton_append, readValue_brace, hread, Option.map_some]

/-- **Round trip.**  A value that can be read is what is read from its text. -/
theorem read_write {v : Value} (h : v.Readable) : read v.write = some v := by
  have hread := h.isRead (2 * v.write.toList.length + 2) [] (by omega) (fun c hc => by cases hc)
  rw [List.append_nil] at hread
  simp only [read, hread]
  rfl

/-! ## No controls -/

theorem digitChar_printable : ∀ n < 16, 0x20 ≤ (Nat.digitChar n).toNat := by decide

theorem escape_printable {c d : Char} (h : d ∈ escape c) : 0x20 ≤ d.toNat := by
  unfold escape at h
  repeat' split at h
  all_goals simp only [List.mem_cons, List.not_mem_nil, or_false] at h
  case isFalse.isFalse.isFalse.isFalse.isFalse.isFalse.isFalse.isTrue hc =>
    rcases h with rfl | rfl | rfl | rfl | rfl | rfl
    case inr.inr.inr.inr.inl => exact digitChar_printable _ (by omega)
    case inr.inr.inr.inr.inr => exact digitChar_printable _ (by omega)
    all_goals decide
  case isFalse.isFalse.isFalse.isFalse.isFalse.isFalse.isFalse.isFalse hc =>
    rw [h]
    exact Nat.le_of_not_lt hc
  all_goals rcases h with rfl | rfl <;> decide

theorem quote_printable {s : String} {c : Char} (h : c ∈ (quote s).toList) : 0x20 ≤ c.toNat := by
  rw [toList_quote] at h
  rcases List.mem_cons.mp h with rfl | h
  · decide
  rcases List.mem_append.mp h with h | h
  · obtain ⟨d, _, hd⟩ := List.mem_flatMap.mp h
    exact escape_printable hd
  · rw [List.mem_singleton.mp h]
    decide

theorem Numeral.chars_printable {n : Numeral} {c : Char} (h : c ∈ n.chars) : 0x20 ≤ c.toNat := by
  have hdigits : ∀ (d : Digits) {c : Char}, c ∈ d.chars → 0x20 ≤ c.toNat := by
    intro d c hc
    have hdigit := d.all_digits c hc
    simp only [Char.isDigit, Bool.and_eq_true, decide_eq_true_eq] at hdigit
    exact Nat.le_trans (by decide) hdigit.1
  unfold chars pointChars powerChars at h
  simp only [List.mem_append] at h
  rcases h with ((h | h) | h) | h
  · split at h
    · rw [List.mem_singleton.mp h]
      decide
    · cases h
  · exact hdigits _ h
  · split at h
    · rcases List.mem_cons.mp h with rfl | h
      · decide
      · exact hdigits _ h
    · cases h
  · split at h
    · rcases List.mem_cons.mp h with rfl | h
      · decide
      · rcases List.mem_cons.mp h with rfl | h
        · split <;> decide
        · exact hdigits _ h
    · cases h

theorem mem_itemChars {items : List Value} {c : Char} (h : c ∈ itemChars items) :
    c = ',' ∨ ∃ v ∈ items, c ∈ v.write.toList := by
  induction items with
  | nil => cases h
  | cons v items ih =>
      cases items with
      | nil =>
          rw [itemChars_singleton] at h
          exact .inr ⟨v, List.mem_cons_self, h⟩
      | cons w items =>
          rw [itemChars_cons, List.mem_append, List.mem_cons] at h
          rcases h with h | rfl | h
          · exact .inr ⟨v, List.mem_cons_self, h⟩
          · exact .inl rfl
          · rcases ih h with hcomma | ⟨x, hx, hc⟩
            · exact .inl hcomma
            · exact .inr ⟨x, List.mem_cons_of_mem _ hx, hc⟩

theorem mem_fieldChars {fields : List (Option String × Value)} {c : Char}
    (h : c ∈ fieldChars fields) : c = ',' ∨ c = ':' ∨
      ∃ f ∈ fields, c ∈ (quote (f.1.getD "")).toList ∨ c ∈ f.2.write.toList := by
  induction fields with
  | nil => cases h
  | cons f fields ih =>
      obtain ⟨name, v⟩ := f
      cases fields with
      | nil =>
          rw [fieldChars_singleton, List.mem_append, List.mem_cons] at h
          rcases h with h | rfl | h
          · exact .inr (.inr ⟨_, List.mem_cons_self, .inl h⟩)
          · exact .inr (.inl rfl)
          · exact .inr (.inr ⟨_, List.mem_cons_self, .inr h⟩)
      | cons g fields =>
          rw [fieldChars_cons, List.mem_append, List.mem_cons, List.mem_append, List.mem_cons] at h
          rcases h with h | rfl | h | rfl | h
          · exact .inr (.inr ⟨_, List.mem_cons_self, .inl h⟩)
          · exact .inr (.inl rfl)
          · exact .inr (.inr ⟨_, List.mem_cons_self, .inr h⟩)
          · exact .inl rfl
          · rcases ih h with hcomma | hcolon | ⟨x, hx, hc⟩
            · exact .inl hcomma
            · exact .inr (.inl hcolon)
            · exact .inr (.inr ⟨x, List.mem_cons_of_mem _ hx, hc⟩)

theorem literal_printable {s : String} (h : s.toList.all (fun c => decide (0x20 ≤ c.toNat)) = true) :
    ∀ c ∈ s.toList, 0x20 ≤ c.toNat :=
  fun c hc => of_decide_eq_true (List.all_eq_true.mp h c hc)

/-- No control stands in what a value is written as. -/
theorem Value.Readable.printable {v : Value} (h : v.Readable) :
    ∀ c ∈ v.write.toList, 0x20 ≤ c.toNat := by
  induction h with
  | null => exact literal_printable (by decide : "null".toList.all _ = true)
  | bool b =>
      cases b
      · exact literal_printable (by decide : "false".toList.all _ = true)
      · exact literal_printable (by decide : "true".toList.all _ = true)
  | number n =>
      intro c hc
      rw [write, String.toList_ofList] at hc
      exact Numeral.chars_printable hc
  | text s => exact fun c hc => quote_printable hc
  | list _ ih =>
      intro c hc
      rw [write_list, List.mem_cons, List.mem_append, List.mem_singleton] at hc
      rcases hc with rfl | hc | rfl
      · decide
      · rcases mem_itemChars hc with rfl | ⟨v, hv, hc⟩
        · decide
        · exact ih v hv c hc
      · decide
  | object _ _ ih =>
      intro c hc
      rw [write_object, List.mem_cons, List.mem_append, List.mem_singleton] at hc
      rcases hc with rfl | hc | rfl
      · decide
      · rcases mem_fieldChars hc with rfl | rfl | ⟨f, hf, hc | hc⟩
        · decide
        · decide
        · exact quote_printable hc
        · exact ih f hf c hc
      · decide

end HealthWatch.Json
