import JobLog.Proofs.ErrorLine.Grammar
import JobLog.Step.Marker
import Mathlib.Data.List.Forall2
import Mathlib.Data.List.TakeWhile

/-!
# The text of a marker

What a marker is made of, and that it is made so in one way only: what stands behind the name cannot
be found a second time inside of it, so that the name ends where it does, whatever it looks like.

* `MarkerTail` are the parts behind the name, `MarkerText` are all parts, and `MarkerText.line` is
  the line that they make.
* `Marker.tail?_text` and `Marker.exists_of_tail?` read the tail, and `MarkerTail.eq_nil_of_append`
  keeps a tail from ending in a shorter one.
* `Marker.read?_line` and `Marker.isSome_read?_iff` are the same for the line, and
  `MarkerText.line_injective` says that a line has its parts in one way.
-/

namespace JobLog

open ErrorGrammar (Digits)
open Text (isDigit takeWhile_run_append dropWhile_run_append head?_dropWhile_run)
open Text.Pattern (dropLit? dropLit?_eq_some_iff)

/-! ### Parts -/

/-- So many digits. -/
def Field (n : Nat) (w : List Char) : Prop := w.length = n ∧ ∀ c ∈ w, isDigit c = true

/-- A dot with digits behind it, or nothing. -/
def Fraction (w : List Char) : Prop := w = [] ∨ ∃ ds, Digits ds ∧ w = '.' :: ds

/-- One text after the other, each of its kind. -/
def Sequence : List (List Char → Prop) → List Char → Prop
  | [], w => w = []
  | P :: Ps, w => ∃ u v, P u ∧ Sequence Ps v ∧ w = u ++ v

/-- The parts of a date and a time of day: digits with fixed characters between. -/
def clockParts : List (List Char → Prop) := [
  Field 4, (· = ['-']), Field 2, (· = ['-']), Field 2, (· = [' ']), Field 2, (· = [':']), Field 2,
  (· = [':']), Field 2]

/-- A date and a time of day with an optional fraction. -/
def TimeText (w : List Char) : Prop := ∃ u f, Sequence clockParts u ∧ Fraction f ∧ w = u ++ f

/-- What stands behind the name of a marker. -/
@[ext]
structure MarkerTail where
  code : List Char
  minutes? : Option (List Char)
  seconds : List Char
  time : List Char
  code_digits : Digits code
  minutes_digits : ∀ m, minutes? = some m → Digits m
  seconds_digits : Digits seconds
  time_text : TimeText time

/-- The minutes of an elapsed time; they may be missing. -/
def minutesText : Option (List Char) → List Char
  | none => []
  | some m => m ++ " mins, ".toList

/-- The text behind the name. -/
def MarkerTail.text (t : MarkerTail) : List Char :=
  " (results: ".toList ++ t.code ++ ", elapsed: ".toList ++ minutesText t.minutes? ++ t.seconds
    ++ " secs) (at ".toList ++ t.time ++ ") =========".toList

theorem MarkerTail.text_eq (t : MarkerTail) :
    t.text = " (results: ".toList ++ (t.code ++ (", elapsed: ".toList ++ (minutesText t.minutes? ++
      (t.seconds ++ (" secs) (at ".toList ++ (t.time ++ ") =========".toList)))))) := by
  unfold text
  simp only [List.append_assoc]

/-- The parts of a marker. The name is not empty and stays on the line. -/
@[ext]
structure MarkerText extends MarkerTail where
  name : List Char
  name_ne_nil : name ≠ []
  name_inLine : '\n' ∉ name

namespace MarkerText

/-- The line of a marker. -/
def line (kind : MarkerKind) (t : MarkerText) : String :=
  String.ofList ("========= ".toList ++ kind.word.toList ++ " ".toList ++ t.name ++ t.text)

theorem toList_line (kind : MarkerKind) (t : MarkerText) :
    (t.line kind).toList =
      "========= ".toList ++ kind.word.toList ++ " ".toList ++ (t.name ++ t.text) := by
  unfold line
  rw [String.toList_ofList, List.append_assoc]

/-- The parts that are kept when a marker is read. -/
def marker (t : MarkerText) : Marker := ⟨t.name, t.code, t.time⟩

end MarkerText

namespace Marker

variable {s r w ds : List Char} {c : Char}

/-! ### Reading the parts -/

theorem digits?_eq_some_iff :
    digits? s = some (ds, r) ↔ Digits ds ∧ s = ds ++ r ∧ ∀ c ∈ r.head?, isDigit c = false := by
  constructor
  · intro h
    unfold digits? at h
    split at h
    case h_1 => exact nomatch h
    case h_2 hne =>
      obtain ⟨rfl, rfl⟩ := Prod.mk.inj (Option.some.inj h)
      exact ⟨⟨hne, fun c => List.mem_takeWhile_imp⟩, List.takeWhile_append_dropWhile.symm,
        head?_dropWhile_run⟩
  · rintro ⟨⟨hne, hds⟩, rfl, hr⟩
    rw [digits?, takeWhile_run_append hds hr, dropWhile_run_append hds hr]
    split
    case h_1 => exact absurd rfl hne
    case h_2 => rfl

/-- Digits are read up to the next character that is none. -/
theorem digits?_append (hds : Digits ds) (hc : isDigit c = false) :
    digits? (ds ++ c :: r) = some (ds, c :: r) :=
  digits?_eq_some_iff.2 ⟨hds, rfl, by simp [hc]⟩

theorem field?_eq_some_iff {n : Nat} : field? n s = some (w, r) ↔ Field n w ∧ s = w ++ r := by
  induction n generalizing s w with
  | zero =>
    simp only [field?, Option.some.injEq, Prod.mk.injEq, Field, List.length_eq_zero_iff]
    constructor
    · rintro ⟨rfl, rfl⟩
      exact ⟨⟨rfl, nofun⟩, rfl⟩
    · rintro ⟨⟨rfl, -⟩, rfl⟩
      exact ⟨rfl, rfl⟩
  | succ n ih =>
    constructor
    · intro h
      cases s with
      | nil => exact nomatch h
      | cons d s =>
        rw [field?] at h
        split at h
        case isFalse => exact nomatch h
        case isTrue hd =>
          obtain ⟨⟨ds, r'⟩, hfield, heq⟩ := Option.map_eq_some_iff.1 h
          obtain ⟨rfl, rfl⟩ := Prod.mk.inj heq
          obtain ⟨⟨hlength, hds⟩, rfl⟩ := ih.1 hfield
          exact ⟨⟨by simp [hlength], by simpa [hd] using hds⟩, rfl⟩
    · rintro ⟨⟨hlength, hw⟩, rfl⟩
      obtain ⟨d, ds, rfl⟩ := List.exists_cons_of_length_eq_add_one hlength
      have hfield : field? n (ds ++ r) = some (ds, r) :=
        ih.2 ⟨⟨by simpa using hlength, fun c hc => hw c (List.mem_cons_of_mem d hc)⟩, rfl⟩
      rw [List.cons_append, field?, if_pos (hw d List.mem_cons_self), hfield]
      rfl

theorem mark?_eq_some_iff : mark? c s = some (w, r) ↔ w = [c] ∧ s = c :: r := by
  cases s with
  | nil => simp [mark?]
  | cons d s =>
    by_cases h : d = c
    · simp [mark?, h, eq_comm]
    · simp [mark?, h]

theorem fraction_of_fraction? (h : fraction? s = some (w, r)) : Fraction w ∧ s = w ++ r := by
  unfold fraction? at h
  split at h
  case h_1 s =>
    obtain ⟨⟨ds, r'⟩, hdigits, heq⟩ := Option.map_eq_some_iff.1 h
    obtain ⟨rfl, rfl⟩ := Prod.mk.inj heq
    obtain ⟨hds, rfl, -⟩ := digits?_eq_some_iff.1 hdigits
    exact ⟨.inr ⟨ds, hds, rfl⟩, rfl⟩
  case h_2 =>
    obtain ⟨rfl, rfl⟩ := Prod.mk.inj (Option.some.inj h)
    exact ⟨.inl rfl, rfl⟩

theorem fraction?_append (hw : Fraction w) (hdot : r.head? ≠ some '.')
    (hr : ∀ c ∈ r.head?, isDigit c = false) : fraction? (w ++ r) = some (w, r) := by
  rcases hw with rfl | ⟨ds, hds, rfl⟩
  · unfold fraction?
    split
    case h_1 heq =>
      rw [List.nil_append] at heq
      exact absurd (by rw [heq]; rfl) hdot
    case h_2 => rfl
  · have hdigits : digits? (ds ++ r) = some (ds, r) := digits?_eq_some_iff.2 ⟨hds, rfl, hr⟩
    rw [List.cons_append, fraction?, hdigits]
    rfl

theorem chain?_cons_eq_some_iff {part? : List Char → Option (List Char × List Char)}
    {parts : List (List Char → Option (List Char × List Char))} :
    chain? (part? :: parts) s = some (w, r) ↔
      ∃ u t v, part? s = some (u, t) ∧ chain? parts t = some (v, r) ∧ w = u ++ v := by
  simp only [chain?, Option.bind_eq_bind, Option.bind_eq_some_iff, Prod.exists, Option.some.injEq,
    Prod.mk.injEq]
  constructor
  · rintro ⟨u, t, hpart, v, r', hchain, rfl, rfl⟩
    exact ⟨u, t, v, hpart, hchain, rfl⟩
  · rintro ⟨u, t, v, hpart, hchain, rfl⟩
    exact ⟨u, t, hpart, v, r, hchain, rfl, rfl⟩

/-- The part is read where a text of the kind stands, whatever follows. -/
def Exact (part? : List Char → Option (List Char × List Char)) (P : List Char → Prop) : Prop :=
  ∀ s w r, part? s = some (w, r) ↔ P w ∧ s = w ++ r

/-- Parts with fixed ends in front of a last one. -/
theorem chain?_concat_eq_some_iff {parts : List (List Char → Option (List Char × List Char))}
    {Ps : List (List Char → Prop)} (hparts : List.Forall₂ Exact parts Ps)
    {last? : List Char → Option (List Char × List Char)} :
    chain? (parts ++ [last?]) s = some (w, r) ↔
      ∃ u t v, Sequence Ps u ∧ s = u ++ t ∧ last? t = some (v, r) ∧ w = u ++ v := by
  induction hparts generalizing s w with
  | nil =>
    rw [List.nil_append, chain?_cons_eq_some_iff]
    constructor
    · rintro ⟨v, t, _, hlast, hnil, rfl⟩
      obtain ⟨rfl, rfl⟩ := Prod.mk.inj (Option.some.inj hnil)
      exact ⟨[], s, v, rfl, rfl, hlast, List.append_nil v⟩
    · rintro ⟨_, _, _, rfl, rfl, hlast, rfl⟩
      exact ⟨_, r, [], hlast, rfl, by simp⟩
  | cons hpart _ ih =>
    simp only [List.cons_append, chain?_cons_eq_some_iff, ih, hpart _ _ _, Sequence]
    constructor
    · rintro ⟨u, _, _, ⟨hu, rfl⟩, ⟨u', t, v, hu', rfl, hlast, rfl⟩, rfl⟩
      exact ⟨u ++ u', t, v, ⟨u, u', hu, hu', rfl⟩, by simp, hlast, by simp⟩
    · rintro ⟨_, t, v, ⟨u, u', hu, hu', rfl⟩, rfl, hlast, rfl⟩
      exact ⟨u, u' ++ t, u' ++ v, ⟨hu, by simp⟩, ⟨u', t, v, hu', rfl, hlast, rfl⟩, by simp⟩

theorem exact_clockParts :
    List.Forall₂ Exact [field? 4, mark? '-', field? 2, mark? '-', field? 2, mark? ' ', field? 2,
      mark? ':', field? 2, mark? ':', field? 2] clockParts := by
  have hfield : ∀ n, Exact (field? n) (Field n) := fun n s w r => field?_eq_some_iff
  have hmark : ∀ c, Exact (mark? c) (· = [c]) := fun c s w r => by
    rw [mark?_eq_some_iff]
    constructor
    · rintro ⟨rfl, rfl⟩
      exact ⟨rfl, rfl⟩
    · rintro ⟨rfl, rfl⟩
      exact ⟨rfl, rfl⟩
  exact .cons (hfield 4) (.cons (hmark '-') (.cons (hfield 2) (.cons (hmark '-') (.cons (hfield 2)
    (.cons (hmark ' ') (.cons (hfield 2) (.cons (hmark ':') (.cons (hfield 2) (.cons (hmark ':')
    (.cons (hfield 2) .nil))))))))))

theorem time?_eq_some_iff :
    time? s = some (w, r) ↔
      ∃ u t f, Sequence clockParts u ∧ s = u ++ t ∧ fraction? t = some (f, r) ∧ w = u ++ f :=
  chain?_concat_eq_some_iff exact_clockParts

theorem timeText_of_time? (h : time? s = some (w, r)) : TimeText w ∧ s = w ++ r := by
  obtain ⟨u, t, f, hu, rfl, hf, rfl⟩ := time?_eq_some_iff.1 h
  obtain ⟨hfraction, rfl⟩ := fraction_of_fraction? hf
  exact ⟨⟨u, f, hu, hfraction, rfl⟩, (List.append_assoc ..).symm⟩

theorem time?_append (hw : TimeText w) (hdot : r.head? ≠ some '.')
    (hr : ∀ c ∈ r.head?, isDigit c = false) : time? (w ++ r) = some (w, r) := by
  obtain ⟨u, f, hu, hf, rfl⟩ := hw
  exact time?_eq_some_iff.2
    ⟨u, f ++ r, f, hu, List.append_assoc .., fraction?_append hf hdot hr, rfl⟩

/-! ### Reading the tail -/

theorem dropMinutes_minutesText {minutes? : Option (List Char)} {seconds : List Char}
    (hminutes : ∀ m, minutes? = some m → Digits m) (hseconds : Digits seconds) (rest : List Char) :
    dropMinutes (minutesText minutes? ++ (seconds ++ (" secs) (at ".toList ++ rest))) =
      seconds ++ (" secs) (at ".toList ++ rest) := by
  cases minutes? with
  | none =>
    have hdigits : digits? (seconds ++ (" secs) (at ".toList ++ rest)) =
        some (seconds, " secs) (at ".toList ++ rest) := digits?_append hseconds (by decide)
    have hnone : dropLit? " mins, ".toList (" secs) (at ".toList ++ rest) = none := rfl
    rw [minutesText, List.nil_append, dropMinutes, hdigits]
    simp only [hnone, Option.getD_none]
  | some m =>
    have hdigits : ∀ r, digits? (m ++ (" mins, ".toList ++ r)) = some (m, " mins, ".toList ++ r) :=
      fun r => digits?_append (hminutes m rfl) (by decide)
    have hsome : ∀ r, dropLit? " mins, ".toList (" mins, ".toList ++ r) = some r := fun r =>
      dropLit?_eq_some_iff.2 rfl
    rw [minutesText, List.append_assoc, dropMinutes, hdigits]
    simp only [hsome, Option.getD_some]

/-- What is dropped in front of the seconds are the minutes. -/
theorem exists_minutesText (s : List Char) :
    ∃ minutes? : Option (List Char), (∀ m, minutes? = some m → Digits m) ∧
      s = minutesText minutes? ++ dropMinutes s := by
  unfold dropMinutes
  split
  case h_1 => exact ⟨none, nofun, rfl⟩
  case h_2 m r hdigits =>
    obtain ⟨hm, rfl, -⟩ := digits?_eq_some_iff.1 hdigits
    cases hrest : dropLit? " mins, ".toList r with
    | none => exact ⟨none, nofun, rfl⟩
    | some r' =>
      obtain rfl := dropLit?_eq_some_iff.1 hrest
      refine ⟨some m, fun m' h => Option.some.inj h ▸ hm, ?_⟩
      rw [Option.getD_some, minutesText, List.append_assoc]

/-- The tail is read back. -/
theorem tail?_text (t : MarkerTail) : tail? t.text = some (t.code, t.time) := by
  have hcode : ∀ r, digits? (t.code ++ (", elapsed: ".toList ++ r)) =
      some (t.code, ", elapsed: ".toList ++ r) := fun r => digits?_append t.code_digits (by decide)
  have hseconds : ∀ r, digits? (t.seconds ++ (" secs) (at ".toList ++ r)) =
      some (t.seconds, " secs) (at ".toList ++ r) := fun r =>
    digits?_append t.seconds_digits (by decide)
  have helapsed : ∀ r, digits? (dropMinutes (minutesText t.minutes? ++ (t.seconds ++
      (" secs) (at ".toList ++ r)))) = some (t.seconds, " secs) (at ".toList ++ r) := fun r => by
    rw [dropMinutes_minutesText t.minutes_digits t.seconds_digits, hseconds]
  have htime : time? (t.time ++ ") =========".toList) = some (t.time, ") =========".toList) :=
    time?_append t.time_text (by decide) (by simp; decide)
  have hbar : ") =========".toList = ") ".toList ++ bar := rfl
  rw [MarkerTail.text_eq]
  simp only [tail?, Option.bind_eq_bind, Option.bind_eq_some_iff, Prod.exists,
    dropLit?_eq_some_iff]
  exact ⟨_, rfl, t.code, _, hcode _, _, rfl, t.seconds, _, helapsed _, _, rfl, t.time, _, htime,
    if_pos hbar⟩

/-- What is read as a tail is one. -/
theorem exists_of_tail? {code time : List Char} (h : tail? s = some (code, time)) :
    ∃ t : MarkerTail, t.text = s := by
  simp only [tail?, Option.bind_eq_bind, Option.bind_eq_some_iff, Prod.exists,
    dropLit?_eq_some_iff] at h
  obtain ⟨_, rfl, code, _, hcode?, r, rfl, seconds, _, hseconds?, _, rfl, time, _, htime?, hend⟩ :=
    h
  split at hend
  case isFalse => exact nomatch hend
  case isTrue hbar =>
    obtain ⟨hcode, rfl, -⟩ := digits?_eq_some_iff.1 hcode?
    obtain ⟨minutes?, hminutes, hr⟩ := exists_minutesText r
    obtain ⟨hseconds, hrest, -⟩ := digits?_eq_some_iff.1 hseconds?
    obtain ⟨htime, rfl⟩ := timeText_of_time? htime?
    refine ⟨⟨code, minutes?, seconds, time, hcode, hminutes, hseconds, htime⟩, ?_⟩
    rw [MarkerTail.text_eq, hr, hrest, hbar]
    rfl

end Marker

/-! ### One tail, at one place -/

theorem minutesText_injective {m? n? : Option (List Char)} (h : minutesText m? = minutesText n?) :
    m? = n? := by
  have hne : ∀ m : List Char, m ++ " mins, ".toList ≠ [] := fun m =>
    List.append_ne_nil_of_right_ne_nil m (by decide)
  match m?, n? with
  | none, none => rfl
  | none, some n => exact absurd h.symm (hne n)
  | some m, none => exact absurd h (hne m)
  | some m, some n =>
    have hmn : m = n := List.append_cancel_right h
    rw [hmn]

namespace MarkerTail

theorem text_injective {t t' : MarkerTail} (h : t.text = t'.text) : t = t' := by
  have hread : some (t.code, t.time) = some (t'.code, t'.time) := by
    rw [← Marker.tail?_text, h, Marker.tail?_text]
  obtain ⟨hcode, htime⟩ := Prod.mk.inj (Option.some.inj hread)
  rw [text_eq, text_eq, hcode, htime] at h
  have helapsed := List.append_cancel_left
    (List.append_cancel_left (List.append_cancel_left h))
  have hseconds := congrArg Marker.dropMinutes helapsed
  rw [Marker.dropMinutes_minutesText t.minutes_digits t.seconds_digits,
    Marker.dropMinutes_minutesText t'.minutes_digits t'.seconds_digits] at hseconds
  rw [hseconds] at helapsed
  exact MarkerTail.ext hcode (minutesText_injective (List.append_cancel_right helapsed))
    (List.append_cancel_right hseconds) htime

end MarkerTail

/-- A character that no part contains is not in their sequence. -/
theorem notMem_of_sequence {c : Char} {Ps : List (List Char → Prop)}
    (hparts : ∀ P ∈ Ps, ∀ w, P w → c ∉ w) {u : List Char} (hu : Sequence Ps u) : c ∉ u := by
  induction Ps generalizing u with
  | nil => exact hu ▸ List.not_mem_nil
  | cons P Ps ih =>
    obtain ⟨v, w, hv, hw, rfl⟩ := hu
    rw [List.mem_append, not_or]
    exact ⟨hparts P List.mem_cons_self v hv,
      ih (fun Q hQ => hparts Q (List.mem_cons_of_mem P hQ)) hw⟩

theorem paren_notMem_of_digits {w : List Char} (h : ∀ c ∈ w, isDigit c = true) : '(' ∉ w :=
  fun hmem => absurd (h _ hmem) (by decide)

theorem paren_notMem_of_timeText {w : List Char} (h : TimeText w) : '(' ∉ w := by
  obtain ⟨u, f, hu, hf, rfl⟩ := h
  have hfield : ∀ n w, Field n w → '(' ∉ w := fun n w hw => paren_notMem_of_digits hw.2
  have hparts : ∀ P ∈ clockParts, ∀ w, P w → '(' ∉ w := by
    simpa [clockParts] using ⟨hfield 4, hfield 2⟩
  rw [List.mem_append, not_or]
  refine ⟨notMem_of_sequence hparts hu, ?_⟩
  rcases hf with rfl | ⟨ds, hds, rfl⟩
  · exact List.not_mem_nil
  · rw [List.mem_cons, not_or]
    exact ⟨by decide, paren_notMem_of_digits hds.2⟩

namespace MarkerTail

/-- A tail has two opening parentheses, whatever its numbers are. -/
theorem count_text (t : MarkerTail) : t.text.count '(' = 2 := by
  have hminutes : (minutesText t.minutes?).count '(' = 0 := by
    cases hm : t.minutes? with
    | none => rfl
    | some m =>
      rw [minutesText, List.count_append,
        List.count_eq_zero_of_not_mem (paren_notMem_of_digits (t.minutes_digits m hm).2)]
      rfl
  have hcode := List.count_eq_zero_of_not_mem (paren_notMem_of_digits t.code_digits.2)
  have hseconds := List.count_eq_zero_of_not_mem (paren_notMem_of_digits t.seconds_digits.2)
  have htime := List.count_eq_zero_of_not_mem (paren_notMem_of_timeText t.time_text)
  rw [text_eq]
  simp only [List.count_append, hminutes, hcode, hseconds, htime]
  decide

/-- No tail ends in a shorter one: the two parentheses of the shorter one are all there are, and
what stands in front of them in the longer one is a space. -/
theorem eq_nil_of_append {u : List Char} {t t' : MarkerTail} (h : u ++ t.text = t'.text) :
    u = [] := by
  have hstart : ∀ t : MarkerTail, ∃ r, t.text = ' ' :: '(' :: r := fun t => ⟨_, t.text_eq⟩
  obtain ⟨r, hr⟩ := hstart t
  obtain ⟨r', hr'⟩ := hstart t'
  have hcount := congrArg (List.count '(') h
  rw [List.count_append, count_text, count_text] at hcount
  have hnone : '(' ∉ u := List.count_eq_zero.1 (by omega)
  rw [hr, hr'] at h
  match u with
  | [] => rfl
  | [c] => simp at h
  | c :: d :: u =>
    obtain ⟨-, rfl, -⟩ : c = ' ' ∧ d = '(' ∧ _ := by simpa using h
    simp at hnone

end MarkerTail

namespace Marker

/-! ### Reading the line -/

theorem named?_append_text {before name : List Char} (hne : name ≠ []) (hline : '\n' ∉ name)
    (t : MarkerTail) :
    named? before (name ++ t.text) = some ⟨before.reverse ++ name, t.code, t.time⟩ := by
  induction name generalizing before with
  | nil => exact absurd rfl hne
  | cons c name ih =>
    obtain ⟨hc, hname⟩ := not_or.1 (List.mem_cons.not.1 hline)
    rw [List.cons_append, named?, if_neg (Ne.symm hc)]
    cases name with
    | nil => simp [tail?_text]
    | cons d name =>
      -- a tail that starts inside of the name ends in the one behind it
      have hinside : tail? (d :: name ++ t.text) = none := by
        rw [Option.eq_none_iff_forall_ne_some]
        rintro ⟨code, time⟩ htail
        obtain ⟨t', ht'⟩ := exists_of_tail? htail
        exact List.cons_ne_nil d name (MarkerTail.eq_nil_of_append ht'.symm)
      simp only [hinside]
      rw [ih (List.cons_ne_nil d name) hname]
      simp

theorem exists_of_named? {before : List Char} {m : Marker} (h : named? before s = some m) :
    ∃ (name : List Char) (t : MarkerTail), name ≠ [] ∧ '\n' ∉ name ∧ s = name ++ t.text := by
  fun_induction named? before s with
  | case1 | case2 => exact nomatch h
  | case3 before c s hc code time htail =>
    obtain ⟨t, rfl⟩ := exists_of_tail? htail
    exact ⟨[c], t, List.cons_ne_nil c [], by simpa using Ne.symm hc, rfl⟩
  | case4 before c s hc _ ih =>
    obtain ⟨name, t, -, hname, rfl⟩ := ih h
    refine ⟨c :: name, t, List.cons_ne_nil c name, ?_, rfl⟩
    rw [List.mem_cons, not_or]
    exact ⟨Ne.symm hc, hname⟩

theorem ofChars?_append (kind : MarkerKind) (s : List Char) :
    ofChars? kind ("========= ".toList ++ kind.word.toList ++ " ".toList ++ s) = named? [] s := by
  have hstart : dropLit? (bar ++ ' ' :: kind.word.toList ++ [' '])
      ("========= ".toList ++ kind.word.toList ++ " ".toList ++ s) = some s :=
    dropLit?_eq_some_iff.2 rfl
  rw [ofChars?, hstart, Option.bind_some]

/-- The parts of a marker are read from its line. -/
theorem read?_line (kind : MarkerKind) (t : MarkerText) :
    read? kind (t.line kind) = some t.marker := by
  rw [read?, MarkerText.toList_line, ofChars?_append,
    named?_append_text t.name_ne_nil t.name_inLine]
  rfl

/-- A name that ends like a marker is kept as it is. -/
example : read? .finished ("========= Finished a (results: 1, elapsed: 2 secs) " ++
      "(at 2016-07-13 16:09:31) ========= (results: 0, elapsed: 1 mins, 2 secs) " ++
      "(at 2016-07-13 16:09:31.5) =========") =
    some ⟨"a (results: 1, elapsed: 2 secs) (at 2016-07-13 16:09:31) =========".toList, ['0'],
      "2016-07-13 16:09:31.5".toList⟩ := by
  decide +kernel

/-- What is read as a marker is the line of one. -/
theorem exists_of_read? {kind : MarkerKind} {line : String} {m : Marker}
    (h : read? kind line = some m) : ∃ t : MarkerText, t.line kind = line := by
  obtain ⟨s, hs, hnamed⟩ := Option.bind_eq_some_iff.1 h
  obtain ⟨name, t, hne, hname, rfl⟩ := exists_of_named? hnamed
  refine ⟨⟨t, name, hne, hname⟩, String.toList_inj.1 ?_⟩
  rw [dropLit?_eq_some_iff.1 hs, MarkerText.toList_line]
  rfl

/-- What is read as a marker are the parts of its line. -/
theorem exists_of_read?_eq_some {kind : MarkerKind} {line : String} {m : Marker}
    (h : read? kind line = some m) :
    ∃ t : MarkerText, t.line kind = line ∧ t.name = m.name ∧ t.code = m.code ∧ t.time = m.time := by
  obtain ⟨t, rfl⟩ := exists_of_read? h
  obtain rfl := Option.some.inj ((read?_line kind t).symm.trans h)
  exact ⟨t, rfl, rfl, rfl, rfl⟩

end Marker

/-- A line has its parts in one way. -/
theorem MarkerText.line_injective {kind : MarkerKind} {t t' : MarkerText}
    (h : t.line kind = t'.line kind) : t = t' := by
  have hread : some t.marker = some t'.marker := by
    rw [← Marker.read?_line kind, h, Marker.read?_line]
  have hname : t.name = t'.name := congrArg Marker.name (Option.some.inj hread)
  have hchars := congrArg String.toList h
  rw [toList_line, toList_line, hname] at hchars
  have htail := MarkerTail.text_injective
    (List.append_cancel_left (List.append_cancel_left hchars))
  exact MarkerText.ext (congrArg MarkerTail.code htail) (congrArg MarkerTail.minutes? htail)
    (congrArg MarkerTail.seconds htail) (congrArg MarkerTail.time htail) hname

/-- A line is a marker exactly when it has the parts of one, which it has in one way. -/
theorem Marker.isSome_read?_iff (kind : MarkerKind) (line : String) :
    (read? kind line).isSome = true ↔ ∃! t : MarkerText, t.line kind = line := by
  constructor
  · intro h
    obtain ⟨m, hm⟩ := Option.isSome_iff_exists.1 h
    obtain ⟨t, rfl⟩ := exists_of_read? hm
    exact ⟨t, rfl, fun t' ht' => MarkerText.line_injective ht'⟩
  · rintro ⟨t, rfl, -⟩
    rw [read?_line]
    rfl

end JobLog
