import JobLog.Proofs.ErrorLine.Harness
import JobLog.Proofs.Sample.Script
import JobLog.Proofs.Source.Printable

/-!
# The texts of sample logs

What the lines of a body are made of: a word has letters and digits only, and a time has digits with
two colons between.

* `exists_of_last` and `isInfix_of_last`: what ends with a character lies in front of the last place
  of this character.
* `Message.mem_chars` are the characters of a message, `exists_clock_eq` cuts a time behind its last
  colon.
* `BodyLine.printable_chars`, `BodyLine.length_chars_le` and `BodyLine.head?_chars`: the line is
  printable and short, and it does not start like a marker of a step.
-/

namespace JobLog

/-! ### Parts of texts -/

section

variable {α : Type} {u p v a b s w : List α} {c : α}

/-- A text that ends with a character is not behind the last place where this character stands. -/
theorem exists_of_last (h : u ++ (p ++ [c]) ++ v = a ++ b) (hc : c ∉ b) :
    ∃ t, a = u ++ (p ++ [c]) ++ t ∧ v = t ++ b := by
  rcases List.append_eq_append_iff.1 h with hleft | ⟨t, hu, hb⟩
  · exact hleft
  · rcases List.eq_nil_or_concat t with rfl | ⟨t, d, rfl⟩
    · exact ⟨[], by simpa using hu.symm, by simpa using hb.symm⟩
    · have hlast : c = d := by
        have hends := congrArg List.getLast? hu
        simpa [← List.append_assoc] using hends
      subst hlast
      exact absurd (by simp [hb]) hc

theorem isInfix_of_last (h : p ++ [c] <:+: a ++ b) (hc : c ∉ b) : p ++ [c] <:+: a := by
  obtain ⟨u, v, h⟩ := h
  obtain ⟨t, ha, -⟩ := exists_of_last h hc
  exact ⟨u, t, ha.symm⟩

theorem not_isInfix_of_mem (hw : c ∈ w) (hs : c ∉ s) : ¬ w <:+: s := fun h => hs (h.subset hw)

theorem mem_intercalate {sep : List α} {ws : List (List α)} (h : c ∈ sep.intercalate ws) :
    c ∈ sep ∨ ∃ w ∈ ws, c ∈ w := by
  induction ws with
  | nil => exact absurd h (by simp [List.intercalate])
  | cons w ws ih =>
    cases ws with
    | nil => exact .inr ⟨w, List.mem_singleton_self w, by simpa using h⟩
    | cons w' ws =>
      rw [List.intercalate_cons_cons, List.append_assoc, List.mem_append, List.mem_append] at h
      rcases h with hw | hsep | hrest
      · exact .inr ⟨w, List.mem_cons_self, hw⟩
      · exact .inl hsep
      · exact (ih hrest).imp_right fun ⟨x, hx, hc⟩ => ⟨x, List.mem_cons_of_mem w hx, hc⟩

theorem length_intercalate_le (sep : List α) {ws : List (List α)} {n : Nat}
    (h : ∀ w ∈ ws, w.length ≤ n) : (sep.intercalate ws).length ≤ (n + sep.length) * ws.length := by
  induction ws with
  | nil => exact Nat.zero_le _
  | cons w ws ih =>
    obtain ⟨hw, hws⟩ := List.forall_mem_cons.1 h
    have hrest := ih hws
    rw [List.length_cons, Nat.mul_succ]
    cases ws with
    | nil =>
      rw [List.intercalate_singleton]
      omega
    | cons w' ws =>
      rw [List.intercalate_cons_cons, List.length_append, List.length_append]
      omega

end

namespace Sample

open ErrorGrammar
open Text (Printable IsPrintable isAsciiDigit)

/-! ### Messages -/

namespace Message

variable (m : Message) {c : Char}

theorem mem_chars (h : c ∈ m.chars) : c = ' ' ∨ c ∈ alphabet := by
  rcases mem_intercalate h with hspace | ⟨_, hw, hc⟩
  · exact .inl (List.mem_singleton.1 hspace)
  · obtain ⟨w, -, rfl⟩ := List.mem_map.1 hw
    exact .inr (w.mem_alphabet c hc)

theorem not_mem_chars (hc : c ∉ ' ' :: alphabet) : c ∉ m.chars := fun h =>
  hc (List.mem_cons.2 (m.mem_chars h))

theorem colon_not_mem : ':' ∉ ' ' :: m.chars := fun h =>
  (List.mem_cons.1 h).elim (by decide) (m.not_mem_chars (by decide))

theorem printable_chars : Printable m.chars := by
  have hletters : Printable (' ' :: alphabet) := by decide
  exact fun c hc => hletters c (List.mem_cons.2 (m.mem_chars hc))

theorem length_chars_le : m.chars.length ≤ 162 := by
  have hwords : ∀ w ∈ m.words.map Word.chars, w.length ≤ 17 := by
    simpa using fun w _ => w.length_bounds.2
  have hlength := length_intercalate_le [' '] hwords
  have hcount := m.length_bounds.2
  rw [List.length_map, List.length_singleton] at hlength
  exact hlength.trans (by omega)

/-- A message starts with a letter or a digit. -/
theorem exists_cons : ∃ c r, m.chars = c :: r ∧ c ∈ alphabet := by
  obtain ⟨words, hbounds⟩ := m
  match words, hbounds with
  | w :: w' :: ws, _ =>
    obtain ⟨chars, hlength, hmem⟩ := w
    match chars, hlength with
    | c :: r, _ =>
      refine ⟨c, r ++ [' '] ++ [' '].intercalate ((w' :: ws).map Word.chars), ?_,
        hmem c List.mem_cons_self⟩
      rw [Message.chars, List.map_cons, List.map_cons, List.intercalate_cons_cons,
        List.append_assoc, List.append_assoc]
      rfl

end Message

/-! ### The time -/

theorem digits_padded (width n : Nat) : Digits (Text.padded width n) :=
  ⟨Text.padded_ne_nil width n,
    fun _ hc => Text.isDigit_of_isAsciiDigit (Text.isAsciiDigit_of_mem_padded hc)⟩

theorem digits_decimal (n : Nat) : Digits (Text.decimal n) :=
  ⟨Nat.toDigits_ne_nil,
    fun _ hc => Text.isDigit_of_isAsciiDigit (Text.isAsciiDigit_of_mem_decimal hc)⟩

theorem not_mem_of_digits {c : Char} {ds : List Char} (hds : ∀ d ∈ ds, Text.isAsciiDigit d = true)
    (hc : Text.isAsciiDigit c = false) : c ∉ ds := fun hmem =>
  absurd ((hds c hmem).symm.trans hc) (by decide)

theorem not_mem_decimal {c : Char} (n : Nat) (hc : Text.isAsciiDigit c = false) :
    c ∉ Text.decimal n := not_mem_of_digits (fun _ => Text.isAsciiDigit_of_mem_decimal) hc

theorem not_mem_clock {c : Char} (secs : Nat) (hc : Text.isAsciiDigit c = false)
    (hcolon : c ≠ ':') : c ∉ clock secs := by
  have hpadded : ∀ n, c ∉ Text.padded 2 n := fun n =>
    not_mem_of_digits (fun _ => Text.isAsciiDigit_of_mem_padded) hc
  simp [clock, hpadded, hcolon]

theorem clock_clock (secs : Nat) : Clock (clock secs) :=
  ⟨Text.padded 2 (secs / 3600 % 24), Text.padded 2 (secs / 60 % 60), Text.padded 2 (secs % 60),
    digits_padded 2 _, digits_padded 2 _, digits_padded 2 _, by simp [clock]⟩

theorem printable_clock (secs : Nat) : Printable (clock secs) := by
  have hcolon : IsPrintable ':' := by decide
  simp [clock, Text.printable_padded, hcolon]

theorem length_padded_two {n : Nat} (h : n < 100) : (Text.padded 2 n).length = 2 :=
  Text.length_padded (by decide) h

/-- The last colon of a time stands in its first six characters. -/
theorem exists_clock_eq (secs : Nat) :
    ∃ a b, clock secs = a ++ b ∧ a.length = 6 ∧ b.length = 2 ∧ ':' ∉ b := by
  refine ⟨Text.padded 2 (secs / 3600 % 24) ++ ':' :: Text.padded 2 (secs / 60 % 60) ++ [':'],
    Text.padded 2 (secs % 60), by simp [clock], ?_, length_padded_two (by omega), fun hmem => ?_⟩
  · simp [length_padded_two (show secs / 3600 % 24 < 100 by omega),
      length_padded_two (show secs / 60 % 60 < 100 by omega)]
  · exact absurd (Text.isAsciiDigit_of_mem_padded hmem) (by decide)

theorem length_clock (secs : Nat) : (clock secs).length = 8 := by
  obtain ⟨a, b, heq, ha, hb, -⟩ := exists_clock_eq secs
  rw [heq, List.length_append, ha, hb]

/-! ### The whole line -/

theorem mark_eq : JobDetail.mark = "TinderboxPrint: ".toList := rfl

theorem payloadMark_eq : payloadMark = "PERFHERDER_DATA: ".toList := rfl

namespace BodyLine

variable (secs : Nat) (l : BodyLine)

theorem printable_chars : Printable (l.chars secs) := by
  have hclock := printable_clock secs
  cases l with
  | failed | returned | passed | noted =>
    simp only [chars, Text.printable_append_iff, hclock, Text.printable_decimal,
      Message.printable_chars, and_true, true_and]
    decide
  | printed message =>
    simp only [chars, Text.printable_append_iff, message.printable_chars, and_true]
    decide
  | measured suite value =>
    rw [chars, payloadLine_eq]
    simp only [Text.printable_append_iff, Text.printable_decimal, and_true]
    decide

theorem length_chars_le : (l.chars secs).length ≤ 500 := by
  have hclock := length_clock secs
  have hdecimal : ∀ {n : Nat}, n < 10 ^ 4 → (Text.decimal n).length ≤ 4 := fun h =>
    (Nat.length_toDigits_le_iff (by decide) (by decide)).2 h
  cases l with
  | failed test message =>
    have htest := hdecimal (n := test) (by omega)
    have hmessage := message.length_chars_le
    simp only [chars, List.length_append, hclock, String.reduceToList, List.length_cons,
      List.length_nil]
    omega
  | returned code =>
    have hcode := hdecimal (n := 1 + code) (by omega)
    simp only [chars, List.length_append, hclock, String.reduceToList, List.length_cons,
      List.length_nil]
    omega
  | printed message =>
    have hmessage := message.length_chars_le
    simp only [chars, mark_eq, List.length_append, String.reduceToList, List.length_cons,
      List.length_nil]
    omega
  | measured suite value =>
    have hsuite := hdecimal (n := suite) (by omega)
    have hvalue := hdecimal (n := value) (by omega)
    rw [chars, payloadLine_eq]
    simp only [List.length_append, String.reduceToList, List.length_cons, List.length_nil]
    omega
  | passed test =>
    have htest := hdecimal (n := test) (by omega)
    simp only [chars, List.length_append, hclock, String.reduceToList, List.length_cons,
      List.length_nil]
    omega
  | noted message =>
    have hmessage := message.length_chars_le
    simp only [chars, List.length_append, hclock, String.reduceToList, List.length_cons,
      List.length_nil]
    omega

/-- No line starts like a marker of a step or with a bracket. -/
theorem head?_chars : ∀ c ∈ (l.chars secs).head?, c ≠ '=' ∧ c ≠ '[' := by
  have hclock : ∀ r, ∀ c ∈ (clock secs ++ r).head?, c ≠ '=' ∧ c ≠ '[' := by
    intro r c hc
    obtain ⟨d, s, hd, hdigit⟩ := (clock_clock secs).exists_cons
    obtain rfl : d = c := by simpa [hd] using hc
    exact ⟨fun h => absurd (h ▸ hdigit) (by decide), fun h => absurd (h ▸ hdigit) (by decide)⟩
  cases l with
  | printed message =>
    intro c hc
    simp only [chars, mark_eq, String.reduceToList, List.cons_append, List.head?_cons,
      Option.mem_some_iff] at hc
    exact hc ▸ ⟨by decide, by decide⟩
  | measured suite value =>
    intro c hc
    rw [chars, payloadLine] at hc
    simp only [payloadMark_eq, String.reduceToList, List.cons_append, List.head?_cons,
      Option.mem_some_iff] at hc
    exact hc ▸ ⟨by decide, by decide⟩
  | failed | returned | passed | noted =>
    simp only [chars, List.append_assoc]
    exact hclock _

end BodyLine

end Sample
end JobLog
