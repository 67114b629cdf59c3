import JobLog.Proofs.ErrorLine.Grammar
import JobLog.Suggestion.Terms
import Mathlib.Data.List.TakeWhile

/-!
# Lines about a test

What a line of the harness about a test is made of, without any search.

* `Barred` are the parts of a line between bars, `ProcessName` is a part that names a process, and
  `Parts` are the parts behind it.
* `ReportsLeak` says which messages report a leak.
* `barred_iff`, `processName_iff`, `parts_iff` and `leak?_eq_none_iff` say that the search finds
  these and no others.
-/

namespace JobLog.SearchTerms

open ErrorGrammar (Digits)
open Text (Pattern isBlank isDigit)
open Text.Pattern (FirstOccurrence text)

variable {line s part : List Char} {ps : List (List Char)}

/-! ### Bars -/

/-- The parts of a line between bars, the bars taken from left to right. -/
inductive Barred : List Char → List (List Char) → Prop
  | last {s : List Char} : ¬ " | ".toList <:+: s → Barred s [s]
  | cons {s part behind : List Char} {ps : List (List Char)} :
      FirstOccurrence " | ".toList s part behind → Barred behind ps → Barred s (part :: ps)

theorem Barred.unique {ps' : List (List Char)} (h : Barred s ps) (h' : Barred s ps') :
    ps = ps' := by
  induction h generalizing ps' with
  | last hnone =>
    cases h' with
    | last => rfl
    | @cons _ part behind _ hfirst => exact absurd ⟨part, behind, hfirst.eq_append.symm⟩ hnone
  | @cons _ part behind _ hfirst _ ih =>
    cases h' with
    | last hnone => exact absurd ⟨part, behind, hfirst.eq_append.symm⟩ hnone
    | cons hfirst' hrest' =>
      obtain ⟨rfl, rfl⟩ := hfirst.unique hfirst'
      rw [ih hrest']

/-- A line is split at its first bar, behind what was read before. -/
theorem splitBars_eq (before s : List Char) :
    splitBars before s =
      match (text " | ").cut? s with
      | none => [before.reverse ++ s]
      | some (part, behind) => (before.reverse ++ part) :: splitBars [] behind := by
  fun_induction splitBars before s with
  | case1 before => simp [show (text " | ").cut? [] = none from rfl]
  | case2 before s _ =>
    rw [show (text " | ").cut? (' ' :: '|' :: ' ' :: s) = some ([], s) from rfl]
    simp
  | case3 before c s hbar ih =>
    have hnone : (Pattern.rests (text " | ") (c :: s)).head? = none := by
      rw [text, Pattern.head?_rests_lit, Option.eq_none_iff_forall_ne_some]
      intro r hr
      obtain ⟨hc, hs⟩ := List.cons.inj (Pattern.dropLit?_eq_some_iff.1 hr)
      exact hbar r hc hs
    rw [ih, Pattern.cut?, hnone]
    cases (text " | ").cut? s <;> simp

theorem barred_splitBars (s : List Char) : Barred s (splitBars [] s) := by
  induction hlength : s.length using Nat.strongRecOn generalizing s with
  | _ n ih =>
    rw [splitBars_eq]
    cases hcut : (text " | ").cut? s with
    | none => exact .last (Pattern.not_isInfix_of_cut? hcut (Pattern.matches_text " | "))
    | some r =>
      obtain ⟨part, behind⟩ := r
      have hfirst := Pattern.cut?_text_eq_some_iff.1 hcut
      refine .cons hfirst (ih behind.length ?_ behind rfl)
      have hbar : " | ".toList.length = 3 := rfl
      rw [← hlength, hfirst.eq_append, List.length_append, List.length_append]
      omega

theorem barred_iff : Barred s ps ↔ ps = splitBars [] s :=
  ⟨fun h => h.unique (barred_splitBars s), fun h => h ▸ barred_splitBars s⟩

/-! ### Processes -/

/-- Nothing but white space. -/
def Blanks (w : List Char) : Prop := ∀ c ∈ w, isBlank c = true

/-- The number of a process, with white space around it. -/
inductive ProcessName : List Char → Prop
  | gecko {u n v : List Char} : Blanks u → Digits n → Blanks v →
      ProcessName (u ++ "GECKO(".toList ++ n ++ ")".toList ++ v)
  | pid {u n v : List Char} : Blanks u → Digits n → Blanks v →
      ProcessName (u ++ "PID ".toList ++ n ++ v)

theorem processName_iff : processId.covers part = true ↔ ProcessName part := by
  rw [Pattern.covers_iff]
  constructor
  · rintro ⟨_, v, rfl, ⟨u, _, rfl, hu, hname⟩, hv⟩
    rcases hname with ⟨_, _, rfl, ⟨_, n, rfl, rfl, hn⟩, rfl⟩ | ⟨_, n, rfl, rfl, hn⟩
    · simpa using ProcessName.gecko hu hn hv
    · simpa using ProcessName.pid hu hn hv
  · rintro (@⟨u, n, v, hu, hn, hv⟩ | @⟨u, n, v, hu, hn, hv⟩)
    · exact ⟨u ++ ("GECKO(".toList ++ n ++ ")".toList), v, by simp, ⟨u, _, rfl, hu,
        .inl ⟨"GECKO(".toList ++ n, _, rfl, ⟨_, n, rfl, rfl, hn⟩, rfl⟩⟩, hv⟩
    · exact ⟨u ++ ("PID ".toList ++ n), v, by simp,
        ⟨u, _, rfl, hu, .inr ⟨_, n, rfl, rfl, hn⟩⟩, hv⟩

/-- The parts of a line behind the name of a process, or all parts where there is none in front. -/
inductive Parts (line : List Char) : List (List Char) → Prop
  | named {process : List Char} {ps : List (List Char)} : Barred line (process :: ps) →
      ProcessName process → Parts line ps
  | all {part : List Char} {ps : List (List Char)} : Barred line (part :: ps) →
      ¬ ProcessName part → Parts line (part :: ps)

theorem parts_iff : Parts line ps ↔ ps = parts line := by
  constructor
  · rintro (⟨hbarred, hprocess⟩ | ⟨hbarred, hprocess⟩)
    · rw [parts, ← barred_iff.1 hbarred]
      exact (if_pos (processName_iff.2 hprocess)).symm
    · rw [parts, ← barred_iff.1 hbarred]
      exact (if_neg (mt processName_iff.1 hprocess)).symm
  · rintro rfl
    have hbarred := barred_splitBars line
    rw [parts]
    cases hsplit : splitBars [] line with
    | nil => exact nomatch hsplit ▸ hbarred
    | cons part ps =>
      rw [hsplit] at hbarred
      by_cases hprocess : processId.covers part = true
      · simpa [hprocess] using Parts.named hbarred (processName_iff.1 hprocess)
      · simpa [hprocess] using Parts.all hbarred (mt processName_iff.2 hprocess)

/-! ### Leaks -/

/-- A report of what leaked or where, up to the end of the message. -/
inductive Leak : List Char → Prop
  | bytes {n what : List Char} : Digits n → what ≠ [] → '\n' ∉ what →
      Leak (n ++ " bytes leaked (".toList ++ what ++ ")".toList)
  | place {place : List Char} : place ≠ [] → '\n' ∉ place → Leak ("leak at ".toList ++ place)

/-- The message ends in a report of a leak. -/
def ReportsLeak (message : List Char) : Prop := ∃ w, Leak w ∧ w <:+ message

theorem leakedBytes?_eq_some_iff {what : List Char} :
    leakedBytes? s = some what ↔
      ∃ n, Digits n ∧ what ≠ [] ∧ '\n' ∉ what ∧
        s = n ++ " bytes leaked (".toList ++ what ++ ")".toList := by
  constructor
  · intro h
    rw [leakedBytes?] at h
    split at h
    case h_1 => exact nomatch h
    case h_2 hne =>
      obtain ⟨t, ht, hwhat⟩ := Option.bind_eq_some_iff.1 h
      have hs : s = s.takeWhile isDigit ++ (" bytes leaked (".toList ++ t) := by
        rw [← Pattern.dropLit?_eq_some_iff.1 ht, List.takeWhile_append_dropWhile]
      have hdigits : Digits (s.takeWhile isDigit) :=
        ⟨hne, fun _ => List.mem_takeWhile_imp⟩
      dsimp only at hwhat
      split at hwhat
      case h_1 c leaked hreverse =>
        have ht : t = (c :: leaked).reverse ++ ")".toList := by
          rw [← List.reverse_reverse t, hreverse, List.reverse_cons]
          rfl
        split at hwhat
        case isTrue => exact nomatch hwhat
        case isFalse hline =>
          obtain rfl := Option.some.inj hwhat
          rw [ht] at hs hline
          refine ⟨_, hdigits, by simp, fun h => hline (List.mem_append_left _ h), ?_⟩
          simpa using hs
      case h_2 => exact nomatch hwhat
  · rintro ⟨n, ⟨hne, hn⟩, hwhat, hline, rfl⟩
    have hspace : ∀ c ∈ (" bytes leaked (".toList ++ (what ++ ")".toList)).head?,
        isDigit c = false := fun c hc => by
      rw [← (Option.some.inj hc : ' ' = c)]
      decide
    obtain ⟨c, leaked, hleaked⟩ :=
      List.exists_cons_of_ne_nil (List.reverse_ne_nil_iff.2 hwhat)
    have hreverse : (what ++ ")".toList).reverse = ')' :: c :: leaked := by
      rw [List.reverse_append, hleaked]
      rfl
    have hmem : '\n' ∉ what ++ ")".toList := by simpa using hline
    rw [List.append_assoc, List.append_assoc, leakedBytes?,
      Text.takeWhile_run_append hn hspace, Text.dropWhile_run_append hn hspace,
      Pattern.dropLit?_eq_some_iff.2 rfl]
    split
    case h_1 => exact absurd rfl hne
    case h_2 =>
      simp only [Option.bind_eq_bind, Option.bind_some, hreverse, if_neg hmem]
      rw [← hleaked, List.reverse_reverse]

theorem leakPlace?_eq_some_iff {place : List Char} :
    leakPlace? s = some place ↔
      place ≠ [] ∧ '\n' ∉ place ∧ s = "leak at ".toList ++ place := by
  rw [leakPlace?]
  split
  case h_1 c rest hdrop =>
    rw [Pattern.dropLit?_eq_some_iff.1 hdrop, List.append_cancel_left_eq]
    split
    case isTrue hline => exact iff_of_false nofun fun ⟨_, hnot, heq⟩ => hnot (heq ▸ hline)
    case isFalse hline =>
      rw [Option.some.injEq]
      constructor
      · rintro rfl
        exact ⟨List.cons_ne_nil c rest, hline, rfl⟩
      · rintro ⟨-, -, rfl⟩
        rfl
  case h_2 hnone =>
    refine iff_of_false nofun ?_
    rintro ⟨hne, -, rfl⟩
    obtain ⟨c, rest, rfl⟩ := List.exists_cons_of_ne_nil hne
    exact hnone c rest (Pattern.dropLit?_eq_some_iff.2 rfl)

theorem leak_iff : Leak s ↔ leakedBytes? s ≠ none ∨ leakPlace? s ≠ none := by
  simp only [Option.ne_none_iff_exists', leakedBytes?_eq_some_iff, leakPlace?_eq_some_iff]
  constructor
  · rintro (⟨hn, hwhat, hline⟩ | ⟨hplace, hline⟩)
    · exact .inl ⟨_, _, hn, hwhat, hline, rfl⟩
    · exact .inr ⟨_, hplace, hline, rfl⟩
  · rintro (⟨what, n, hn, hwhat, hline, rfl⟩ | ⟨place, hplace, hline, rfl⟩)
    · exact .bytes hn hwhat hline
    · exact .place hplace hline

theorem leak?_eq_none_iff : leak? s = none ↔ ¬ ReportsLeak s := by
  induction s with
  | nil =>
    refine iff_of_true rfl ?_
    rintro ⟨w, hleak, hw⟩
    rw [List.suffix_nil.1 hw, leak_iff] at hleak
    exact hleak.elim (absurd rfl) (absurd rfl)
  | cons c s ih =>
    have hcons : ReportsLeak (c :: s) ↔ Leak (c :: s) ∨ ReportsLeak s := by
      simp only [ReportsLeak, List.suffix_cons_iff, and_or_left, exists_or, exists_eq_right]
    rw [leak?, Option.or_eq_none_iff, Option.or_eq_none_iff, ih, hcons, leak_iff]
    simp only [ne_eq, not_or, Classical.not_not, and_assoc]

end JobLog.SearchTerms
