import JobLog.Proofs.Suggestion.Helpful
import JobLog.Proofs.Suggestion.HarnessLine

/-!
# The path of a test

The terms of a line about a test come from its path alone, and neither a comparison behind the path
nor the kind of its slashes counts.

* `Uncompared` is a path without the comparison of a layout test, and `withoutComparison_slashed`
  says that it is found whichever slashes the path has.
* `LastSegment` is what stands behind the last slash.
* `AboutTest` is a line about a test, and `ofLine_of_aboutTest` are its terms.
* `ShortTerms` is the shape of the terms of a text.
* `ofLine_eq_of_samePath` compares two lines about one test.
-/

namespace JobLog.SearchTerms

open Text (Pattern isBlank)
open Text.Pattern (text inLine)

variable {path p seg : List Char}

/-! ### Slashes -/

/-- A slash for a backslash. -/
def toSlash (c : Char) : Char := if c = '\\' then '/' else c

/-- The path with slashes alone. -/
def slashed (path : List Char) : List Char := path.map toSlash

theorem toSlash_of_ne {c : Char} (h : c ≠ '\\') : toSlash c = c := if_neg h

theorem class_toSlash {P : Char → Bool} (h : P '/' = P '\\') (c : Char) : P (toSlash c) = P c := by
  by_cases hc : c = '\\'
  · rw [hc]
    exact h
  · rw [toSlash_of_ne hc]

theorem backslash_notMem_slashed (path : List Char) : '\\' ∉ slashed path := by
  intro h
  obtain ⟨c, -, hc⟩ := List.mem_map.1 h
  by_cases hslash : c = '\\'
  · rw [hslash] at hc
    exact absurd hc (by decide)
  · exact hslash (toSlash_of_ne hslash ▸ hc)

/-! ### Comparisons -/

/-- The sign of a comparison with white space around it. -/
inductive ComparisonSign : List Char → Prop
  | mk {u v : List Char} {op : Char} : u ≠ [] → Blanks u → op = '=' ∨ op = '!' → v ≠ [] → Blanks v →
      ComparisonSign (u ++ [op] ++ "=".toList ++ v)

/-- The path without the first comparison in it, which goes to the end of the line. -/
inductive Uncompared (path : List Char) : List Char → Prop
  | cut {before sign other behind : List Char} : path = before ++ sign ++ (other ++ behind) →
      ComparisonSign sign →
      (∀ u w v, path = u ++ w ++ v → ComparisonSign w → before.length ≤ u.length) →
      (∀ c ∈ (other ++ behind).head?, isBlank c = false) →
      '\n' ∉ other → (∀ c ∈ behind.head?, c = '\n') → Uncompared path (before ++ behind)
  | plain : (∀ w, ComparisonSign w → ¬ w <:+: path) → Uncompared path path

/-- The path without its comparison, as it is found. -/
def withoutComparison (path : List Char) : List Char :=
  match comparison.cut? path with
  | some (before, behind) => before ++ behind
  | none => path

theorem plainPath_eq (path : List Char) : plainPath path = slashed (withoutComparison path) := rfl

/-- The pattern of the sign of a comparison. -/
def comparisonSign : Pattern :=
  .plus isBlank ++ .one (fun c => c == '=' || c == '!') ++ .text "=" ++ .plus isBlank

theorem comparisonSign_iff {w : List Char} : comparisonSign.Matches w ↔ ComparisonSign w := by
  constructor
  · rintro ⟨_, v, rfl, ⟨_, _, rfl, ⟨u, _, rfl, hu, op, hop, rfl⟩, rfl⟩, hv⟩
    exact .mk hu.1 hu.2 (by simpa using hop) hv.1 hv.2
  · rintro @⟨u, v, op, hune, hu, hop, hvne, hv⟩
    exact ⟨_, v, rfl, ⟨_, _, rfl, ⟨u, [op], rfl, ⟨hune, hu⟩, op, by simpa using hop, rfl⟩, rfl⟩,
      hvne, hv⟩

theorem matches_comparison {w : List Char} (h : ComparisonSign w) : comparison.Matches w :=
  ⟨w, [], (List.append_nil w).symm, comparisonSign_iff.2 h, nofun⟩

theorem uncompared_withoutComparison (path : List Char) :
    Uncompared path (withoutComparison path) := by
  have hpattern : comparison = comparisonSign ++ .star inLine := rfl
  rw [withoutComparison]
  cases hcut : comparison.cut? path with
  | none => exact .plain fun w hw => Pattern.not_isInfix_of_cut? hcut (matches_comparison hw)
  | some r =>
    obtain ⟨before, behind⟩ := r
    obtain ⟨t, hpath, hrests, hfirst⟩ := Pattern.exists_of_cut? hcut
    -- the preferred match takes all white space behind the sign and then the rest of the line
    rw [hpattern, Pattern.head?_rests_append_star] at hrests
    obtain ⟨t', hhead, rfl⟩ := Option.map_eq_some_iff.1 hrests
    obtain ⟨sign, rfl, hsign⟩ := Pattern.mem_rests_iff.1 (List.mem_of_mem_head? hhead)
    have hblank := Pattern.head?_rests_append_plus hhead
    rw [← List.takeWhile_append_dropWhile (p := inLine) (l := t')] at hpath hblank
    refine .cut (by rw [hpath, List.append_assoc]) (comparisonSign_iff.1 hsign)
      (fun u w v h hw => hfirst u w v h (matches_comparison hw)) hblank ?_ ?_
    · intro h
      exact absurd (List.mem_takeWhile_imp h) (by decide)
    · intro c hc
      simpa [inLine] using Text.head?_dropWhile_run c hc

theorem not_isBlank_op {op : Char} (h : op = '=' ∨ op = '!') : isBlank op = false := by
  rcases h with rfl | rfl <;> decide

/-- A sign ends where its white space does. -/
theorem ComparisonSign.eq_of_append {w w' r r' : List Char} (hw : ComparisonSign w)
    (hw' : ComparisonSign w') (hr : ∀ c ∈ r.head?, isBlank c = false)
    (hr' : ∀ c ∈ r'.head?, isBlank c = false) (h : w ++ r = w' ++ r') : w = w' ∧ r = r' := by
  obtain @⟨u, v, op, -, hu, hop, -, hv⟩ := hw
  obtain @⟨u', v', op', -, hu', hop', -, hv'⟩ := hw'
  have hhead : ∀ {op : Char} (s : List Char), op = '=' ∨ op = '!' →
      ∀ c ∈ (op :: s).head?, isBlank c = false := fun s hop c hc => by
    rw [← Option.some.inj hc]
    exact not_isBlank_op hop
  simp only [List.append_assoc] at h
  obtain ⟨rfl, hsign⟩ := Text.eq_of_run_append hu hu' (hhead _ hop) (hhead _ hop') h
  obtain ⟨hops, hrest⟩ := List.cons.inj hsign
  obtain ⟨rfl, rfl⟩ := Text.eq_of_run_append hv hv' hr hr' (List.append_cancel_left hrest)
  exact ⟨by rw [hops], rfl⟩

theorem Uncompared.unique {p' : List Char} (h : Uncompared path p) (h' : Uncompared path p') :
    p = p' := by
  have hline : ∀ {behind : List Char}, (∀ c ∈ behind.head?, c = '\n') →
      ∀ c ∈ behind.head?, inLine c = false := fun h c hc => by
    rw [h c hc]
    rfl
  have hother : ∀ {other : List Char}, '\n' ∉ other → ∀ c ∈ other, inLine c = true :=
    fun h c hc => by simpa [inLine] using ne_of_mem_of_not_mem hc h
  cases h with
  | @cut before sign other behind hpath hsign hfirst hblank hothers hbehind =>
    cases h' with
    | @cut before' sign' other' behind' hpath' hsign' hfirst' hblank' hothers' hbehind' =>
      -- both are cut at the first sign, which ends where its white space does
      have hlength : before.length = before'.length :=
        Nat.le_antisymm (hfirst _ _ _ hpath' hsign') (hfirst' _ _ _ hpath hsign)
      have heq := hpath.symm.trans hpath'
      rw [List.append_assoc, List.append_assoc] at heq
      obtain ⟨rfl, hrest⟩ := List.append_inj heq hlength
      obtain ⟨-, hrest⟩ := hsign.eq_of_append hsign' hblank hblank' hrest
      obtain ⟨-, rfl⟩ := Text.eq_of_run_append (hother hothers) (hother hothers') (hline hbehind)
        (hline hbehind') hrest
      rfl
    | plain hnone => exact absurd ⟨before, other ++ behind, hpath.symm⟩ (hnone sign hsign)
  | plain hnone =>
    cases h' with
    | @cut before sign other behind hpath hsign =>
      exact absurd ⟨before, other ++ behind, hpath.symm⟩ (hnone sign hsign)
    | plain => rfl

theorem withoutComparison_of_uncompared (h : Uncompared path p) : withoutComparison path = p :=
  (uncompared_withoutComparison path).unique h

theorem comparison_blind : comparison.Blind toSlash := by
  have hblank : ∀ c, isBlank (toSlash c) = isBlank c := class_toSlash (by decide)
  have hop : ∀ c, (toSlash c == '=' || toSlash c == '!') = (c == '=' || c == '!') :=
    class_toSlash (P := fun c => c == '=' || c == '!') (by decide)
  have hline : ∀ c, inLine (toSlash c) = inLine c := class_toSlash (by decide)
  refine ⟨⟨⟨⟨hblank, hop⟩, fun c hc d => ?_⟩, hblank⟩, hline⟩
  obtain rfl : c = '=' := List.mem_singleton.1 hc
  by_cases hd : d = '\\'
  · rw [hd]
    decide
  · rw [toSlash_of_ne hd]

/-- A comparison is found whichever slashes the path has. -/
theorem withoutComparison_slashed (path : List Char) :
    withoutComparison (slashed path) = slashed (withoutComparison path) := by
  rw [withoutComparison, withoutComparison, slashed, Pattern.cut?_map comparison_blind]
  cases comparison.cut? path with
  | none => rfl
  | some r => exact List.map_append.symm

/-! ### Segments -/

/-- The part of the path behind its last slash of either kind. -/
def LastSegment (p seg : List Char) : Prop :=
  ∃ before, p = before ++ seg ∧ (∀ c ∈ before.getLast?, c = '/' ∨ c = '\\') ∧
    '/' ∉ seg ∧ '\\' ∉ seg

theorem lastSegment_slashed (h : LastSegment p seg) : lastSegment (slashed p) = seg := by
  obtain ⟨before, rfl, hbefore, hslash, hback⟩ := h
  have hseg : seg.map toSlash = seg := by
    rw [List.map_congr_left fun c hc => toSlash_of_ne (ne_of_mem_of_not_mem hc hback), List.map_id']
  have hsegment : ∀ c ∈ seg.reverse, decide (c ≠ '/') = true := fun c hc =>
    decide_eq_true (ne_of_mem_of_not_mem (List.mem_reverse.1 hc) hslash)
  have hend : ∀ c ∈ (before.map toSlash).reverse.head?, decide (c ≠ '/') = false := by
    rw [List.head?_reverse, List.getLast?_map]
    intro c hc
    obtain ⟨d, hd, rfl⟩ := Option.map_eq_some_iff.1 hc
    rcases hbefore d hd with rfl | rfl <;> decide
  rw [lastSegment, slashed, List.map_append, hseg, List.reverse_append,
    Text.takeWhile_run_append hsegment hend, List.reverse_reverse]

/-! ### Lines about tests -/

/-- A line about a test: the second part is its path, and the third one reports no leak. -/
def AboutTest (line path : List Char) : Prop :=
  ∃ kind message rest, Parts line (kind :: path :: message :: rest) ∧ ¬ ReportsLeak message

theorem ofParts_of_aboutTest {line : List Char} (h : AboutTest line path) :
    ofParts (parts line) = (some (lastSegment (plainPath path)), some (plainPath path)) := by
  obtain ⟨kind, message, rest, hparts, hleak⟩ := h
  rw [← parts_iff.1 hparts, ofParts, leak?_eq_none_iff.2 hleak]

/-- The plain path of a test depends neither on its comparison nor on its slashes. -/
theorem plainPath_of_slashed_eq {path' : List Char} (hpath : slashed path = slashed path')
    (hp : Uncompared path p) : plainPath path' = slashed p := by
  rw [plainPath_eq, ← withoutComparison_slashed, ← hpath, withoutComparison_slashed,
    withoutComparison_of_uncompared hp]

theorem ofLine_of_aboutTest {line : List Char} (h : AboutTest line path)
    (hplain : plainPath path = slashed p) (hseg : LastSegment p seg)
    (hhelpful : isHelpful seg = true) : ofLine line = ⟨ofTerm seg, some (slashed p)⟩ := by
  rw [ofLine, ofParts_of_aboutTest h, hplain, lastSegment_slashed hseg]
  simp [hhelpful]

/-- A short term, followed by the name in front of its question mark if it has one. -/
inductive ShortTerms : List (List Char) → Prop
  | whole {term : List Char} : term.length ≤ 100 → ('?' ∈ term → term.head? = some '?') →
      ShortTerms [term]
  | named {name rest : List Char} : (name ++ '?' :: rest).length ≤ 100 → name ≠ [] → '?' ∉ name →
      ShortTerms [name ++ '?' :: rest, name]

theorem shortTerms_ofTerm (base : List Char) : ShortTerms (ofTerm base) := by
  rw [ofTerm]
  have hlength : ((failurePrefix.strip base).take maxLength).length ≤ 100 :=
    List.length_take_le _ _
  generalize (failurePrefix.strip base).take maxLength = term at hlength
  have hname : '?' ∉ term.takeWhile (· ≠ '?') := fun h => by
    simpa using List.mem_takeWhile_imp h
  have hterm : term.takeWhile (· ≠ '?') ++ term.dropWhile (· ≠ '?') = term :=
    List.takeWhile_append_dropWhile
  generalize term.takeWhile (· ≠ '?') = name at hname hterm ⊢
  cases hrest : term.dropWhile (· ≠ '?') with
  | nil =>
    obtain rfl : name = term := by rw [← hterm, hrest, List.append_nil]
    rw [if_neg fun h => Nat.lt_irrefl _ h.2]
    exact .whole hlength fun h => absurd h hname
  | cons c rest =>
    have hmark : c = '?' := by
      have hhead : c ∈ (term.dropWhile (· ≠ '?')).head? := by rw [hrest]; rfl
      simpa using Text.head?_dropWhile_run c hhead
    obtain rfl : name ++ '?' :: rest = term := by rw [← hterm, hrest, hmark]
    cases name with
    | nil => exact .whole hlength fun _ => rfl
    | cons d name =>
      rw [if_pos ⟨List.cons_ne_nil d name, by simp⟩]
      exact .named hlength (List.cons_ne_nil d name) hname

/-- **The terms of a line about a test identify the test.** Two lines with one path, whichever
slashes it is written with, have the same terms and the same path. -/
theorem ofLine_eq_of_samePath {line line' path path' p seg : List Char}
    (h : AboutTest line path) (h' : AboutTest line' path') (hpath : slashed path = slashed path')
    (hp : Uncompared path p) (hseg : LastSegment p seg) (hhelpful : isHelpful seg = true) :
    ofLine line = ofLine line' ∧ ShortTerms (ofLine line).terms ∧
      (ofLine line).pathEnd? = some (slashed p) ∧ '\\' ∉ slashed p := by
  have hline := ofLine_of_aboutTest h (plainPath_of_slashed_eq rfl hp) hseg hhelpful
  have hline' := ofLine_of_aboutTest h' (plainPath_of_slashed_eq hpath hp) hseg hhelpful
  rw [hline, hline']
  exact ⟨rfl, shortTerms_ofTerm seg, rfl, backslash_notMem_slashed p⟩

/-- A layout test that fails. -/
def failedLayout : List Char :=
  "GECKO(12) | TEST-UNEXPECTED-FAIL | dom\\a.html?b == c.html | boom | x".toList

/-- The test with another slash, in a run in which it takes too long. -/
def slowLayout : List Char :=
  "TEST-UNEXPECTED-TIMEOUT | dom/a.html?b == c.html | no leak at".toList

/-- Both lines have the terms of the test. -/
theorem ofLine_eq_of_samePath_layout :
    ofLine failedLayout = ofLine slowLayout ∧ ShortTerms (ofLine failedLayout).terms := by
  have hfailed : AboutTest failedLayout "dom\\a.html?b == c.html".toList :=
    ⟨"TEST-UNEXPECTED-FAIL".toList, "boom".toList, ["x".toList], parts_iff.2 (by decide +kernel),
      leak?_eq_none_iff.1 (by decide +kernel)⟩
  have hslow : AboutTest slowLayout "dom/a.html?b == c.html".toList :=
    ⟨"TEST-UNEXPECTED-TIMEOUT".toList, "no leak at".toList, [], parts_iff.2 (by decide +kernel),
      leak?_eq_none_iff.1 (by decide +kernel)⟩
  have hpath : Uncompared "dom\\a.html?b == c.html".toList "dom\\a.html?b".toList := by
    have h := uncompared_withoutComparison "dom\\a.html?b == c.html".toList
    rwa [show withoutComparison "dom\\a.html?b == c.html".toList = "dom\\a.html?b".toList
      by decide +kernel] at h
  have hseg : LastSegment "dom\\a.html?b".toList "a.html?b".toList :=
    ⟨"dom\\".toList, by decide +kernel, by simp, by decide +kernel, by decide +kernel⟩
  obtain ⟨hsame, hterms, -⟩ :=
    ofLine_eq_of_samePath hfailed hslow (by decide +kernel) hpath hseg (by decide +kernel)
  exact ⟨hsame, hterms⟩

end JobLog.SearchTerms
