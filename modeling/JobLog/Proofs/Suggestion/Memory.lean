import JobLog.Proofs.Run.Artifacts
import JobLog.Run

/-!
# The memory of a summarizer

A summarizer remembers the answers of the cache of bugs, over all errors of a log and all terms of
an error. Where the cache answers a term always in the same way, the memory does not show: each
suggestion is the one that a new summarizer gives for its error alone.

* `Summarizer.AskStep` lists the three things that asking for a term can do.
* `Summarizer.suggest_eq` takes a suggestion apart: the terms that are searched for first, the
  signature that is searched for where they find nothing, and what is made of the bugs.
* `Summarizer.Recalls` says that all that is remembered are answers of the cache. Asking keeps it,
  and so a suggestion is the one of `Summarizer.suggestionBy`, which has no memory.
* `Summarizer.summarize_eq_alone` is the result for all errors, and for the log they come from.
-/

namespace JobLog

variable {σ : Type}

/-- The answers do not depend on the state of the cache. -/
def BugCache.Answers (cache : BugCache σ) (find : String → Option Bugs) : Prop :=
  ∀ state term, (cache.search state term).1 = find term

namespace Summarizer

/-! ### Asking for a term -/

/-- What asking for a term gives and does: the term is remembered, or the cache is searched and
gives an answer or none. -/
inductive AskStep (cache : BugCache σ) (m : Summarizer σ) (term : String) :
    Bugs × Summarizer σ → Prop
  | recalled (bugs : Bugs) (hknown : m.known.lookup term = some bugs) :
      AskStep cache m term (bugs, m)
  | found (bugs : Bugs) (state : σ) (hknown : m.known.lookup term = none)
      (hsearch : cache.search m.state term = (some bugs, state)) :
      AskStep cache m term (bugs, ⟨state, (term, bugs) :: m.known, m.asked ++ [term]⟩)
  | failed (state : σ) (hknown : m.known.lookup term = none)
      (hsearch : cache.search m.state term = (none, state)) :
      AskStep cache m term (.empty, ⟨state, m.known, m.asked ++ [term]⟩)

theorem ask_step (cache : BugCache σ) (m : Summarizer σ) (term : String) :
    AskStep cache m term (m.ask cache term) := by
  unfold ask
  cases hknown : m.known.lookup term with
  | some bugs => exact .recalled bugs hknown
  | none =>
    rcases hsearch : cache.search m.state term with ⟨_ | bugs, state⟩
    · exact .failed state hknown hsearch
    · exact .found bugs state hknown hsearch

@[simp] theorem askAll_nil (cache : BugCache σ) (bugs : Bugs) (m : Summarizer σ) :
    askAll cache bugs m [] = (bugs, m) := rfl

@[simp] theorem askAll_cons (cache : BugCache σ) (bugs : Bugs) (m : Summarizer σ) (term : String)
    (terms : List String) :
    askAll cache bugs m (term :: terms) =
      askAll cache (bugs.merge (m.ask cache term).1) (m.ask cache term).2 terms := rfl

@[simp] theorem suggestAll_nil (cache : BugCache σ) (m : Summarizer σ) :
    m.suggestAll cache [] = ([], m) := rfl

@[simp] theorem suggestAll_cons (cache : BugCache σ) (m : Summarizer σ) (e : ErrorLine)
    (es : List ErrorLine) :
    m.suggestAll cache (e :: es) =
      ((m.suggest cache e).1 :: ((m.suggest cache e).2.suggestAll cache es).1,
        ((m.suggest cache e).2.suggestAll cache es).2) := by
  rw [suggestAll]

/-! ### The parts of a suggestion -/

/-- The terms of an error that are searched for first. -/
def primaryTerms (e : ErrorLine) : List String :=
  ((SearchTerms.ofLine (cleanLine e.text.toList)).terms.map String.ofList).filter fun t =>
    !Text.allBlank t.toList

/-- The terms that are searched for behind the first ones, which have found `bugs`: the signature
of a crash, where they have found nothing. -/
def extraTerms (e : ErrorLine) (bugs : Bugs) : List String :=
  if bugs.isEmpty then ((crashSignature? (cleanLine e.text.toList)).map String.ofList).toList
  else []

/-- What is told of an error for which the first terms have found `first` and all terms `bugs`. -/
def suggestion (e : ErrorLine) (first bugs : Bugs) : BugSuggestion :=
  let line := cleanLine e.text.toList
  let info := SearchTerms.ofLine line
  ⟨String.ofList line, unique (info.terms.map String.ofList ++ extraTerms e first), bugs, e.number,
    info.pathEnd?.map String.ofList⟩

theorem suggest_eq (cache : BugCache σ) (m : Summarizer σ) (e : ErrorLine) :
    m.suggest cache e =
      let first := askAll cache .empty m (primaryTerms e)
      let all := askAll cache first.1 first.2 (extraTerms e first.1)
      (suggestion e first.1 all.1, all.2) := by
  simp only [suggest, primaryTerms, extraTerms, suggestion]
  rfl

/-! ### Suggestions without memory -/

/-- The bugs that terms find one after the other, added to those found before. -/
def gather (find : String → Option Bugs) (bugs : Bugs) (terms : List String) : Bugs :=
  terms.foldl (fun bugs term => bugs.merge ((find term).getD .empty)) bugs

/-- The suggestion of an error by the answers of a function. -/
def suggestionBy (find : String → Option Bugs) (e : ErrorLine) : BugSuggestion :=
  let first := gather find .empty (primaryTerms e)
  suggestion e first (gather find first (extraTerms e first))

/-- All that is remembered are answers of the function. -/
def Recalls (find : String → Option Bugs) (m : Summarizer σ) : Prop :=
  ∀ term bugs, m.known.lookup term = some bugs → find term = some bugs

theorem recalls_start (find : String → Option Bugs) (state : σ) : (start state).Recalls find :=
  fun _ _ h => nomatch h

section Answers

variable {cache : BugCache σ} {find : String → Option Bugs} {m : Summarizer σ}

/-- **Asking gives the answer of the function**, remembered or not, and remembers nothing else. -/
theorem AskStep.recalls {term : String} {r : Bugs × Summarizer σ} (hstep : AskStep cache m term r)
    (hcache : cache.Answers find) (hm : m.Recalls find) :
    r.1 = (find term).getD .empty ∧ r.2.Recalls find := by
  have hanswer := hcache m.state term
  cases hstep with
  | recalled bugs hknown =>
    rw [hm term bugs hknown]
    exact ⟨rfl, hm⟩
  | found bugs state hknown hsearch =>
    rw [hsearch] at hanswer
    rw [← hanswer]
    refine ⟨rfl, fun t b hlookup => ?_⟩
    rw [Keyed.lookup_cons] at hlookup
    split at hlookup
    case isTrue hterm =>
      rw [hterm, ← hanswer, ← hlookup]
    case isFalse => exact hm t b hlookup
  | failed state hknown hsearch =>
    rw [hsearch] at hanswer
    rw [← hanswer]
    exact ⟨rfl, hm⟩

theorem askAll_recalls (hcache : cache.Answers find) (hm : m.Recalls find) (bugs : Bugs)
    (terms : List String) :
    (askAll cache bugs m terms).1 = gather find bugs terms ∧
      (askAll cache bugs m terms).2.Recalls find := by
  induction terms generalizing bugs m with
  | nil => exact ⟨rfl, hm⟩
  | cons term terms ih =>
    obtain ⟨hbugs, hrecalls⟩ := (ask_step cache m term).recalls hcache hm
    rw [askAll_cons, hbugs]
    exact ih hrecalls _

theorem suggest_recalls (hcache : cache.Answers find) (hm : m.Recalls find) (e : ErrorLine) :
    (m.suggest cache e).1 = suggestionBy find e ∧ (m.suggest cache e).2.Recalls find := by
  obtain ⟨hfirst, hrecalls⟩ := askAll_recalls hcache hm .empty (primaryTerms e)
  simp only [suggest_eq, hfirst]
  obtain ⟨hall, hrecalls⟩ := askAll_recalls hcache hrecalls (gather find .empty (primaryTerms e))
    (extraTerms e (gather find .empty (primaryTerms e)))
  rw [hall]
  exact ⟨rfl, hrecalls⟩

theorem suggestAll_recalls (hcache : cache.Answers find) (hm : m.Recalls find)
    (es : List ErrorLine) :
    (m.suggestAll cache es).1 = es.map (suggestionBy find) ∧
      (m.suggestAll cache es).2.Recalls find := by
  induction es generalizing m with
  | nil => exact ⟨rfl, hm⟩
  | cons e es ih =>
    obtain ⟨hsuggestion, hrecalls⟩ := suggest_recalls hcache hm e
    obtain ⟨hrest, hrecalls⟩ := ih hrecalls
    rw [suggestAll_cons, hsuggestion, hrest]
    exact ⟨rfl, hrecalls⟩

end Answers

end Summarizer

/-! ### The suggestions of a log -/

namespace ParsedLog

theorem suggest_of_none {p : ParsedLog} (h : p.steps? = none) (cache : BugCache σ) (count : Nat)
    (m : Summarizer σ) : (p.suggest cache count m).1 = p := by
  unfold suggest
  rw [h]

theorem suggest_of_some {p : ParsedLog} {summary : StepSummary} (h : p.steps? = some summary)
    (cache : BugCache σ) (count : Nat) (m : Summarizer σ) :
    (p.suggest cache count m).1 =
      { p with
        artifacts := Artifacts.insert Artifacts.suggestionsName
          (.suggestions (m.summarize cache count summary.data.errors).1) p.artifacts } := by
  unfold suggest
  rw [h]

end ParsedLog

namespace Summarizer

/-- **The memory does not show.** Where the answers do not depend on the state of the cache, the
suggestions of several errors are, in order, those that a new summarizer gives for each of the first
`count` errors alone, and each tells the line of its error. So the suggestions that are added to a
log change nothing else of it; they are added where the log has a summary of its steps, one for each
of the first `count` errors in the summary. -/
theorem summarize_eq_alone {cache : BugCache σ} {find : String → Option Bugs}
    (hcache : cache.Answers find) (state fresh : σ) (count : Nat) :
    let alone (e : ErrorLine) := ((start fresh).suggest cache e).1
    (∀ errors, ((start state).summarize cache count errors).1 = (errors.take count).map alone) ∧
    (∀ e, (alone e).line = e.number) ∧
    ∀ p : ParsedLog,
      let q := (p.suggest cache count (start state)).1
      q.logUrl = p.logUrl ∧ q.failures = p.failures ∧ q.lineCount = p.lineCount ∧
      q.artifacts.filter (·.1 ≠ Artifacts.suggestionsName) =
        p.artifacts.filter (·.1 ≠ Artifacts.suggestionsName) ∧
      (p.steps? = none → q.artifacts = p.artifacts) ∧
      ∀ summary, p.steps? = some summary →
        ∃ suggestions,
          q.artifacts.lookup Artifacts.suggestionsName = some (.suggestions suggestions) ∧
          suggestions = (summary.data.errors.take count).map alone ∧
          suggestions.length = min count summary.data.errors.length ∧
          suggestions.map BugSuggestion.line =
            (summary.data.errors.map ErrorLine.number).take count := by
  intro alone
  have halone : alone = suggestionBy find := by
    funext e
    exact (suggest_recalls hcache (recalls_start find fresh) e).1
  have hsummarize (errors : List ErrorLine) :
      ((start state).summarize cache count errors).1 = (errors.take count).map alone := by
    rw [halone]
    exact (suggestAll_recalls hcache (recalls_start find state) (errors.take count)).1
  have hline (e : ErrorLine) : (alone e).line = e.number := by
    rw [halone]
    rfl
  refine ⟨hsummarize, hline, fun p => ?_⟩
  intro q
  cases hsteps : p.steps? with
  | none =>
    have hq : q = p := ParsedLog.suggest_of_none hsteps cache count (start state)
    rw [hq]
    exact ⟨rfl, rfl, rfl, rfl, fun _ => rfl, nofun⟩
  | some summary =>
    have hq : q = _ := ParsedLog.suggest_of_some hsteps cache count (start state)
    rw [hsummarize] at hq
    rw [hq]
    refine ⟨rfl, rfl, rfl, Artifacts.filter_insert_ne .., nofun, ?_⟩
    rintro _ ⟨⟩
    refine ⟨(summary.data.errors.take count).map alone, ?_, rfl, ?_, ?_⟩
    · rw [Artifacts.lookup_insert, if_pos rfl]
    · rw [List.length_map, List.length_take]
    · rw [List.map_map, ← List.map_take]
      exact List.map_congr_left fun e _ => hline e

/-- Errors of tests with one name, two of them crashes with one signature. -/
def sharedErrors : List ErrorLine := [
  ⟨3, "TEST-UNEXPECTED-FAIL | a/test.py?x=1 | timed out"⟩,
  ⟨5, "TEST-UNEXPECTED-FAIL | b/test.py | application crashed [@ nsFoo::Bar]"⟩,
  ⟨8, "PROCESS-CRASH | c/test.py?x=1 | application crashed [@ nsFoo::Bar]"⟩]

/-- A cache with one bug, which fails for the name of the tests. -/
def sharedBugs : BugCache Unit :=
  .inMemory ⟨[⟨7, "Crash in nsFoo::Bar", none, none, none⟩], []⟩ (· = "test.py")

/-- A log with these errors. -/
def sharedLog : ParsedLog :=
  ⟨"log", [(Artifacts.stepsName, .steps ⟨"log", [], false, sharedErrors⟩)], [], 9⟩

/-- The errors share terms that are found, that find nothing and that fail; the bug is found for
both crashes, and two suggestions are added to a log with these errors. -/
theorem summarize_eq_alone_shared :
    sharedBugs.Answers (fun term => (sharedBugs.search () term).1) ∧
    ((start ()).summarize sharedBugs 3 sharedErrors).1 =
      sharedErrors.map (fun e => ((start ()).suggest sharedBugs e).1) ∧
    ((start ()).summarize sharedBugs 3 sharedErrors).1.map
        (fun s => (s.line, s.terms, s.bugs.openRecent.map Bug.id)) =
      [(3, ["test.py?x=1", "test.py"], []), (5, ["test.py", "nsFoo::Bar"], [7]),
        (8, ["test.py?x=1", "test.py", "nsFoo::Bar"], [7])] ∧
    ∃ suggestions,
      (sharedLog.suggest sharedBugs 2 (start ())).1.artifacts.lookup Artifacts.suggestionsName =
        some (.suggestions suggestions) ∧ suggestions.map BugSuggestion.line = [3, 5] := by
  have hcache : sharedBugs.Answers (fun term => (sharedBugs.search () term).1) := fun _ _ => rfl
  obtain ⟨hall, -, -⟩ := summarize_eq_alone hcache () () 3
  obtain ⟨-, -, hlog⟩ := summarize_eq_alone hcache () () 2
  refine ⟨hcache, hall sharedErrors, by decide +kernel, ?_⟩
  obtain ⟨-, -, -, -, -, hsome⟩ := hlog sharedLog
  obtain ⟨suggestions, hlookup, -, -, hlines⟩ := hsome ⟨"log", [], false, sharedErrors⟩ rfl
  exact ⟨suggestions, hlookup, hlines⟩

end Summarizer
end JobLog
