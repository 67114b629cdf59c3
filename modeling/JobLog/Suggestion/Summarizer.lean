import JobLog.Bug.Basic
import JobLog.Step.Basic
import JobLog.Suggestion.Terms

/-!
# Bug suggestions

For each error of a log the bugs are searched that its terms find. An answer is remembered, so that
its term is not asked again; a failed search counts as an empty answer and is not remembered.

* `Summarizer.ask` searches for one term.
* `Summarizer.suggest` gives the suggestion of one error, `Summarizer.summarize` those of the first
  errors of a log.
-/

namespace JobLog

/-- What a summarizer remembers. -/
structure Summarizer (σ : Type) where
  /-- The state of the cache of bugs. -/
  state : σ
  /-- The answers so far. -/
  known : List (String × Bugs)
  /-- The terms that the cache was asked for, in order. -/
  asked : List String

namespace Summarizer

variable {σ : Type}

/-- Nothing was asked yet. -/
def start (state : σ) : Summarizer σ := ⟨state, [], []⟩

/-- The bugs of a term. -/
def ask (cache : BugCache σ) (m : Summarizer σ) (term : String) : Bugs × Summarizer σ :=
  match m.known.lookup term with
  | some bugs => (bugs, m)
  | none =>
    match cache.search m.state term with
    | (some bugs, state) => (bugs, ⟨state, (term, bugs) :: m.known, m.asked ++ [term]⟩)
    | (none, state) => (.empty, ⟨state, m.known, m.asked ++ [term]⟩)

/-- The bugs of several terms, added to those found before. -/
def askAll (cache : BugCache σ) (bugs : Bugs) (m : Summarizer σ) :
    List String → Bugs × Summarizer σ
  | [] => (bugs, m)
  | term :: terms =>
    let (found, m) := m.ask cache term
    askAll cache (bugs.merge found) m terms

/-- The texts without repeats, each at its first place. -/
def unique : List String → List String
  | [] => []
  | s :: rest => s :: (unique rest).filter (· ≠ s)

/-- The suggestion of an error; the signature of a crash is searched for where the other terms find
nothing. -/
def suggest (cache : BugCache σ) (m : Summarizer σ) (e : ErrorLine) :
    BugSuggestion × Summarizer σ :=
  let line := cleanLine e.text.toList
  let info := SearchTerms.ofLine line
  let terms := info.terms.map String.ofList
  let primary := terms.filter fun t => !Text.allBlank t.toList
  let (bugs, m) := askAll cache .empty m primary
  let extra := if bugs.isEmpty then ((crashSignature? line).map String.ofList).toList else []
  let (bugs, m) := askAll cache bugs m extra
  (⟨String.ofList line, unique (terms ++ extra), bugs, e.number,
    info.pathEnd?.map String.ofList⟩, m)

/-- The suggestions of several errors. -/
def suggestAll (cache : BugCache σ) (m : Summarizer σ) :
    List ErrorLine → List BugSuggestion × Summarizer σ
  | [] => ([], m)
  | e :: es =>
    let (s, m) := m.suggest cache e
    let (rest, m) := suggestAll cache m es
    (s :: rest, m)

/-- The suggestions of the first `count` errors. -/
def summarize (cache : BugCache σ) (count : Nat) (m : Summarizer σ) (errors : List ErrorLine) :
    List BugSuggestion × Summarizer σ :=
  m.suggestAll cache (errors.take count)

end Summarizer
end JobLog
