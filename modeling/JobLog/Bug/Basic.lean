import JobLog.Json.Record
import JobLog.Json.Written

/-!
# Bugs

A search for bugs gives two lists, the open and recent ones and all others.

* `Bugs.merge` adds the bugs of another answer whose ids are not there yet.
* `BugSuggestion` is what is known about an error: the terms searched for and the bugs found.
* `BugCache` is what answers searches; it may change with every search and may fail.
-/

namespace JobLog

open Json (Shape)

/-- A bug. -/
structure Bug where
  id : Nat
  summary : String
  status? : Option String
  resolution? : Option String
  crashSignature? : Option String
  deriving DecidableEq, Repr

namespace Bug

/-- The JSON of a bug. -/
def toJson (b : Bug) : Json :=
  .obj [
    ("crash_signature", .ofString? b.crashSignature?),
    ("id", .ofNat b.id),
    ("resolution", .ofString? b.resolution?),
    ("status", .ofString? b.status?),
    ("summary", .str b.summary)]

/-- The fields of a bug. -/
def fields : List (String × Shape) := [
  ("id", .whole), ("summary", .whole), ("status", .whole), ("resolution", .whole),
  ("crash_signature", .whole)]

/-- Reads a bug. -/
def ofJson? (v : Json) : Option Bug := do
  let r ← v.record? (fields.map (·.1))
  let id ← r.required? "id" Json.natural?
  let summary ← r.required? "summary" Json.text?
  let status? ← r.lenient? "status" Json.text?
  let resolution? ← r.lenient? "resolution" Json.text?
  let crashSignature? ← r.lenient? "crash_signature" Json.text?
  some ⟨id, summary, status?, resolution?, crashSignature?⟩

end Bug

/-- The answer of a search. -/
structure Bugs where
  openRecent : List Bug
  allOthers : List Bug
  deriving DecidableEq, Repr

namespace Bugs

/-- No bugs. -/
def empty : Bugs := ⟨[], []⟩

/-- There are no bugs. -/
def isEmpty (b : Bugs) : Bool := b.openRecent.isEmpty && b.allOthers.isEmpty

/-- All bugs. -/
def all (b : Bugs) : List Bug := b.openRecent ++ b.allOthers

/-- A bug with the id is there. -/
def hasId (b : Bugs) (id : Nat) : Bool := b.all.any (·.id == id)

/-- Adds an open and recent bug, unless its id is there. -/
def addOpen (b : Bugs) (bug : Bug) : Bugs :=
  if b.hasId bug.id then b else { b with openRecent := b.openRecent ++ [bug] }

/-- Adds another bug, unless its id is there. -/
def addOther (b : Bugs) (bug : Bug) : Bugs :=
  if b.hasId bug.id then b else { b with allOthers := b.allOthers ++ [bug] }

/-- Adds the bugs of another answer whose ids are not there yet. -/
def merge (b other : Bugs) : Bugs :=
  other.allOthers.foldl addOther (other.openRecent.foldl addOpen b)

/-- The JSON of an answer. -/
def toJson (b : Bugs) : Json :=
  .obj [
    ("all_others", .arr (b.allOthers.map Bug.toJson)),
    ("open_recent", .arr (b.openRecent.map Bug.toJson))]

/-- The fields of an answer. -/
def fields : List (String × Shape) :=
  [("open_recent", .list (.record Bug.fields)), ("all_others", .list (.record Bug.fields))]

/-- Reads an answer; a list may be missing. -/
def ofJson? (v : Json) : Option Bugs := do
  let r ← v.record? (fields.map (·.1))
  let openRecent ← r.default? "open_recent" [] (Json.list? Bug.ofJson?)
  let allOthers ← r.default? "all_others" [] (Json.list? Bug.ofJson?)
  some ⟨openRecent, allOthers⟩

end Bugs

/-- What is known about an error. -/
structure BugSuggestion where
  /-- The cleaned line. -/
  search : String
  terms : List String
  bugs : Bugs
  line : Nat
  pathEnd? : Option String
  deriving DecidableEq, Repr

namespace BugSuggestion

/-- The JSON of a suggestion. -/
def toJson (s : BugSuggestion) : Json :=
  .obj [
    ("bugs", s.bugs.toJson),
    ("line_number", .ofNat s.line),
    ("path_end", .ofString? s.pathEnd?),
    ("search", .str s.search),
    ("search_terms", .arr (s.terms.map .str))]

/-- The fields of a suggestion. -/
def fields : List (String × Shape) := [
  ("search", .whole), ("search_terms", .whole), ("bugs", .record Bugs.fields),
  ("line_number", .whole), ("path_end", .whole)]

/-- Reads a suggestion. -/
def ofJson? (v : Json) : Option BugSuggestion := do
  let r ← v.record? (fields.map (·.1))
  let search ← r.required? "search" Json.text?
  let terms ← r.required? "search_terms" (Json.list? Json.text?)
  let bugs ← r.required? "bugs" Bugs.ofJson?
  let line ← r.required? "line_number" Json.natural?
  let pathEnd? ← r.optional? "path_end" Json.text?
  some ⟨search, terms, bugs, line, pathEnd?⟩

end BugSuggestion

/-- What answers searches for bugs; an answer may fail. -/
structure BugCache (σ : Type) where
  search : σ → String → Option Bugs × σ

/-- The text stands somewhere in the other one. -/
def occursIn (part : List Char) : List Char → Bool
  | [] => part.isEmpty
  | c :: s => part.isPrefixOf (c :: s) || occursIn part s

/-- The cache of a fixed set of bugs: a bug is found where its summary contains the term. Some
terms may fail. -/
def BugCache.inMemory (bugs : Bugs) (fails : String → Bool) : BugCache Unit where
  search _ term :=
    let found := fun (bs : List Bug) => bs.filter fun b => occursIn term.toList b.summary.toList
    (if fails term then none else some ⟨found bugs.openRecent, found bugs.allOthers⟩, ())

end JobLog
