import JobLog.Sample.Random
import JobLog.Text.Padded

/-!
# Sample logs

Logs of a given number of steps with random content, for trying out parsers: noise, failures, job
details and performance payloads between the markers of the steps.

* `Chooser` is what random choices are drawn from; a log is made from any chooser.
* `Sample.line` is a line of random words, `Sample.logLines` are the lines of a log.
* `Sample.lines` and `Sample.log` are made from a fixed stream, so they are always the same.
-/

namespace JobLog

/-- What random choices are drawn from. -/
structure Chooser (σ : Type) where
  /-- Draws a number up to the given one. -/
  upTo : (n : Nat) → σ → Fin (n + 1) × σ
  /-- Draws a number up to the given one, among numbers of 64 bits. -/
  wideUpTo : (n : Nat) → σ → Fin (n + 1) × σ
  /-- Draws the place of a letter or a digit. -/
  letter : σ → Fin 62 × σ

namespace Sample

variable {σ : Type}

/-- Draws one thing after the other. -/
abbrev Draw (σ α : Type) := StateM σ α

/-- Draws a number from `low` on, of `n + 1` numbers. -/
def number (c : Chooser σ) (low n : Nat) : Draw σ Nat := do
  let i ← c.upTo n
  return low + i

/-- Draws so many things. -/
def times {α : Type} (draw : Draw σ α) : Nat → Draw σ (List α)
  | 0 => return []
  | n + 1 => do
    let x ← draw
    let xs ← times draw n
    return x :: xs

/-- The letters and digits of random words. -/
def alphabet : List Char :=
  "ABCDEFGHIJKLMNOPQRSTUVWXYZabcdefghijklmnopqrstuvwxyz0123456789".toList

/-- Draws a word. -/
def word (c : Chooser σ) : Draw σ (List Char) := do
  let size ← number c 2 15
  let places : List (Fin 62) ← times c.letter size
  return places.map fun (i : Fin 62) => alphabet.getD i ' '

/-- Draws a line of words. -/
def line (c : Chooser σ) : Draw σ (List Char) := do
  let count ← number c 2 7
  let words ← times (word c) count
  return [' '].intercalate words

/-- The time of day. -/
def clock (secs : Nat) : List Char :=
  Text.padded 2 (secs / 3600 % 24) ++ ':' :: Text.padded 2 (secs / 60 % 60) ++
    ':' :: Text.padded 2 (secs % 60)

/-- The date and the time of day. -/
def timestamp (secs : Nat) : List Char := "2016-07-13 ".toList ++ clock secs

/-- Draws a line of the body of a step. -/
def bodyLine (c : Chooser σ) (secs : Nat) : Draw σ (List Char) := do
  let kind ← number c 0 99
  if kind = 0 then
    let test ← number c 0 999
    let message ← line c
    return clock secs ++ "     INFO -  TEST-UNEXPECTED-FAIL | dom/tests/test_".toList
      ++ Text.decimal test ++ ".html | ".toList ++ message
  else if kind = 1 then
    let code ← number c 1 1
    return clock secs ++ "    ERROR - Return code: ".toList ++ Text.decimal code
  else if kind = 2 then
    let message ← line c
    return "TinderboxPrint: ".toList ++ message
  else if kind = 3 then
    let suite ← number c 0 9
    let value ← number c 0 4999
    return "PERFHERDER_DATA: \x7b\"framework\":\x7b\"name\":\"talos\"\x7d,".toList
      ++ "\"suites\":[\x7b\"name\":\"suite-".toList
      ++ Text.decimal suite
      ++ "\",\"subtests\":[\x7b\"name\":\"sub\",\"value\":".toList ++ Text.decimal value
      ++ "\x7d]\x7d]\x7d".toList
  else if kind ≤ 9 then
    let test ← number c 0 999
    return clock secs ++ "     INFO -  TEST-PASS | dom/tests/test_".toList ++ Text.decimal test
      ++ ".html | fatal error was expected".toList
  else
    let message ← line c
    return clock secs ++ "     INFO -  ".toList ++ message

/-- The marker of a step. -/
def marker (kind : String) (step code elapsed secs : Nat) : List Char :=
  "========= ".toList ++ kind.toList ++ " step-".toList ++ Text.decimal step
    ++ " (results: ".toList ++ Text.decimal code ++ ", elapsed: ".toList
    ++ Text.decimal elapsed ++ " secs) (at ".toList ++ timestamp secs ++ ") =========".toList

/-- Draws so many lines of a body, the time going on with each; gives the time behind them. -/
def bodyLines (c : Chooser σ) (secs : Nat) : Nat → Draw σ (List (List Char) × Nat)
  | 0 => return ([], secs)
  | n + 1 => do
    let later ← c.wideUpTo 1
    let first ← bodyLine c (secs + later)
    let (rest, secs) ← bodyLines c (secs + later) n
    return (first :: rest, secs)

/-- Draws a step; gives its lines and the time behind it. -/
def stepLines (c : Chooser σ) (step started : Nat) : Draw σ (List (List Char) × Nat) := do
  let count ← number c 10 189
  let (body, secs) ← bodyLines c started count
  let secs := secs + 1
  let choice ← number c 0 3
  let code := if choice = 0 then 1 else 0
  return (marker "Started" step 0 0 started :: body
    ++ [marker "Finished" step code (secs - started) secs], secs)

/-- Draws steps from the given one on. -/
def stepsFrom (c : Chooser σ) (step secs : Nat) : Nat → Draw σ (List (List Char))
  | 0 => return []
  | n + 1 => do
    let (first, secs) ← stepLines c step secs
    let rest ← stepsFrom c (step + 1) secs n
    return first ++ rest

/-- Draws the lines of a log; it starts at one o'clock. -/
def logLines (c : Chooser σ) (steps : Nat) : Draw σ (List (List Char)) := stepsFrom c 0 3600 steps

/-- Lines as a text. -/
def join (ls : List (List Char)) : String := String.ofList (ls.flatMap (· ++ ['\n']))

/-- The chooser of a random stream. -/
def streamChooser : Chooser RandomStream :=
  ⟨RandomStream.upTo 32 RandomStream.word, RandomStream.upTo 64 RandomStream.doubleWord,
    RandomStream.letter⟩

/-- The fixed stream. -/
def fixedStream : RandomStream := .ofSeed 42

/-- So many lines of random words. -/
def lines (count : Nat) : List String :=
  ((times (line streamChooser) count).run fixedStream).1.map String.ofList

/-- A log of so many steps. -/
def log (steps : Nat) : String := join ((logLines streamChooser steps).run fixedStream).1

end Sample
end JobLog
