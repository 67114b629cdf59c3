import JobLog.JobDetail
import JobLog.Proofs.Text.Digit
import JobLog.Sample.Log
import Mathlib.Data.List.Basic
import Mathlib.Tactic.SplitIfs

/-!
# Scripts of sample logs

A script tells what was drawn for a log: for each step the lines of its body, by how much the time
goes on with each of them, and the code that it ends with. Each part carries its range.

* `BodyLine` are the kinds of lines, `StepScript` is a step.
* `place` gives each step of a script its number, its first line and its time, and `Placed.lines` is
  the text that stands there.
* `yields_stepsFrom`: whatever a chooser draws, the log is the text of a script.
-/

namespace JobLog.Sample

/-! ### Lines -/

/-- A word. -/
structure Word where
  chars : List Char
  length_bounds : 2 ≤ chars.length ∧ chars.length ≤ 17
  mem_alphabet : ∀ c ∈ chars, c ∈ alphabet

/-- Words with spaces between. -/
structure Message where
  words : List Word
  length_bounds : 2 ≤ words.length ∧ words.length ≤ 9

/-- The text of a message. -/
def Message.chars (m : Message) : List Char := [' '].intercalate (m.words.map Word.chars)

/-- The performance data of a suite with one value. -/
def payload (suite value : Nat) : Json :=
  .obj [
    ("framework", .obj [("name", .str "talos")]),
    ("suites", .arr [.obj [
      ("name", .str ("suite-" ++ toString suite)),
      ("subtests", .arr [.obj [("name", .str "sub"), ("value", .ofNat value)]])]])]

/-- The mark of performance data. -/
def payloadMark : List Char := "PERFHERDER_DATA: ".toList

/-- The text of a line with performance data. -/
def payloadLine (suite value : Nat) : List Char :=
  payloadMark ++ (payload suite value).write.toList

/-- A line of the body of a step. -/
inductive BodyLine
  /-- A test that fails and should not. -/
  | failed (test : Fin 1000) (message : Message)
  /-- A return code that is not zero. -/
  | returned (code : Fin 2)
  /-- A job detail. -/
  | printed (message : Message)
  /-- A performance payload. -/
  | measured (suite : Fin 10) (value : Fin 5000)
  /-- A test that passes. -/
  | passed (test : Fin 1000)
  | noted (message : Message)

/-- The text of a line that is written at a time. -/
def BodyLine.chars (secs : Nat) : BodyLine → List Char
  | .failed test message =>
    clock secs ++ "     INFO -  TEST-UNEXPECTED-FAIL | dom/tests/test_".toList
      ++ Text.decimal test ++ ".html | ".toList ++ message.chars
  | .returned code => clock secs ++ "    ERROR - Return code: ".toList ++ Text.decimal (1 + code)
  | .printed message => JobDetail.mark ++ message.chars
  | .measured suite value => payloadLine suite value
  | .passed test =>
    clock secs ++ "     INFO -  TEST-PASS | dom/tests/test_".toList ++ Text.decimal test
      ++ ".html | fatal error was expected".toList
  | .noted message => clock secs ++ "     INFO -  ".toList ++ message.chars

/-- The lines of a body, each with the seconds that pass before it. -/
abbrev Body := List (Fin 2 × BodyLine)

namespace Body

/-- The text of a body that goes on from a time. -/
def linesFrom (secs : Nat) : Body → List (List Char)
  | [] => []
  | (later, l) :: rest => l.chars (secs + later) :: linesFrom (secs + later) rest

/-- The seconds that pass. -/
def seconds : Body → Nat
  | [] => 0
  | (later, _) :: rest => later + seconds rest

end Body

/-! ### Steps -/

/-- A step. -/
structure StepScript where
  body : Body
  length_bounds : 10 ≤ body.length ∧ body.length ≤ 199
  code : Fin 2

/-- The seconds from the start to the finish. -/
def StepScript.elapsed (t : StepScript) : Nat := t.body.seconds + 1

/-- A step with its place in a log. -/
structure Placed where
  number : Nat
  firstLine : Nat
  /-- The time of the start. -/
  started : Nat
  script : StepScript

namespace Placed

/-- The time of the finish. -/
def finished (q : Placed) : Nat := q.started + q.script.elapsed

/-- The last line of the step. -/
def lastLine (q : Placed) : Nat := q.firstLine + q.script.body.length + 1

/-- The text of a step. -/
def lines (q : Placed) : List (List Char) :=
  marker "Started" q.number 0 0 q.started :: q.script.body.linesFrom q.started
    ++ [marker "Finished" q.number q.script.code q.script.elapsed q.finished]

end Placed

/-- The steps of a script from a number, a line and a time on, one right behind the other. -/
def place (number firstLine started : Nat) : List StepScript → List Placed
  | [] => []
  | t :: ts =>
    ⟨number, firstLine, started, t⟩ ::
      place (number + 1) (firstLine + t.body.length + 2) (started + t.elapsed) ts

/-- The steps of a log. -/
def placed (script : List StepScript) : List Placed := place 0 1 3600 script

/-- The lines of a log. -/
def textOf (script : List StepScript) : List (List Char) := (placed script).flatMap Placed.lines

/-! ### Performance data -/

theorem toList_toString (n : Nat) : (toString n).toList = Text.decimal n := String.toList_ofList

theorem writeChar_of_isAsciiDigit {c : Char} (h : Text.isAsciiDigit c = true) :
    Json.writeChar c = [c] := by
  have hc := Text.toNat_of_isAsciiDigit h
  unfold Json.writeChar
  split <;> first | exact absurd h (by decide) | exact if_neg (by omega)

theorem flatMap_writeChar_decimal (n : Nat) :
    (Text.decimal n).flatMap Json.writeChar = Text.decimal n := by
  refine (List.flatMap_congr fun c hc => ?_).trans (List.flatMap_singleton' _)
  exact writeChar_of_isAsciiDigit (Text.isAsciiDigit_of_mem_decimal hc)

/-- The compact form of a payload. -/
theorem toList_write_payload (suite value : Nat) :
    (payload suite value).write.toList =
      "\x7b\"framework\":\x7b\"name\":\"talos\"\x7d,".toList
        ++ "\"suites\":[\x7b\"name\":\"suite-".toList ++ Text.decimal suite
        ++ "\",\"subtests\":[\x7b\"name\":\"sub\",\"value\":".toList ++ Text.decimal value
        ++ "\x7d]\x7d]\x7d".toList := by
  have hname : Json.writeString ("suite-" ++ toString suite) =
      "\"suite-".toList ++ Text.decimal suite ++ ['"'] := by
    have hfixed : "suite-".toList.flatMap Json.writeChar = "suite-".toList := by decide
    rw [Json.writeString, String.toList_append, toList_toString, List.flatMap_append, hfixed,
      flatMap_writeChar_decimal]
    rfl
  have hvalue : Json.writeNumber (.int value) = Text.decimal value := by
    simp [Json.writeNumber]
  rw [Json.write, String.toList_ofList]
  simp only [payload, Json.ofNat, Json.writeIn, Json.writeFields, Json.writeItems, hname, hvalue]
  simp [Json.writeString, Json.writeChar, Json.Layout.newLine, Json.Layout.inner,
    Json.Layout.colon]

theorem payloadLine_eq (suite value : Nat) :
    payloadLine suite value =
      "PERFHERDER_DATA: \x7b\"framework\":\x7b\"name\":\"talos\"\x7d,".toList
        ++ "\"suites\":[\x7b\"name\":\"suite-".toList ++ Text.decimal suite
        ++ "\",\"subtests\":[\x7b\"name\":\"sub\",\"value\":".toList ++ Text.decimal value
        ++ "\x7d]\x7d]\x7d".toList := by
  have hstart : "PERFHERDER_DATA: \x7b\"framework\":\x7b\"name\":\"talos\"\x7d,".toList =
      payloadMark ++ "\x7b\"framework\":\x7b\"name\":\"talos\"\x7d,".toList := by
    decide
  rw [payloadLine, toList_write_payload, hstart]
  simp only [List.append_assoc]

/-! ### What is drawn -/

variable {σ α β : Type}

/-- Whatever is drawn has the property. -/
def Yields (draw : Draw σ α) (p : α → Prop) : Prop := ∀ s, p (draw.run s).1

theorem yields_pure {p : α → Prop} {a : α} (h : p a) : Yields (pure a : Draw σ α) p := fun _ => h

theorem Yields.bind {draw : Draw σ α} {f : α → Draw σ β} {p : α → Prop} {q : β → Prop}
    (h : Yields draw p) (hf : ∀ a, p a → Yields (f a) q) : Yields (draw >>= f) q :=
  fun s => hf _ (h s) _

variable (c : Chooser σ)

theorem yields_number (low n : Nat) :
    Yields (number c low n) fun k => low ≤ k ∧ k < low + n + 1 :=
  fun s => ⟨Nat.le_add_right .., Nat.add_lt_add_left (c.upTo n s).1.isLt low⟩

theorem yields_times {draw : Draw σ α} {f : β → α} (h : Yields draw fun a => ∃ b, a = f b)
    (n : Nat) : Yields (times draw n) fun xs => ∃ ys : List β, ys.length = n ∧ xs = ys.map f := by
  induction n with
  | zero => exact yields_pure ⟨[], rfl, rfl⟩
  | succ n ih =>
    refine h.bind ?_
    rintro _ ⟨y, rfl⟩
    refine ih.bind ?_
    rintro _ ⟨ys, hlength, rfl⟩
    exact yields_pure ⟨y :: ys, by simp [hlength], rfl⟩

theorem getD_alphabet_mem : ∀ i : Fin 62, alphabet.getD i ' ' ∈ alphabet := by decide

theorem yields_word : Yields (word c) fun cs => ∃ w : Word, cs = w.chars := by
  refine (yields_number c 2 15).bind fun size hsize => ?_
  have hplace : Yields (c.letter : Draw σ (Fin 62)) fun i => ∃ j, i = id j := fun s => ⟨_, rfl⟩
  refine (yields_times hplace size).bind ?_
  rintro _ ⟨places, hlength, rfl⟩
  refine yields_pure ⟨⟨_, ?_, ?_⟩, rfl⟩
  · simp only [List.length_map, hlength]
    omega
  · intro d hd
    obtain ⟨i, -, rfl⟩ := List.mem_map.1 hd
    exact getD_alphabet_mem i

theorem yields_line : Yields (line c) fun cs => ∃ m : Message, cs = m.chars := by
  refine (yields_number c 2 7).bind fun count hcount => ?_
  refine (yields_times (yields_word c) count).bind ?_
  rintro _ ⟨words, hlength, rfl⟩
  exact yields_pure ⟨⟨words, by omega⟩, rfl⟩

/-- A line of a body is drawn for each of the kinds. -/
theorem yields_bodyLine (secs : Nat) :
    Yields (bodyLine c secs) fun cs => ∃ l : BodyLine, cs = l.chars secs := by
  refine (yields_number c 0 99).bind fun kind _ => ?_
  split_ifs
  · refine (yields_number c 0 999).bind fun test htest => ?_
    refine (yields_line c).bind ?_
    rintro _ ⟨message, rfl⟩
    exact yields_pure ⟨.failed ⟨test, by omega⟩ message, rfl⟩
  · refine (yields_number c 1 1).bind fun code hcode => ?_
    obtain ⟨i, rfl⟩ := Nat.exists_eq_add_of_le hcode.1
    exact yields_pure ⟨.returned ⟨i, by omega⟩, rfl⟩
  · refine (yields_line c).bind ?_
    rintro _ ⟨message, rfl⟩
    exact yields_pure ⟨.printed message, rfl⟩
  · refine (yields_number c 0 9).bind fun suite hsuite => ?_
    refine (yields_number c 0 4999).bind fun value hvalue => ?_
    exact yields_pure ⟨.measured ⟨suite, by omega⟩ ⟨value, by omega⟩, (payloadLine_eq ..).symm⟩
  · refine (yields_number c 0 999).bind fun test htest => ?_
    exact yields_pure ⟨.passed ⟨test, by omega⟩, rfl⟩
  · refine (yields_line c).bind ?_
    rintro _ ⟨message, rfl⟩
    exact yields_pure ⟨.noted message, rfl⟩

theorem yields_bodyLines (secs n : Nat) :
    Yields (bodyLines c secs n) fun x =>
      ∃ body : Body, body.length = n ∧ x = (body.linesFrom secs, secs + body.seconds) := by
  induction n generalizing secs with
  | zero => exact yields_pure ⟨[], rfl, rfl⟩
  | succ n ih =>
    have hlater : Yields (c.wideUpTo 1 : Draw σ (Fin 2)) fun _ => True := fun _ => trivial
    refine hlater.bind fun later _ => ?_
    refine (yields_bodyLine c (secs + later)).bind ?_
    rintro _ ⟨l, rfl⟩
    refine (ih (secs + later)).bind ?_
    rintro _ ⟨body, hlength, rfl⟩
    refine yields_pure ⟨(later, l) :: body, by simp [hlength], ?_⟩
    simp [Body.linesFrom, Body.seconds, Nat.add_assoc]

theorem yields_stepLines (number firstLine started : Nat) :
    Yields (stepLines c number started) fun x => ∃ t : StepScript,
      x = ((⟨number, firstLine, started, t⟩ : Placed).lines, started + t.elapsed) := by
  refine (yields_number c 10 189).bind fun count hcount => ?_
  refine (yields_bodyLines c started count).bind ?_
  rintro _ ⟨body, hlength, rfl⟩
  refine (yields_number c 0 3).bind fun choice _ => ?_
  refine yields_pure ⟨⟨body, by omega, if choice = 0 then 1 else 0⟩, ?_⟩
  have hcode : ((if choice = 0 then 1 else 0 : Fin 2) : Nat) = if choice = 0 then 1 else 0 := by
    split <;> rfl
  simp only [Placed.lines, Placed.finished, StepScript.elapsed, hcode, Nat.add_assoc,
    Nat.add_sub_cancel_left]

/-- **Whatever a chooser draws, the log is the text of a script** with as many steps. -/
theorem yields_stepsFrom (number firstLine started n : Nat) :
    Yields (stepsFrom c number started n) fun ls => ∃ script : List StepScript,
      script.length = n ∧ ls = (place number firstLine started script).flatMap Placed.lines := by
  induction n generalizing number firstLine started with
  | zero => exact yields_pure ⟨[], rfl, rfl⟩
  | succ n ih =>
    refine (yields_stepLines c number firstLine started).bind ?_
    rintro _ ⟨t, rfl⟩
    refine (ih (number + 1) (firstLine + t.body.length + 2) (started + t.elapsed)).bind ?_
    rintro _ ⟨script, hlength, rfl⟩
    exact yields_pure ⟨t :: script, by simp [hlength], rfl⟩

end JobLog.Sample
