import JobLog.Proofs.Json.Canonical
import JobLog.Proofs.Json.Scan
import JobLog.Proofs.Performance.Schema
import JobLog.Proofs.Sample.Script

/-!
# The payloads of sample logs

The payload of a line is read from its text, and it follows the schema.

* `tokens?_payload` are the tokens of the text.
* `ofText?_write_payload` and `isValid_payload` are the results.
-/

namespace JobLog.Sample

open Json (Token Mode)
open Json.Mode (run run_string_digits run_between_digits tokens?_of_run)

/-- A text in quotes, as a token. -/
def quoted (s : String) : Token := .str (some s)

/-- The tokens of a payload up to its suite's name. -/
def tokensBefore : List Token := [
  .openObject, quoted "framework", .colon, .openObject, quoted "name", .colon, quoted "talos",
  .closeObject, .comma, quoted "suites", .colon, .openList, .openObject, quoted "name", .colon]

/-- The tokens of a payload from its suite's name up to the value. -/
def tokensBetween (suite : Nat) : List Token := [
  quoted ("suite-" ++ toString suite), .comma, quoted "subtests", .colon, .openList, .openObject,
  quoted "name", .colon, quoted "sub", .comma, quoted "value", .colon]

/-- The tokens of a payload from its value on. -/
def tokensBehind (value : Nat) : List Token := [
  .num (some (.int value)), .closeObject, .closeList, .closeObject, .closeList, .closeObject]

theorem run_before :
    run .between ("\x7b\"framework\":\x7b\"name\":\"talos\"\x7d,".toList ++
        "\"suites\":[\x7b\"name\":\"suite-".toList) =
      some (tokensBefore, .string ⟨"suite-".toList.reverse, none, true, .none⟩) := by
  rfl

theorem run_between (suite : Nat) :
    run (.string ⟨(Text.decimal suite).reverse ++ "suite-".toList.reverse, none, true, .none⟩)
        "\",\"subtests\":[\x7b\"name\":\"sub\",\"value\":".toList =
      some (tokensBetween suite, .between) := by
  have hname : String.ofList ((Text.decimal suite).reverse ++ "suite-".toList.reverse).reverse =
      "suite-" ++ toString suite := by
    rw [← String.toList_inj, String.toList_ofList, String.toList_append, toList_toString]
    simp
  rw [tokensBetween, ← hname]
  rfl

theorem tokens?_behind {value : Nat} (h : value < Text.wordBound) :
    Mode.tokens? (.word (Text.decimal value).reverse) "\x7d]\x7d]\x7d".toList =
      some (tokensBehind value) := by
  have hafter : Mode.after? (.word (Text.decimal value).reverse) '\x7d' =
      some ([.num (some (.int value)), .closeObject], .between) := by
    rw [Mode.after?, List.reverse_reverse, Json.ofWord?_decimal h]
    rfl
  simp only [String.reduceToList]
  rw [Mode.tokens?, hafter]
  rfl

theorem tokens?_payload (suite : Nat) {value : Nat} (h : value < Text.wordBound) :
    Json.tokens? (payload suite value).write.toList =
      some (tokensBefore ++ (tokensBetween suite ++ tokensBehind value)) := by
  have hsuite := run_string_digits (fun c => @Text.isAsciiDigit_of_mem_decimal suite c)
    "suite-".toList.reverse
  have hvalue := run_between_digits (Nat.toDigits_ne_nil (n := value))
    fun c => @Text.isAsciiDigit_of_mem_decimal value c
  rw [toList_write_payload, List.append_assoc, List.append_assoc, List.append_assoc]
  have hbehind := tokens?_of_run hvalue (tokens?_behind h)
  have hbetween := tokens?_of_run hsuite (tokens?_of_run (run_between suite) hbehind)
  exact tokens?_of_run run_before hbetween

/-- A payload as it is written. -/
def writtenPayload (suite value : Nat) : Json.Written :=
  .obj [
    (some "framework", .obj [(some "name", .str (some "talos"))]),
    (some "suites", .arr [.obj [
      (some "name", .str (some ("suite-" ++ toString suite))),
      (some "subtests", .arr [.obj [
        (some "name", .str (some "sub")), (some "value", .num (some (.int value)))]])]])]

theorem isCanonical_payload (suite value : Nat) : Json.IsCanonical (payload suite value) := by
  have houter : ["framework", "suites"].Pairwise (· < ·) := by decide
  have hsuite : ["name", "subtests"].Pairwise (· < ·) := by decide
  have hsubtest : ["name", "value"].Pairwise (· < ·) := by decide
  have hname : ["name"].Pairwise (· < ·) := by decide
  have hatom : ∀ s, Json.IsCanonical (.str s) := fun _ => rfl
  have hnumber : Json.IsCanonical (.ofNat value) := rfl
  simp only [payload, Json.isCanonical_obj_iff, Json.isCanonical_arr_iff, Keyed.Sorted,
    List.map_cons, List.map_nil, List.forall_mem_cons, houter, hsuite, hsubtest, hname, hatom,
    hnumber, true_and]
  simp

/-- **A payload is read from its text.** -/
theorem ofText?_write_payload (suite : Nat) {value : Nat} (h : value < Text.wordBound) :
    Json.ofText? (payload suite value).write = some (payload suite value) := by
  have hwritten : (Json.Reading.value []).value?
      (tokensBefore ++ (tokensBetween suite ++ tokensBehind value)) =
        some (writtenPayload suite value) := by
    rfl
  have hvalue : (writtenPayload suite value).value? Json.maxDepth = some (payload suite value) := by
    rfl
  rw [Json.ofText?, Json.Written.ofText?, tokens?_payload suite h, Option.bind_some, hwritten,
    Option.bind_some, hvalue, Option.map_some, isCanonical_payload suite value]

/-- A payload follows the schema. -/
theorem isValid_payload (suite value : Nat) :
    Performance.isValid (payload suite value) = true := by
  rfl

end JobLog.Sample
