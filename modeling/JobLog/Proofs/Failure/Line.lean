import JobLog.Failure.Line
import JobLog.Proofs.Failure.Action
import Mathlib

/-!
# Failure records that are read back

A record is read in two ways: from the line of a log and from its own JSON. Its JSON is read back
in both ways.

* `FailureRecord.IsOwn` is what a record needs to be read back from its own JSON
  (`FailureLine.ofJson?_toJson`), `FailureRecord.IsLogged` what it needs for being read back as a
  line (`FailureLine.ofFields?_insert`).
* `FailureLine.isOwn_of_ofLine?`, `FailureLine.isLogged_of_ofLine?` and
  `FailureLine.isOwn_of_ofJson?` say that records that were read have them.
* `FailureLine.roundTrip` is the result for all lines and values.
-/

namespace JobLog

open Json (Fields)

/-! ### Records read from their own JSON -/

/-- A known action is canonical. The fields of another record are canonical, they are not those of
an action, and the number of the line is not among them. -/
def FailureRecord.IsOwn : FailureRecord → Prop
  | .known action => action.IsCanonical
  | .other fields =>
    (Json.obj fields).IsCanonical ∧ "line_number" ∉ fields.map Prod.fst ∧
      Action.ofTagged? Action.kindByNameOrPlace? (.obj fields) = none

namespace FailureLine

theorem lineNumber_not_mem_recordFields {r : FailureRecord} (h : r.IsOwn) :
    "line_number" ∉ (recordFields r).map Prod.fst := by
  cases r with
  | known action => exact action.lineNumber_not_mem_tagged
  | other fields => exact h.2.1

/-- **A record is read back from its own JSON.** -/
theorem ofJson?_toJson {l : FailureLine} (h : l.record.IsOwn) : ofJson? l.toJson = some l := by
  have hnew := lineNumber_not_mem_recordFields h
  rw [toJson, ofJson?, Fields.filter_insert hnew, Fields.erase_insert hnew]
  obtain ⟨line, record⟩ := l
  cases record with
  | known action =>
    have htagged := Action.ofTagged?_tagged h Action.kindByNameOrPlace? rfl
    simp [recordFields, htagged]
  | other fields =>
    obtain ⟨hcanonical, -, hother⟩ := h
    obtain ⟨hsorted, hvalues⟩ := Json.isCanonical_obj_iff.1 hcanonical
    simp [recordFields, hother, Json.canonicalFields_eq_self hvalues,
      Fields.ofList_eq_self hsorted]

/-- What was read from a canonical value is read back. -/
theorem isOwn_of_ofJson? {v : Json} (hv : v.IsCanonical) {l : FailureLine}
    (h : ofJson? v = some l) : l.record.IsOwn := by
  unfold ofJson? at h
  split at h
  case h_2 => exact nomatch h
  case h_1 fields =>
    split at h
    case h_2 => exact nomatch h
    case h_1 key value hfilter =>
      obtain ⟨line, -, h⟩ := Option.bind_eq_some_iff.1 h
      obtain rfl := Option.some.inj h
      have hrest := Json.isCanonical_erase hv "line_number"
      have hself : Fields.ofList (Json.canonicalFields (Fields.erase "line_number" fields)) =
          Fields.erase "line_number" fields := Json.obj.inj hrest
      dsimp only
      split
      case h_1 action haction => exact Action.isCanonical_of_ofTagged? haction
      case h_2 hother =>
        rw [hself]
        exact ⟨hrest, Fields.not_mem_keys_erase _ _, hother⟩

/-! ### Records read from lines -/

theorem recordOf?_cases {action : String} {fields : Fields} {r : FailureRecord}
    (h : recordOf? action fields = some r) :
    (∃ a, r = .known a ∧ a.isValid ∧ a.IsCanonical) ∨
      r = .other (Fields.erase "line" (Fields.erase "line_number" fields)) ∧
        lower action ∉ Action.names := by
  unfold recordOf? at h
  split at h
  case isTrue =>
    split at h
    case h_1 a ha =>
      split at h
      · exact .inl ⟨a, (Option.some.inj h).symm, ‹_›, Action.isCanonical_of_ofFields? ha⟩
      · exact nomatch h
    case h_2 => exact nomatch h
  case isFalse hname =>
    exact .inr ⟨(Option.some.inj h).symm, fun hmem => hname (List.contains_iff_mem.2 hmem)⟩

/-- What a line holds: a canonical object with an action. -/
theorem ofLine?_cases {text : String} {position : Nat} {l : FailureLine}
    (h : ofLine? text position = some l) :
    ∃ fields action, (Json.obj fields).IsCanonical ∧
      (Fields.get? "action" fields).bind Json.text? = some action ∧
      recordOf? action fields = some l.record := by
  unfold ofLine? at h
  split at h
  case h_1 fields hfields =>
    obtain ⟨action, haction, h⟩ := Option.bind_eq_some_iff.1 h
    obtain ⟨record, hrecord, h⟩ := Option.bind_eq_some_iff.1 h
    obtain rfl := Option.some.inj h
    exact ⟨fields, action, Json.isCanonical_of_ofText? hfields, haction, hrecord⟩
  case h_2 => exact nomatch h

/-- The names of the kinds are in lower case. -/
theorem lower_of_mem_names : ∀ {name : String}, name ∈ Action.names → lower name = name := by
  decide

theorem get?_action_other (fields : Fields) :
    Fields.get? "action" (Fields.erase "line" (Fields.erase "line_number" fields)) =
      Fields.get? "action" fields := by
  rw [Fields.get?_erase (by decide), Fields.get?_erase (by decide)]

/-- What was read from a line is read back from its own JSON. -/
theorem isOwn_of_ofLine? {text : String} {position : Nat} {l : FailureLine}
    (h : ofLine? text position = some l) : l.record.IsOwn := by
  obtain ⟨fields, action, hcanonical, haction, hrecord⟩ := ofLine?_cases h
  rcases recordOf?_cases hrecord with ⟨a, hknown, -, ha⟩ | ⟨hother, hname⟩
  · rw [hknown]
    exact ha
  · rw [hother]
    refine ⟨Json.isCanonical_erase (Json.isCanonical_erase hcanonical _) _, ?_, ?_⟩
    · rw [Fields.erase_comm]
      exact Fields.not_mem_keys_erase _ _
    · -- a kind is its own name in lower case, so the action is no kind as it stands
      rw [← get?_action_other] at haction
      exact Action.ofTagged?_eq_none haction fun hmem =>
        hname ((lower_of_mem_names hmem).symm ▸ hmem)

end FailureLine

/-- A known action may be stored. Another record has an action that is not the name of a kind in
letters of either case, and the line is not among its fields. -/
def FailureRecord.IsLogged : FailureRecord → Prop
  | .known action => action.isValid
  | .other fields =>
    "line" ∉ fields.map Prod.fst ∧
      ∃ action, (Fields.get? "action" fields).bind Json.text? = some action ∧
        FailureLine.lower action ∉ Action.names

namespace FailureLine

theorem isLogged_of_ofLine? {text : String} {position : Nat} {l : FailureLine}
    (h : ofLine? text position = some l) : l.record.IsLogged := by
  obtain ⟨fields, action, -, haction, hrecord⟩ := ofLine?_cases h
  rcases recordOf?_cases hrecord with ⟨a, hknown, hvalid, -⟩ | ⟨hother, hname⟩
  · rw [hknown]
    exact hvalid
  · rw [hother]
    exact ⟨Fields.not_mem_keys_erase _ _, action, by rwa [get?_action_other], hname⟩

theorem line_not_mem_recordFields {r : FailureRecord} (h : r.IsLogged) :
    "line" ∉ (recordFields r).map Prod.fst := by
  cases r with
  | known action => exact action.line_not_mem_tagged
  | other fields => exact h.1

theorem recordOf?_insert_known {a : Action} (h : a.IsCanonical) (hvalid : a.isValid)
    (number : Json) :
    recordOf? a.name (Fields.insert "line_number" number a.tagged) = some (.known a) := by
  have hname : lower a.name = a.name := lower_of_mem_names a.name_mem_names
  rw [recordOf?, hname, if_pos (List.contains_iff_mem.2 a.name_mem_names),
    ← Action.ofFields?_erase_lineNumber, Fields.erase_comm,
    Fields.erase_insert a.lineNumber_not_mem_tagged, a.erase_action_tagged,
    Action.ofFields?_fields h]
  exact if_pos hvalid

theorem recordOf?_insert_other {fields : Fields} {action : String}
    (hnew : "line_number" ∉ fields.map Prod.fst) (hline : "line" ∉ fields.map Prod.fst)
    (hname : lower action ∉ Action.names) (number : Json) :
    recordOf? action (Fields.insert "line_number" number fields) = some (.other fields) := by
  rw [recordOf?, if_neg fun h => hname (List.contains_iff_mem.1 h), Fields.erase_insert hnew,
    Fields.erase_eq_self hline]

/-- **A record is read back from an object with its fields and the number of its line**, if this
is also the position of the line. -/
theorem ofFields?_insert {l : FailureLine} (hown : l.record.IsOwn) (hlogged : l.record.IsLogged) :
    ofFields? l.line (Fields.insert "line_number" (.ofNat l.line) (recordFields l.record)) =
      some l := by
  have hnew := lineNumber_not_mem_recordFields hown
  have hline : lineOf l.line
      (Fields.insert "line_number" (.ofNat l.line) (recordFields l.record)) = l.line := by
    rw [lineOf, Fields.get?_insert (by decide) hnew,
      Fields.get?_eq_none_of_not_mem (line_not_mem_recordFields hlogged)]
    rfl
  rw [ofFields?, hline, Fields.get?_insert (by decide) hnew]
  obtain ⟨line, record⟩ := l
  cases record with
  | known a =>
    have haction : (Fields.get? "action" a.tagged).bind Json.text? = some a.name := by
      simp [Action.tagged]
    simp [recordFields, haction, recordOf?_insert_known hown hlogged]
  | other fields =>
    obtain ⟨hline, action, haction, hname⟩ := hlogged
    have hrecord : recordOf? action (Fields.insert "line_number" (.ofNat line) fields) =
        some (.other fields) := recordOf?_insert_other hnew hline hname _
    simp [recordFields, haction, hrecord]

/-- A text that reads as the JSON of a record from a line is a line with this record. -/
theorem ofLine?_of_ofText? {text : String} {l : FailureLine} (hown : l.record.IsOwn)
    (hlogged : l.record.IsLogged) (htext : Json.ofText? text = some l.toJson) :
    ofLine? text l.line = some l := by
  rw [ofLine?, htext]
  exact ofFields?_insert hown hlogged

/-- **Failure records are read back.** A record that was read from a line is read back from its
own JSON, and from the text of its JSON as a line at its own number, where the written text reads
as the value it was written for. A record that was read from a value whose objects hold each key
once is read back from its own JSON, be it known or of another action. -/
theorem roundTrip :
    (∀ (text : String) (position : Nat) (l : FailureLine), ofLine? text position = some l →
      ofJson? l.toJson = some l ∧
        (Json.ofText? l.toJson.write = some l.toJson →
          ofLine? l.toJson.write l.line = some l)) ∧
    ∀ (v : Json) (l : FailureLine), v.IsCanonical → ofJson? v = some l →
      ofJson? l.toJson = some l := by
  refine ⟨fun text position l h => ?_, fun v l hv h => ofJson?_toJson (isOwn_of_ofJson? hv h)⟩
  have hown := isOwn_of_ofLine? h
  exact ⟨ofJson?_toJson hown, ofLine?_of_ofText? hown (isLogged_of_ofLine? h)⟩

/-- A message that gives its own line. -/
def message : FailureLine := ⟨7, .known (.log .error "m")⟩

theorem ofLine?_message :
    ofLine? "\x7b\"action\":\"LOG\",\"level\":\"ERROR\",\"line\":7,\"message\":\"m\"\x7d" 3 =
      some message := by
  cbv

theorem ofText?_message : Json.ofText? message.toJson.write = some message.toJson := by cbv

/-- A record of an action that is none of the kinds. -/
def unknown : FailureLine := ⟨3, .other [("action", .str "x"), ("b", .null)]⟩

theorem ofLine?_unknown :
    ofLine? "\x7b\"b\":null,\"action\":\"x\",\"line_number\":7\x7d" 3 = some unknown := by
  cbv

theorem ofText?_unknown : Json.ofText? unknown.toJson.write = some unknown.toJson := by cbv

/-- A message whose kind is given by its place. -/
def placed : Json := .obj
  [("action", .ofNat 1), ("level", .str "ERROR"), ("line_number", .ofNat 7), ("message", .str "m")]

theorem isCanonical_placed : placed.IsCanonical := by
  unfold Json.IsCanonical
  cbv

theorem ofJson?_placed : ofJson? placed = some message := by cbv

theorem roundTrip_messages :
    (ofJson? message.toJson = some message ∧
      ofLine? message.toJson.write 7 = some message) ∧
    (ofJson? unknown.toJson = some unknown ∧ ofLine? unknown.toJson.write 3 = some unknown) ∧
    placed.IsCanonical ∧ ofJson? placed = some message ∧
      ofJson? message.toJson = some message := by
  have hmessage := roundTrip.1 _ _ _ ofLine?_message
  have hunknown := roundTrip.1 _ _ _ ofLine?_unknown
  exact ⟨⟨hmessage.1, hmessage.2 ofText?_message⟩, ⟨hunknown.1, hunknown.2 ofText?_unknown⟩,
    isCanonical_placed, ofJson?_placed, roundTrip.2 _ _ isCanonical_placed ofJson?_placed⟩

end FailureLine
end JobLog
