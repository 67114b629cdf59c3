import JobLog.Failure.Action
import JobLog.Proofs.Json.Canonical
import JobLog.Proofs.Json.Record

/-!
# Actions that are read back

* `Action.IsCanonical` holds of every action that was read (`Action.isCanonical_of_ofFields?`): a
  duration is a canonical value and not null.
* `Action.ofFields?_fields` reads an action back from its fields, `Action.ofTagged?_tagged` from
  its fields with the kind.
* `Action.ofFields?_erase_lineNumber`: the number of a line makes no difference to an action.
* `Action.ofTagged?_eq_none`: a record of another kind is not taken for an action.
-/

namespace JobLog

open Json (record?_obj record?_erase)

theorem TestStatus.ofJson?_toJson (t : TestStatus) : TestStatus.ofJson? t.toJson = some t := by
  cases t <;> decide

theorem TestStatus.nullable?_toJson (t? : Option TestStatus) :
    Json.nullable? TestStatus.ofJson? ((t?.map TestStatus.toJson).getD .null) = some t? := by
  cases t? with
  | none => rfl
  | some t => exact congrArg (Option.map some) t.ofJson?_toJson

theorem Level.ofJson?_toJson (l : Level) : Level.ofJson? l.toJson = some l := by
  cases l <;> decide

namespace Action

/-- A duration is a canonical value and not null. -/
def IsCanonical : Action → Prop
  | .groupResult _ _ duration? => ∀ v ∈ duration?, v ≠ .null ∧ v.IsCanonical
  | _ => True

theorem nullable?_canonical {duration? : Option Json}
    (h : ∀ v ∈ duration?, v ≠ .null ∧ v.IsCanonical) :
    Json.nullable? (fun v => some v.canonical) (duration?.getD .null) = some duration? := by
  cases duration? with
  | none => rfl
  | some v =>
    obtain ⟨hne, hv⟩ := h v rfl
    cases v with
    | null => exact absurd rfl hne
    | _ => exact congrArg (some ∘ some) hv

/-- **An action is read back from its fields.** -/
theorem ofFields?_fields {a : Action} (h : a.IsCanonical) :
    ofFields? a.name (.obj a.fields) = some a := by
  cases a with
  | testResult test subtest? status expected? message? stack? =>
    show testResultOf? _ = _
    rw [testResultOf?, record?_obj (by simp [fields]) (by simp [fields])]
    simp [fields, TestStatus.ofJson?_toJson, TestStatus.nullable?_toJson]
  | log level message =>
    show logOf? _ = _
    rw [logOf?, record?_obj (by simp [fields]) (by simp [fields])]
    simp [fields, Level.ofJson?_toJson]
  | crash signature? test? stack? stdout? stderr? =>
    show crashOf? _ = _
    rw [crashOf?, record?_obj (by simp [fields]) (by simp [fields])]
    simp [fields]
  | truncated => rfl
  | groupResult group status duration? =>
    show groupResultOf? _ = _
    rw [groupResultOf?, record?_obj (by simp [fields]) (by simp [fields])]
    simp [fields, TestStatus.ofJson?_toJson, nullable?_canonical h]

/-! ### Actions that were read -/

theorem ne_null_of_nullable?_canonical {v w : Json}
    (h : Json.nullable? (fun v => some v.canonical) v = some (some w)) :
    w ≠ .null ∧ w.IsCanonical := by
  cases v with
  | null => exact nomatch h
  | _ =>
    obtain rfl := Option.some.inj (Option.some.inj h)
    exact ⟨nofun, Json.isCanonical_canonical _⟩

theorem isCanonical_of_groupResultOf? {v : Json} {a : Action} (h : groupResultOf? v = some a) :
    a.IsCanonical := by
  simp only [groupResultOf?, Option.bind_eq_bind, Option.bind_eq_some_iff] at h
  obtain ⟨r, -, group, -, status, -, duration?, hduration, ha⟩ := h
  obtain rfl := Option.some.inj ha
  intro w hw
  obtain rfl : duration? = some w := hw
  rw [Json.Record.lenient?_mk] at hduration
  cases hfield : r.fields.get? "duration" with
  | none => simp [hfield] at hduration
  | some v => exact ne_null_of_nullable?_canonical (by simpa [hfield] using hduration)

/-- Every action that was read has a canonical duration or none. -/
theorem isCanonical_of_ofFields? {kind : String} {v : Json} {a : Action}
    (h : ofFields? kind v = some a) : a.IsCanonical := by
  -- one case for each kind; only the result of a group holds a value that was read
  unfold ofFields? at h
  split at h
  case isTrue =>
    simp only [testResultOf?, Option.bind_eq_bind, Option.bind_eq_some_iff] at h
    obtain ⟨_, -, _, -, _, -, _, -, _, -, _, -, _, -, ha⟩ := h
    exact Option.some.inj ha ▸ trivial
  split at h
  case isTrue =>
    simp only [logOf?, Option.bind_eq_bind, Option.bind_eq_some_iff] at h
    obtain ⟨_, -, _, -, _, -, ha⟩ := h
    exact Option.some.inj ha ▸ trivial
  split at h
  case isTrue =>
    simp only [crashOf?, Option.bind_eq_bind, Option.bind_eq_some_iff] at h
    obtain ⟨_, -, _, -, _, -, _, -, _, -, _, -, ha⟩ := h
    exact Option.some.inj ha ▸ trivial
  split at h
  case isTrue =>
    unfold truncatedOf? at h
    split at h
    · exact Option.some.inj h ▸ trivial
    · exact Option.some.inj h ▸ trivial
    · exact nomatch h
  split at h
  case isTrue => exact isCanonical_of_groupResultOf? h
  case isFalse => exact nomatch h

theorem ofFields?_erase_lineNumber (kind : String) (fs : Json.Fields) :
    ofFields? kind (.obj (fs.erase "line_number")) = ofFields? kind (.obj fs) := by
  have htest : testResultOf? (.obj (fs.erase "line_number")) = testResultOf? (.obj fs) := by
    rw [testResultOf?, record?_erase (by simp), testResultOf?]
  have hlog : logOf? (.obj (fs.erase "line_number")) = logOf? (.obj fs) := by
    rw [logOf?, record?_erase (by simp), logOf?]
  have hcrash : crashOf? (.obj (fs.erase "line_number")) = crashOf? (.obj fs) := by
    rw [crashOf?, record?_erase (by simp), crashOf?]
  have htruncated : truncatedOf? (.obj (fs.erase "line_number")) = truncatedOf? (.obj fs) := rfl
  have hgroup : groupResultOf? (.obj (fs.erase "line_number")) = groupResultOf? (.obj fs) := by
    rw [groupResultOf?, record?_erase (by simp), groupResultOf?]
  rw [ofFields?, htest, hlog, hcrash, htruncated, hgroup, ofFields?]

/-! ### The kind of an action -/

theorem name_mem_names (a : Action) : a.name ∈ names := by
  cases a <;> simp [name, names]

theorem action_not_mem_fields (a : Action) : "action" ∉ a.fields.map Prod.fst := by
  cases a <;> simp [fields]

theorem lineNumber_not_mem_tagged (a : Action) : "line_number" ∉ a.tagged.map Prod.fst := by
  cases a <;> simp [tagged, fields]

theorem line_not_mem_tagged (a : Action) : "line" ∉ a.tagged.map Prod.fst := by
  cases a <;> simp [tagged, fields]

theorem erase_action_tagged (a : Action) : a.tagged.erase "action" = a.fields := by
  rw [tagged, Json.Fields.erase, List.filter_cons_of_neg (by simp)]
  exact Json.Fields.erase_eq_self a.action_not_mem_fields

theorem filter_action_tagged (a : Action) :
    a.tagged.filter (·.1 = "action") = [("action", .str a.name)] := by
  rw [tagged, List.filter_cons_of_pos (by simp),
    Json.Fields.filter_eq_nil_of_not_mem a.action_not_mem_fields]

/-- **An action is read back from its fields with the kind.** -/
theorem ofTagged?_tagged {a : Action} (h : a.IsCanonical) (kind? : Json → Option String)
    (hkind : kind? (.str a.name) = some a.name) : ofTagged? kind? (.obj a.tagged) = some a := by
  have hfields := ofFields?_fields h
  rw [ofTagged?, filter_action_tagged, erase_action_tagged]
  simp [hkind, hfields]

theorem isCanonical_of_ofTagged? {kind? : Json → Option String} {v : Json} {a : Action}
    (h : ofTagged? kind? v = some a) : a.IsCanonical := by
  unfold ofTagged? at h
  split at h
  case h_1 =>
    split at h
    · obtain ⟨kind, -, h⟩ := Option.bind_eq_some_iff.1 h
      exact isCanonical_of_ofFields? h
    · exact nomatch h
  case h_2 =>
    obtain ⟨kind, -, h⟩ := Option.bind_eq_some_iff.1 h
    exact isCanonical_of_ofFields? h
  case h_3 => exact nomatch h

theorem ofFields?_of_not_mem_names {kind : String} (h : kind ∉ names) (v : Json) :
    ofFields? kind v = none := by
  simp only [names, List.mem_cons, List.not_mem_nil, or_false, not_or] at h
  obtain ⟨htest, hlog, hcrash, htruncated, hgroup⟩ := h
  rw [ofFields?, if_neg htest, if_neg hlog, if_neg hcrash, if_neg htruncated, if_neg hgroup]

/-- The fields of a record of another kind are not those of an action. -/
theorem ofTagged?_eq_none {fs : Json.Fields} {kind : String}
    (hget : (fs.get? "action").bind Json.text? = some kind) (hkind : kind ∉ names) :
    ofTagged? kindByNameOrPlace? (.obj fs) = none := by
  rw [ofTagged?]
  split
  case h_1 v hfilter =>
    rw [Json.Fields.get?_eq_head?_filter, hfilter] at hget
    have hname : kindByNameOrPlace? v = some kind := by
      cases v with
      | str s => exact hget
      | _ => exact nomatch hget
    simp [hname, ofFields?_of_not_mem_names hkind]
  case h_2 => rfl

end Action
end JobLog
