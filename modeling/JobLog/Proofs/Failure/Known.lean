import JobLog.Proofs.Failure.Unknown
import JobLog.Proofs.Json.Holds

/-!
# Records of known actions

What the fields of an object must be for it to be a record of a kind, told by the values alone.

* `TestStatus.IsNamed` and `Level.IsNamed` are the names of outcomes and levels, in letters of
  either case.
* `Action.IsReadFrom` is the action that an object describes; `Action.ofFields?_iff` says that it is
  the one that is read. `Action.IsWellFormed` lists the fields of each kind with their types;
  `Action.exists_isReadFrom_iff` says that these objects describe an action.
* `FailureLine.known_iff` is the result for all lines.
-/

namespace JobLog

open Json (Fields Holds IsOrdered IsText IsVoid MayHold Record)

/-! ### Names -/

namespace TestStatus

/-- The value is the name of the outcome, in letters of either case. -/
def IsNamed (v : Json) (t : TestStatus) : Prop := ∃ s, v = .str s ∧ Text.SameLetters s t.name

theorem ofName?_eq_some_iff {s : String} {t : TestStatus} :
    ofName? s = some t ↔ Text.SameLetters s t.name := by
  have hupper : ∀ t : TestStatus, t.name.toList.map Char.toUpper = t.name.toList := by
    intro t; cases t <;> decide
  simp only [ofName?, Text.map_toUpper_eq_iff (hupper _)]
  exact Text.find?_sameLetters_iff (by intro t; cases t <;> decide)
    (by intro t u; cases t <;> cases u <;> decide)

theorem reads_ofJson? : Json.Reads ofJson? IsNamed := by
  intro v t
  simp only [ofJson?, Option.bind_eq_some_iff, Json.reads_text? v, ofName?_eq_some_iff]
  rfl

end TestStatus

namespace Level

/-- The value is the name of the level, in letters of either case. -/
def IsNamed (v : Json) (l : Level) : Prop := ∃ s, v = .str s ∧ Text.SameLetters s l.name

theorem ofName?_eq_some_iff {s : String} {l : Level} :
    ofName? s = some l ↔ Text.SameLetters s l.name := by
  have hlower : ∀ l : Level, l.name.toList.map Char.toLower = l.name.toList := by
    intro l; cases l <;> decide
  simp only [ofName?, Text.map_toLower_eq_iff (hlower _)]
  exact Text.find?_sameLetters_iff (by intro l; cases l <;> decide)
    (by intro l m; cases l <;> cases m <;> decide)

theorem reads_ofJson? : Json.Reads ofJson? IsNamed := by
  intro v l
  simp only [ofJson?, Option.bind_eq_some_iff, Json.reads_text? v, ofName?_eq_some_iff]
  rfl

end Level

/-! ### The fields of a kind -/

namespace Action

/-- The action that an object with the given values of fields describes. The path of a group is
short and has no backslash. -/
inductive IsReadFrom (value? : String → Option Json) : Action → Prop
  | testResult {test : String} {subtest? : Option String} {status : TestStatus}
      {expected? : Option TestStatus} {message? stack? : Option String}
      (htest : Holds IsText (value? "test") test)
      (hsubtest : MayHold IsText (value? "subtest") subtest?)
      (hstatus : Holds TestStatus.IsNamed (value? "status") status)
      (hexpected : MayHold TestStatus.IsNamed (value? "expected") expected?)
      (hmessage : MayHold IsText (value? "message") message?)
      (hstack : MayHold IsText (value? "stack") stack?) :
      IsReadFrom value? (.testResult test subtest? status expected? message? stack?)
  | log {level : Level} {message : String}
      (hlevel : Holds Level.IsNamed (value? "level") level)
      (hmessage : Holds IsText (value? "message") message) :
      IsReadFrom value? (.log level message)
  | crash {signature? test? stack? stdout? stderr? : Option String}
      (hsignature : MayHold IsText (value? "signature") signature?)
      (htest : MayHold IsText (value? "test") test?)
      (hstack : MayHold IsText (value? "stack") stack?)
      (hstdout : MayHold IsText (value? "stackwalk_stdout") stdout?)
      (hstderr : MayHold IsText (value? "stackwalk_stderr") stderr?) :
      IsReadFrom value? (.crash signature? test? stack? stdout? stderr?)
  | truncated : IsReadFrom value? .truncated
  | groupResult {group : String} {status : TestStatus} {duration? : Option Json}
      (hgroup : Holds IsText (value? "group") group)
      (hslash : '\\' ∉ group.toList) (hlength : group.toList.length ≤ 255)
      (hstatus : Holds TestStatus.IsNamed (value? "status") status)
      (hduration : MayHold IsOrdered (value? "duration") duration?) :
      IsReadFrom value? (.groupResult group status duration?)

section

variable {fields : Fields} {value? : String → Option Json} {names : List String} {a : Action}

/-- The object has its keys in order, and apart from the kind the given values. -/
def IsObjectOf (value? : String → Option Json) (fields : Fields) : Prop :=
  (Json.obj fields).IsCanonical ∧
    ∀ key, key ≠ "action" → fields.get? key = (value? key).map Json.canonical

/-- The record with the named fields of an object. -/
def named (names : List String) (fields : Fields) : Record :=
  ⟨fields.filter fun f => names.contains f.1, false⟩

theorem record?_eq_named (h : IsObjectOf value? fields) (names : List String) :
    (Json.obj fields).record? names = some (named names fields) := by
  have hsorted := (Json.isCanonical_obj_iff.1 h.1).1.sublist
    (List.filter_sublist (p := fun f => names.contains f.1))
  exact if_pos (Fields.distinct_iff.2 (List.Pairwise.imp ne_of_lt hsorted))

theorem get?_named (h : IsObjectOf value? fields) {key : String} (hkey : key ∈ names)
    (hne : key ≠ "action") :
    (named names fields).fields.get? key = (value? key).map Json.canonical := by
  rw [← h.2 key hne]
  exact Fields.get?_filter (p := fun f => names.contains f.1)
    (fun _ => List.contains_iff_mem.2 hkey) fields

variable {α : Type} {read? : Json → Option α} {p : Json → α → Prop}

/-- A field that must be there, in a record with the named fields of an object. -/
theorem required?_named_iff (h : IsObjectOf value? fields) (hreads : Json.Reads read? p)
    {key : String} (hkey : key ∈ names) (hne : key ≠ "action") {x : α} :
    (named names fields).required? key read? = some x ↔ Holds p (value? key) x := by
  rw [← hreads.bind_eq_some_iff, ← get?_named h hkey hne]
  rfl

/-- A field that need not be there, in a record with the named fields of an object. -/
theorem lenient?_named_iff (h : IsObjectOf value? fields) (hreads : Json.Reads read? p)
    {key : String} (hkey : key ∈ names) (hne : key ≠ "action") {x? : Option α} :
    (named names fields).lenient? key read? = some x? ↔ MayHold p (value? key) x? := by
  rw [← hreads.elim_eq_some_iff, ← get?_named h hkey hne, ← Record.lenient?_mk _ _ _ false]
  rfl

theorem testResultOf?_iff (h : IsObjectOf value? fields) :
    testResultOf? (.obj fields) = some a ↔ a.name = "test_result" ∧ a.IsReadFrom value? := by
  rw [testResultOf?, record?_eq_named h]
  simp (disch := simp) only [Option.bind_eq_bind, Option.bind_some, Option.bind_eq_some_iff,
    required?_named_iff h Json.reads_text?, required?_named_iff h TestStatus.reads_ofJson?,
    lenient?_named_iff h Json.reads_text?, lenient?_named_iff h TestStatus.reads_ofJson?]
  constructor
  · rintro ⟨test, htest, subtest?, hsubtest, status, hstatus, expected?, hexpected, message?,
      hmessage, stack?, hstack, ⟨⟩⟩
    exact ⟨rfl, .testResult htest hsubtest hstatus hexpected hmessage hstack⟩
  · rintro ⟨hname, hread⟩
    cases hread with
    | testResult htest hsubtest hstatus hexpected hmessage hstack =>
      exact ⟨_, htest, _, hsubtest, _, hstatus, _, hexpected, _, hmessage, _, hstack, rfl⟩
    | log | crash | truncated | groupResult => simp [name] at hname

theorem logOf?_iff (h : IsObjectOf value? fields) :
    logOf? (.obj fields) = some a ↔ a.name = "log" ∧ a.IsReadFrom value? := by
  rw [logOf?, record?_eq_named h]
  simp (disch := simp) only [Option.bind_eq_bind, Option.bind_some, Option.bind_eq_some_iff,
    required?_named_iff h Json.reads_text?, required?_named_iff h Level.reads_ofJson?]
  constructor
  · rintro ⟨level, hlevel, message, hmessage, ⟨⟩⟩
    exact ⟨rfl, .log hlevel hmessage⟩
  · rintro ⟨hname, hread⟩
    cases hread with
    | log hlevel hmessage => exact ⟨_, hlevel, _, hmessage, rfl⟩
    | testResult | crash | truncated | groupResult => simp [name] at hname

theorem crashOf?_iff (h : IsObjectOf value? fields) :
    crashOf? (.obj fields) = some a ↔ a.name = "crash" ∧ a.IsReadFrom value? := by
  rw [crashOf?, record?_eq_named h]
  simp (disch := simp) only [Option.bind_eq_bind, Option.bind_some, Option.bind_eq_some_iff,
    lenient?_named_iff h Json.reads_text?]
  constructor
  · rintro ⟨signature?, hsignature, test?, htest, stack?, hstack, stdout?, hstdout, stderr?,
      hstderr, ⟨⟩⟩
    exact ⟨rfl, .crash hsignature htest hstack hstdout hstderr⟩
  · rintro ⟨hname, hread⟩
    cases hread with
    | crash hsignature htest hstack hstdout hstderr =>
      exact ⟨_, hsignature, _, htest, _, hstack, _, hstdout, _, hstderr, rfl⟩
    | testResult | log | truncated | groupResult => simp [name] at hname

theorem truncatedOf?_iff :
    truncatedOf? (.obj fields) = some a ↔ a.name = "truncated" ∧ a.IsReadFrom value? := by
  constructor
  · rintro ⟨⟩
    exact ⟨rfl, .truncated⟩
  · rintro ⟨hname, hread⟩
    cases hread with
    | truncated => rfl
    | testResult | log | crash | groupResult => simp [name] at hname

theorem isValid_groupResult_iff {group : String} {status : TestStatus} {duration? : Option Json} :
    (groupResult group status duration?).isValid = true ↔
      '\\' ∉ group.toList ∧ group.toList.length ≤ 255 := by
  rw [isValid, Bool.and_eq_true, Bool.not_eq_true', decide_eq_true_iff]
  simp [maxGroupLength]

theorem groupResultOf?_iff (h : IsObjectOf value? fields) :
    (groupResultOf? (.obj fields) = some a ∧ a.isValid = true) ↔
      a.name = "group_result" ∧ a.IsReadFrom value? := by
  rw [groupResultOf?, record?_eq_named h]
  simp (disch := simp) only [Option.bind_eq_bind, Option.bind_some, Option.bind_eq_some_iff,
    required?_named_iff h Json.reads_text?, required?_named_iff h TestStatus.reads_ofJson?,
    lenient?_named_iff h Json.reads_canonical]
  constructor
  · rintro ⟨⟨group, hgroup, status, hstatus, duration?, hduration, ⟨⟩⟩, hvalid⟩
    obtain ⟨hslash, hlength⟩ := isValid_groupResult_iff.1 hvalid
    exact ⟨rfl, .groupResult hgroup hslash hlength hstatus hduration⟩
  · rintro ⟨hname, hread⟩
    cases hread with
    | groupResult hgroup hslash hlength hstatus hduration =>
      exact ⟨⟨_, hgroup, _, hstatus, _, hduration, rfl⟩,
        isValid_groupResult_iff.2 ⟨hslash, hlength⟩⟩
    | testResult | log | crash | truncated => simp [name] at hname

/-- Only the result of a group may not be stored. -/
theorem and_isValid_iff {kind : String} (hkind : kind ≠ "group_result") {q : Prop} :
    ((a.name = kind ∧ q) ∧ a.isValid = true) ↔ a.name = kind ∧ q := by
  refine and_iff_left_of_imp ?_
  rintro ⟨rfl, -⟩
  cases a with
  | groupResult => exact absurd rfl hkind
  | testResult | log | crash | truncated => rfl

/-- **The action that is read is the one that the object describes.** -/
theorem ofFields?_iff (h : IsObjectOf value? fields) {kind : String} (hkind : kind ∈ Action.names) :
    (ofFields? kind (.obj fields) = some a ∧ a.isValid = true) ↔
      a.name = kind ∧ a.IsReadFrom value? := by
  simp only [Action.names, List.mem_cons, List.not_mem_nil, or_false] at hkind
  rcases hkind with rfl | rfl | rfl | rfl | rfl
  · show (testResultOf? _ = some a ∧ _) ↔ _
    rw [testResultOf?_iff h, and_isValid_iff (by decide)]
  · show (logOf? _ = some a ∧ _) ↔ _
    rw [logOf?_iff h, and_isValid_iff (by decide)]
  · show (crashOf? _ = some a ∧ _) ↔ _
    rw [crashOf?_iff h, and_isValid_iff (by decide)]
  · show (truncatedOf? (.obj fields) = some a ∧ _) ↔ _
    rw [truncatedOf?_iff, and_isValid_iff (by decide)]
  · exact groupResultOf?_iff h

end

/-! ### Well-formed records -/

/-- The types of fields. -/
inductive FieldType
  | text
  /-- A short text without a backslash. -/
  | path
  | status
  | level
  | any

/-- The value has the type. -/
def FieldType.Admits : FieldType → Json → Prop
  | .text, v => ∃ s, v = .str s
  | .path, v => ∃ s, v = .str s ∧ '\\' ∉ s.toList ∧ s.toList.length ≤ 255
  | .status, v => ∃ s, v = .str s ∧ ∃ t : TestStatus, Text.SameLetters s t.name
  | .level, v => ∃ s, v = .str s ∧ ∃ l : Level, Text.SameLetters s l.name
  | .any, _ => True

/-- The field is there, with a value of the type. -/
def FieldType.IsPresent (type : FieldType) (v? : Option Json) : Prop :=
  ∃ v, v? = some v ∧ type.Admits v

/-- The fields that a record of a kind must have. -/
def requiredFields (kind : String) : List (String × FieldType) :=
  if kind = "test_result" then [("test", .text), ("status", .status)]
  else if kind = "log" then [("level", .level), ("message", .text)]
  else if kind = "group_result" then [("group", .path), ("status", .status)]
  else []

/-- The fields that a record of a kind may have. -/
def optionalFields (kind : String) : List (String × FieldType) :=
  if kind = "test_result" then
    [("subtest", .text), ("expected", .status), ("message", .text), ("stack", .text)]
  else if kind = "crash" then
    [("signature", .text), ("test", .text), ("stack", .text), ("stackwalk_stdout", .text),
      ("stackwalk_stderr", .text)]
  else if kind = "group_result" then [("duration", .any)]
  else []

/-- The object has the fields of the kind, with their types. -/
structure IsWellFormed (kind : String) (value? : String → Option Json) : Prop where
  required : ∀ f ∈ requiredFields kind, f.2.IsPresent (value? f.1)
  optional : ∀ f ∈ optionalFields kind, IsVoid (value? f.1) ∨ f.2.IsPresent (value? f.1)

namespace FieldType

theorem admits_text_iff (v : Json) : (∃ s, IsText v s) ↔ text.Admits v := Iff.rfl

theorem admits_status_iff (v : Json) : (∃ t, TestStatus.IsNamed v t) ↔ status.Admits v :=
  ⟨fun ⟨t, s, hv, hs⟩ => ⟨s, hv, t, hs⟩, fun ⟨s, hv, t, hs⟩ => ⟨t, s, hv, hs⟩⟩

theorem admits_level_iff (v : Json) : (∃ l, Level.IsNamed v l) ↔ level.Admits v :=
  ⟨fun ⟨l, s, hv, hs⟩ => ⟨s, hv, l, hs⟩, fun ⟨s, hv, l, hs⟩ => ⟨l, s, hv, hs⟩⟩

theorem admits_any_iff (v : Json) : (∃ w, IsOrdered v w) ↔ any.Admits v :=
  ⟨fun _ => trivial, fun _ => ⟨v.canonical, rfl⟩⟩

variable {α : Type} {p : Json → α → Prop} {type : FieldType} {v? : Option Json}

theorem exists_holds_iff (hp : ∀ v, (∃ a, p v a) ↔ type.Admits v) :
    (∃ a, Holds p v? a) ↔ type.IsPresent v? := by
  constructor
  · rintro ⟨a, v, hv, ha⟩
    exact ⟨v, hv, (hp v).1 ⟨a, ha⟩⟩
  · rintro ⟨v, hv, hadmits⟩
    obtain ⟨a, ha⟩ := (hp v).2 hadmits
    exact ⟨a, v, hv, ha⟩

theorem exists_mayHold_iff (hp : ∀ v, (∃ a, p v a) ↔ type.Admits v) :
    (∃ a?, MayHold p v? a?) ↔ IsVoid v? ∨ type.IsPresent v? := by
  constructor
  · rintro ⟨_, ⟨hvoid⟩ | ⟨hv, -, ha⟩⟩
    · exact .inl hvoid
    · exact .inr ⟨_, hv, (hp _).1 ⟨_, ha⟩⟩
  · rintro (hvoid | ⟨v, hv, hadmits⟩)
    · exact ⟨none, .void hvoid⟩
    · by_cases hnull : v = .null
      · exact ⟨none, .void (.inr (hnull ▸ hv))⟩
      · obtain ⟨a, ha⟩ := (hp v).2 hadmits
        exact ⟨some a, .value hv hnull ha⟩

theorem exists_path_iff :
    (∃ group, Holds IsText v? group ∧ '\\' ∉ group.toList ∧ group.toList.length ≤ 255) ↔
      path.IsPresent v? := by
  constructor
  · rintro ⟨group, ⟨v, hv, htext⟩, hpath⟩
    exact ⟨v, hv, group, htext, hpath⟩
  · rintro ⟨v, hv, group, htext, hpath⟩
    exact ⟨group, ⟨v, hv, htext⟩, hpath⟩

end FieldType

theorem isWellFormed_iff {kind : String} {value? : String → Option Json} :
    IsWellFormed kind value? ↔
      (∀ f ∈ requiredFields kind, f.2.IsPresent (value? f.1)) ∧
        ∀ f ∈ optionalFields kind, IsVoid (value? f.1) ∨ f.2.IsPresent (value? f.1) :=
  ⟨fun h => ⟨h.required, h.optional⟩, fun h => ⟨h.1, h.2⟩⟩

section

variable {value? : String → Option Json}

open FieldType

theorem exists_testResult_iff :
    (∃ a : Action, a.name = "test_result" ∧ a.IsReadFrom value?) ↔
      IsWellFormed "test_result" value? := by
  simp only [isWellFormed_iff, requiredFields, optionalFields, reduceIte, List.forall_mem_cons,
    List.not_mem_nil, false_imp_iff, implies_true, and_true,
    ← exists_mayHold_iff admits_text_iff, ← exists_mayHold_iff admits_status_iff]
  simp only [← exists_holds_iff admits_text_iff, ← exists_holds_iff admits_status_iff]
  constructor
  · rintro ⟨a, hname, hread⟩
    cases hread with
    | testResult htest hsubtest hstatus hexpected hmessage hstack =>
      exact ⟨⟨⟨_, htest⟩, _, hstatus⟩, ⟨_, hsubtest⟩, ⟨_, hexpected⟩, ⟨_, hmessage⟩, _, hstack⟩
    | log | crash | truncated | groupResult => simp [name] at hname
  · rintro ⟨⟨⟨test, htest⟩, status, hstatus⟩, ⟨subtest?, hsubtest⟩, ⟨expected?, hexpected⟩,
      ⟨message?, hmessage⟩, stack?, hstack⟩
    exact ⟨_, rfl, .testResult htest hsubtest hstatus hexpected hmessage hstack⟩

theorem exists_log_iff :
    (∃ a : Action, a.name = "log" ∧ a.IsReadFrom value?) ↔ IsWellFormed "log" value? := by
  simp only [isWellFormed_iff, requiredFields, optionalFields, String.reduceEq, reduceIte,
    List.forall_mem_cons, List.not_mem_nil, false_imp_iff, implies_true, and_true,
    ← exists_holds_iff admits_text_iff, ← exists_holds_iff admits_level_iff]
  constructor
  · rintro ⟨a, hname, hread⟩
    cases hread with
    | log hlevel hmessage => exact ⟨⟨_, hlevel⟩, _, hmessage⟩
    | testResult | crash | truncated | groupResult => simp [name] at hname
  · rintro ⟨⟨level, hlevel⟩, message, hmessage⟩
    exact ⟨_, rfl, .log hlevel hmessage⟩

theorem exists_crash_iff :
    (∃ a : Action, a.name = "crash" ∧ a.IsReadFrom value?) ↔ IsWellFormed "crash" value? := by
  simp only [isWellFormed_iff, requiredFields, optionalFields, String.reduceEq, reduceIte,
    List.forall_mem_cons, List.not_mem_nil, false_imp_iff, implies_true, and_true, true_and,
    ← exists_mayHold_iff admits_text_iff]
  constructor
  · rintro ⟨a, hname, hread⟩
    cases hread with
    | crash hsignature htest hstack hstdout hstderr =>
      exact ⟨⟨_, hsignature⟩, ⟨_, htest⟩, ⟨_, hstack⟩, ⟨_, hstdout⟩, _, hstderr⟩
    | testResult | log | truncated | groupResult => simp [name] at hname
  · rintro ⟨⟨signature?, hsignature⟩, ⟨test?, htest⟩, ⟨stack?, hstack⟩, ⟨stdout?, hstdout⟩,
      stderr?, hstderr⟩
    exact ⟨_, rfl, .crash hsignature htest hstack hstdout hstderr⟩

theorem exists_truncated_iff :
    (∃ a : Action, a.name = "truncated" ∧ a.IsReadFrom value?) ↔
      IsWellFormed "truncated" value? :=
  iff_of_true ⟨.truncated, rfl, .truncated⟩ (isWellFormed_iff.2 ⟨nofun, nofun⟩)

theorem exists_groupResult_iff :
    (∃ a : Action, a.name = "group_result" ∧ a.IsReadFrom value?) ↔
      IsWellFormed "group_result" value? := by
  simp only [isWellFormed_iff, requiredFields, optionalFields, String.reduceEq, reduceIte,
    List.forall_mem_cons, List.not_mem_nil, false_imp_iff, implies_true, and_true,
    ← exists_mayHold_iff admits_any_iff]
  simp only [← exists_path_iff, ← exists_holds_iff admits_status_iff]
  constructor
  · rintro ⟨a, hname, hread⟩
    cases hread with
    | groupResult hgroup hslash hlength hstatus hduration =>
      exact ⟨⟨⟨_, hgroup, hslash, hlength⟩, _, hstatus⟩, _, hduration⟩
    | testResult | log | crash | truncated => simp [name] at hname
  · rintro ⟨⟨⟨group, hgroup, hslash, hlength⟩, status, hstatus⟩, duration?, hduration⟩
    exact ⟨_, rfl, .groupResult hgroup hslash hlength hstatus hduration⟩

end

/-- **The well-formed objects of a kind are those that describe an action.** -/
theorem exists_isReadFrom_iff {kind : String} (hkind : kind ∈ names)
    (value? : String → Option Json) :
    (∃ a : Action, a.name = kind ∧ a.IsReadFrom value?) ↔ IsWellFormed kind value? := by
  simp only [Action.names, List.mem_cons, List.not_mem_nil, or_false] at hkind
  rcases hkind with rfl | rfl | rfl | rfl | rfl
  exacts [exists_testResult_iff, exists_log_iff, exists_crash_iff, exists_truncated_iff,
    exists_groupResult_iff]

end Action

/-! ### The result -/

namespace FailureLine

/-- The names of a field under which the case of a text does not count. -/
def foldedKeys : List String := ["action", "status", "expected", "level"]

/-- The values are the same, apart from the case of a text where it does not count. -/
def Alike (key : String) (v? w? : Option Json) : Prop :=
  v? = w? ∨
    key ∈ foldedKeys ∧ ∃ s t, v? = some (.str s) ∧ w? = some (.str t) ∧ Text.SameLetters s t

/-- The names of the fields of a kind. -/
def fieldNames (kind : String) : List String :=
  (Action.requiredFields kind ++ Action.optionalFields kind).map Prod.fst

section

variable {text action kind : String} {written : Fields}

theorem recordOf?_iff (hkind : kind ∈ Action.names) (hsame : Text.SameLetters action kind)
    {r : FailureRecord} {fields : Fields} :
    recordOf? action fields = some r ↔
      ∃ a, r = .known a ∧
        Action.ofFields? kind (.obj (Fields.erase "action" fields)) = some a ∧
        a.isValid = true := by
  rw [recordOf?, (lower_eq_iff (lower_of_mem_names hkind)).2 hsame,
    if_pos (List.contains_iff_mem.2 hkind)]
  cases Action.ofFields? kind (.obj (Fields.erase "action" fields)) with
  | none =>
    constructor
    · rintro ⟨⟩
    · rintro ⟨_, -, ⟨⟩, -⟩
  | some a =>
    dsimp only
    rw [Option.ite_none_right_eq_some]
    constructor
    · rintro ⟨hvalid, ⟨⟩⟩
      exact ⟨a, rfl, rfl, hvalid⟩
    · rintro ⟨b, rfl, ⟨⟩, hvalid⟩
      exact ⟨hvalid, rfl⟩

theorem isObjectOf_lastFields (h : Json.ofTextIn? .whole text = some (.obj written)) :
    Action.IsObjectOf (Fields.last? · written) (Fields.erase "action" (lastFields written)) := by
  refine ⟨Json.isCanonical_erase (Json.isCanonical_of_ofText? (ofText?_of_ofTextIn? h)) _,
    fun key hne => ?_⟩
  rw [Fields.get?_erase hne, get?_lastFields]

/-- The record of a line is the action that its object describes, with the number of the line. -/
theorem ofLine?_eq_some_iff (htext : Json.ofTextIn? .whole text = some (.obj written))
    (haction : written.last? "action" = some (.str action)) (hkind : kind ∈ Action.names)
    (hsame : Text.SameLetters action kind) {position : Nat} {l : FailureLine} :
    ofLine? text position = some l ↔
      IsLineNumber position (written.last? "line") l.line ∧
        ∃ a, l.record = .known a ∧ a.name = kind ∧ a.IsReadFrom (Fields.last? · written) := by
  have hfields := isObjectOf_lastFields htext
  rw [ofLine?_of_ofTextIn? htext haction, Option.map_eq_some_iff, isLineNumber_last?_iff htext]
  simp only [recordOf?_iff hkind hsame, Action.ofFields?_iff hfields hkind]
  constructor
  · rintro ⟨r, ⟨a, rfl, ha⟩, rfl⟩
    exact ⟨rfl, a, rfl, ha⟩
  · obtain ⟨line, record⟩ := l
    rintro ⟨rfl, a, rfl, ha⟩
    exact ⟨_, ⟨a, rfl, ha⟩, rfl⟩

/-- The line holds a record where its object is well formed. -/
theorem exists_ofLine?_iff (htext : Json.ofTextIn? .whole text = some (.obj written))
    (haction : written.last? "action" = some (.str action)) (hkind : kind ∈ Action.names)
    (hsame : Text.SameLetters action kind) {position : Nat} :
    (∃ l, ofLine? text position = some l) ↔
      Action.IsWellFormed kind (Fields.last? · written) := by
  simp only [ofLine?_eq_some_iff htext haction hkind hsame, ← Action.exists_isReadFrom_iff hkind]
  constructor
  · rintro ⟨l, -, a, -, ha⟩
    exact ⟨a, ha⟩
  · rintro ⟨a, ha⟩
    exact ⟨⟨_, .known a⟩, (isLineNumber_last?_iff htext).2 rfl, a, rfl, ha⟩

end

/-! ### The case of texts -/

section

variable {key kind : String} {v? w? : Option Json}

theorem Alike.symm (h : Alike key v? w?) : Alike key w? v? := by
  obtain rfl | ⟨hkey, s, t, hv, hw, hsame⟩ := h
  · exact .inl rfl
  · exact .inr ⟨hkey, t, s, hw, hv, hsame.symm⟩

theorem Alike.eq (h : Alike key v? w?) (hkey : key ∉ foldedKeys) : v? = w? :=
  h.resolve_right fun hfolded => hkey hfolded.1

/-- Values with the names of the same things. -/
theorem Alike.holds {α : Type} {name : α → String} (h : Alike key v? w?) {a : α}
    (hv : Holds (fun v a => ∃ s, v = .str s ∧ Text.SameLetters s (name a)) v? a) :
    Holds (fun v a => ∃ s, v = .str s ∧ Text.SameLetters s (name a)) w? a := by
  obtain rfl | ⟨-, s, t, rfl, rfl, hsame⟩ := h
  · exact hv
  · obtain ⟨_, ⟨⟩, _, ⟨⟩, hs⟩ := hv
    exact ⟨_, rfl, t, rfl, hsame.symm.trans hs⟩

theorem Alike.mayHold {α : Type} {name : α → String} (h : Alike key v? w?) {a? : Option α}
    (hv : MayHold (fun v a => ∃ s, v = .str s ∧ Text.SameLetters s (name a)) v? a?) :
    MayHold (fun v a => ∃ s, v = .str s ∧ Text.SameLetters s (name a)) w? a? := by
  obtain rfl | ⟨-, s, t, rfl, rfl, hsame⟩ := h
  · exact hv
  · obtain ⟨hvoid | hvoid⟩ | ⟨⟨⟩, -, _, ⟨⟩, hs⟩ := hv
    · exact nomatch hvoid
    · exact nomatch hvoid
    · exact .value rfl nofun ⟨t, rfl, hsame.symm.trans hs⟩

variable {value? other? : String → Option Json}

theorem eq_of_alike (halike : ∀ key ∈ fieldNames kind, Alike key (value? key) (other? key))
    (hkey : key ∈ fieldNames kind) (hfolded : key ∉ foldedKeys) : value? key = other? key :=
  (halike key hkey).eq hfolded

/-- Objects that are alike in the fields of a kind describe the same action. -/
theorem isReadFrom_of_alike {a : Action}
    (halike : ∀ key ∈ fieldNames a.name, Alike key (value? key) (other? key))
    (h : a.IsReadFrom value?) : a.IsReadFrom other? := by
  cases h with
  | testResult htest hsubtest hstatus hexpected hmessage hstack =>
    change ∀ key ∈ fieldNames "test_result", _ at halike
    rw [eq_of_alike halike (by decide) (by decide)] at htest hsubtest hmessage hstack
    exact .testResult htest hsubtest ((halike _ (by decide)).holds hstatus)
      ((halike _ (by decide)).mayHold hexpected) hmessage hstack
  | log hlevel hmessage =>
    change ∀ key ∈ fieldNames "log", _ at halike
    rw [eq_of_alike halike (by decide) (by decide)] at hmessage
    exact .log ((halike _ (by decide)).holds hlevel) hmessage
  | crash hsignature htest hstack hstdout hstderr =>
    change ∀ key ∈ fieldNames "crash", _ at halike
    rw [eq_of_alike halike (by decide) (by decide)] at hsignature htest hstack hstdout hstderr
    exact .crash hsignature htest hstack hstdout hstderr
  | truncated => exact .truncated
  | groupResult hgroup hslash hlength hstatus hduration =>
    change ∀ key ∈ fieldNames "group_result", _ at halike
    rw [eq_of_alike halike (by decide) (by decide)] at hgroup hduration
    exact .groupResult hgroup hslash hlength ((halike _ (by decide)).holds hstatus) hduration

end

/-- Two objects of the same kind that are alike in its fields hold the same record. -/
theorem ofLine?_congr {text text' action action' kind : String} {written written' : Fields}
    (htext : Json.ofTextIn? .whole text = some (.obj written))
    (haction : written.last? "action" = some (.str action)) (hkind : kind ∈ Action.names)
    (hsame : Text.SameLetters action kind)
    (htext' : Json.ofTextIn? .whole text' = some (.obj written'))
    (haction' : written'.last? "action" = some (.str action'))
    (hsame' : Text.SameLetters action' kind)
    (halike : ∀ key ∈ "line" :: fieldNames kind, Alike key (written.last? key) (written'.last? key))
    (position : Nat) : ofLine? text' position = ofLine? text position := by
  have hline : written.last? "line" = written'.last? "line" :=
    (halike "line" (List.mem_cons_self ..)).eq (by decide)
  have hfields := fun key hkey => halike key (List.mem_cons_of_mem "line" hkey)
  refine Option.ext fun l => ?_
  rw [ofLine?_eq_some_iff htext' haction' hkind hsame',
    ofLine?_eq_some_iff htext haction hkind hsame, hline]
  refine and_congr_right fun _ => exists_congr fun a => and_congr_right fun _ =>
    and_congr_right fun hname => ?_
  subst hname
  exact ⟨isReadFrom_of_alike fun key hkey => (hfields key hkey).symm, isReadFrom_of_alike hfields⟩

/-- **Known records are read up to case.** A line that is an object whose action is the name of a
kind, in letters of either case, holds a known record if the object is well formed, and none
otherwise. The record is the action of this kind that the object describes, with the number of the
line. It is the same for every object that is alike in the fields of the kind, and in the action
and the value of `line`: neither the case of the texts under `action`, `status`, `expected` and
`level` counts, nor any other field. -/
theorem known_iff (text : String) (position : Nat) (written : Fields) (action kind : String)
    (htext : Json.ofTextIn? .whole text = some (.obj written))
    (haction : written.last? "action" = some (.str action)) (hkind : kind ∈ Action.names)
    (hsame : Text.SameLetters action kind) :
    (Action.IsWellFormed kind (Fields.last? · written) →
      ∃ l a, ofLine? text position = some l ∧ l.record = .known a) ∧
    (¬ Action.IsWellFormed kind (Fields.last? · written) → ofLine? text position = none) ∧
    (∀ l, ofLine? text position = some l ↔
      IsLineNumber position (written.last? "line") l.line ∧
        ∃ a, l.record = .known a ∧ a.name = kind ∧ a.IsReadFrom (Fields.last? · written)) ∧
    ∀ (text' : String) (written' : Fields) (action' : String),
      Json.ofTextIn? .whole text' = some (.obj written') →
      written'.last? "action" = some (.str action') → Text.SameLetters action' action →
      (∀ key ∈ "line" :: fieldNames kind, Alike key (written.last? key) (written'.last? key)) →
      ofLine? text' position = ofLine? text position := by
  have hread : ∀ l, ofLine? text position = some l ↔ _ := fun l =>
    ofLine?_eq_some_iff htext haction hkind hsame
  refine ⟨fun hwell => ?_, fun hill => ?_, hread, ?_⟩
  · obtain ⟨l, hl⟩ := (exists_ofLine?_iff htext haction hkind hsame).2 hwell
    obtain ⟨-, a, ha, -⟩ := (hread l).1 hl
    exact ⟨l, a, hl, ha⟩
  · refine Option.eq_none_iff_forall_ne_some.2 fun l hl => hill ?_
    exact (exists_ofLine?_iff htext haction hkind hsame).1 ⟨l, hl⟩
  · intro text' written' action' htext' haction' hsame' halike
    exact ofLine?_congr htext haction hkind hsame htext' haction' (hsame'.trans hsame) halike
      position

/-- A message in letters of either case, with a field that messages do not have. -/
def mixedCase : Fields :=
  [("action", .str "Log"), ("x", .null), ("level", .str "Info"), ("message", .str "m")]

/-- The message in lower case. -/
def lowerCase : Fields :=
  [("action", .str "log"), ("level", .str "info"), ("message", .str "m")]

/-- A message without a level. -/
def levelless : Fields := [("action", .str "log"), ("message", .str "m")]

theorem ofTextIn?_mixedCase :
    Json.ofTextIn? .whole (Json.obj mixedCase).write = some (.obj mixedCase) := by cbv

theorem ofTextIn?_lowerCase :
    Json.ofTextIn? .whole (Json.obj lowerCase).write = some (.obj lowerCase) := by cbv

theorem ofTextIn?_levelless :
    Json.ofTextIn? .whole (Json.obj levelless).write = some (.obj levelless) := by cbv

theorem isReadFrom_mixedCase :
    (Action.log .info "m").IsReadFrom (Fields.last? · mixedCase) :=
  .log ⟨.str "Info", rfl, "Info", rfl, by decide⟩ ⟨.str "m", rfl, rfl⟩

theorem not_isWellFormed_levelless : ¬ Action.IsWellFormed "log" (Fields.last? · levelless) := by
  intro h
  obtain ⟨v, hv, -⟩ := h.required ("level", .level) (List.mem_cons_self ..)
  exact nomatch hv

theorem known_iff_messages :
    (Json.ofTextIn? .whole (Json.obj mixedCase).write = some (.obj mixedCase) ∧
      Action.IsWellFormed "log" (Fields.last? · mixedCase) ∧
      (∃ l a, ofLine? (Json.obj mixedCase).write 3 = some l ∧ l.record = .known a) ∧
      ofLine? (Json.obj mixedCase).write 3 = some ⟨3, .known (.log .info "m")⟩ ∧
      ofLine? (Json.obj lowerCase).write 3 = ofLine? (Json.obj mixedCase).write 3) ∧
    Json.ofTextIn? .whole (Json.obj levelless).write = some (.obj levelless) ∧
      ¬ Action.IsWellFormed "log" (Fields.last? · levelless) ∧
      ofLine? (Json.obj levelless).write 3 = none := by
  have hkind : "log" ∈ Action.names := by decide
  have hwell := (Action.exists_isReadFrom_iff hkind _).1 ⟨_, rfl, isReadFrom_mixedCase⟩
  obtain ⟨hmixed, -, hread, hcase⟩ := known_iff _ 3 mixedCase "Log" "log" ofTextIn?_mixedCase rfl
    hkind (by decide)
  have hlog : ofLine? (Json.obj mixedCase).write 3 = some ⟨3, .known (.log .info "m")⟩ :=
    (hread _).2 ⟨.missing nofun, _, rfl, rfl, isReadFrom_mixedCase⟩
  have hlower := hcase _ lowerCase "log" ofTextIn?_lowerCase rfl (by decide) fun key hkey => by
    simp only [fieldNames, Action.requiredFields, Action.optionalFields, String.reduceEq, reduceIte,
      List.append_nil, List.map_cons, List.map_nil, List.mem_cons, List.not_mem_nil,
      or_false] at hkey
    rcases hkey with rfl | rfl | rfl
    · exact .inl rfl
    · exact .inr ⟨by decide, "Info", "info", rfl, rfl, by decide⟩
    · exact .inl rfl
  have hnone := (known_iff _ 3 levelless "log" "log" ofTextIn?_levelless rfl hkind rfl).2.1
    not_isWellFormed_levelless
  exact ⟨⟨ofTextIn?_mixedCase, hwell, hmixed hwell, hlog, hlower⟩, ofTextIn?_levelless,
    not_isWellFormed_levelless, hnone⟩

end FailureLine
end JobLog
