import JobLog.Performance.Schema
import JobLog.Proofs.Json.Shape
import Mathlib.Data.List.Nodup

/-!
# Payloads that follow the schema

A value follows the schema exactly if it is a payload by the grammar below, which speaks of records,
lists and names, and neither of types nor of faults.

* `IsPayload` is the grammar of payloads, with `IsFramework`, `IsSuite` and `IsSubtest` for its
  parts.
* `Rule.record_eq_none_iff`: a record is refused where one of its fields does not fit.
* `Rule.Reads`: a type refuses exactly the values that cannot be read. It holds for texts and
  numbers, goes over to lists and records, and `reads_payloadRule` has it for payloads.
* `isValid_iff_isPayload` is the result for all values.
-/

namespace JobLog

namespace Performance

open Json (IsRecord IsList IsVoid)

/-! ### The grammar of payloads -/

/-- A text that is not empty. -/
def IsName (v : Json) : Prop := ∃ s, v = .str s ∧ s ≠ ""

/-- A number. -/
def IsNumber (v : Json) : Prop := ∃ n, v = .num n

/-- The fields of a subtest: a name, and a value or replicates of it. -/
structure SubtestFields (fields : Json.Fields) : Prop where
  name : ∃ x ∈ fields.get? "name", IsName x
  value : IsVoid (fields.get? "value") ∨ ∃ x ∈ fields.get? "value", IsNumber x
  replicates : IsVoid (fields.get? "replicates") ∨ ∃ x ∈ fields.get? "replicates", IsList IsNumber x
  measured : ¬ (IsVoid (fields.get? "value") ∧ IsVoid (fields.get? "replicates"))

/-- A subtest. -/
def IsSubtest (v : Json) : Prop :=
  ∃ fields, IsRecord ["name", "value", "replicates"] v fields ∧ SubtestFields fields

/-- The fields of a suite. -/
structure SuiteFields (fields : Json.Fields) : Prop where
  name : ∃ x ∈ fields.get? "name", IsName x
  subtests : ∃ x ∈ fields.get? "subtests", IsList IsSubtest x

/-- A suite. -/
def IsSuite (v : Json) : Prop :=
  ∃ fields, IsRecord ["name", "subtests"] v fields ∧ SuiteFields fields

/-- A framework: a record of its name. -/
def IsFramework (v : Json) : Prop :=
  ∃ fields, IsRecord ["name"] v fields ∧ ∃ x ∈ fields.get? "name", IsName x

/-- The fields of a payload; there is at least one suite. -/
structure PayloadFields (fields : Json.Fields) : Prop where
  framework : ∃ x ∈ fields.get? "framework", IsFramework x
  suites : ∃ x ∈ fields.get? "suites", x ≠ .arr [] ∧ IsList IsSuite x

/-- A payload. -/
def IsPayload (v : Json) : Prop :=
  ∃ fields, IsRecord ["framework", "suites"] v fields ∧ PayloadFields fields

/-! ### Types -/

/-- The field of a record may be missing, or it may have this value. -/
def FieldRule.Fits (f : FieldRule) : Option Json → Prop
  | none => f.required = false
  | some v => f.rule v = none

namespace Rule

variable {type : String} {fields : List FieldRule} {v : Json}

/-- The field of a name, where no two fields share one. -/
theorem find?_name (hnames : (fields.map (·.name)).Nodup) {f : FieldRule} (hf : f ∈ fields) :
    fields.find? (·.name = f.name) = some f := by
  cases hfind : fields.find? (·.name = f.name) with
  | none => exact absurd (List.find?_eq_none.1 hfind f hf) (by simp)
  | some g =>
    have hname : g.name = f.name := by simpa using List.find?_some hfind
    rw [List.inj_on_of_nodup_map hnames (List.mem_of_find?_eq_some hfind) hf hname]

theorem ofField_eq_none_iff (hnames : (fields.map (·.name)).Nodup) {x : String × Json} :
    ofField fields x = none ↔ ∀ f ∈ fields, f.name = x.1 → f.rule x.2 = none := by
  rw [ofField, Option.bind_eq_none_iff]
  constructor
  · intro h f hf hname
    exact h f (hname ▸ find?_name hnames hf)
  · intro h f hf
    exact h f (List.mem_of_find?_eq_some hf) (by simpa using List.find?_some hf)

theorem missing_eq_none_iff {present : Json.Fields} :
    missing fields present = none ↔
      ∀ f ∈ fields, f.required = true → present.get? f.name ≠ none := by
  simp [missing, Option.isNone_iff_eq_none]

theorem length_eq_none_iff {count : Nat} :
    length type fields count = none ↔
      count ≤ fields.length ∧ ∀ f ∈ fields.drop count, f.required = false := by
  unfold length
  split
  case h_1 i hi =>
    obtain ⟨hlt, hrequired, -⟩ := List.findIdx?_eq_some_iff_getElem.1 hi
    constructor
    · rintro ⟨⟩
    · intro h
      exact absurd (h.2 _ (List.getElem_mem hlt)) (by simpa using hrequired)
  case h_2 hnone =>
    have hall : ∀ f ∈ fields.drop count, f.required = false := by
      simpa using List.findIdx?_eq_none_iff.1 hnone
    rw [and_iff_left hall]
    simp

/-- An object is refused where one of its fields does not fit. -/
theorem record_obj_eq_none_iff (hnames : (fields.map (·.name)).Nodup) {present : Json.Fields}
    (hsorted : Keyed.Sorted present) :
    record type fields (.obj present) = none ↔ ∀ f ∈ fields, f.Fits (present.get? f.name) := by
  rw [record, Option.or_eq_none_iff, List.findSome?_eq_none_iff, missing_eq_none_iff]
  constructor
  · rintro ⟨hpresent, hmissing⟩ f hf
    cases hvalue : present.get? f.name with
    | none =>
      by_contra hrequired
      exact hmissing f hf (by simpa [FieldRule.Fits] using hrequired) hvalue
    | some x =>
      have hfield := hpresent _ (Json.Fields.mem_of_get? hvalue)
      exact (ofField_eq_none_iff hnames).1 hfield f hf rfl
  · intro h
    refine ⟨fun x hx => ?_, fun f hf hrequired hnone => ?_⟩
    · refine (ofField_eq_none_iff hnames).2 fun f hf hname => ?_
      have hvalue : present.get? f.name = some x.2 :=
        (Keyed.lookup_eq_some_iff hsorted).2 (hname ▸ hx)
      have hfits := h f hf
      rwa [hvalue] at hfits
    · have hfits := h f hf
      rw [hnone] at hfits
      exact nomatch hrequired.symm.trans hfits

/-- Values in the order of the fields fit where each fits its field and no field that is left out is
required. -/
theorem forall_fits_zip_iff (hnames : (fields.map (·.name)).Nodup) (items : List Json) :
    (∀ f ∈ fields, f.Fits (Json.Fields.get? f.name ((fields.map (·.name)).zip items))) ↔
      (∀ x ∈ fields.zip items, x.1.rule x.2 = none) ∧
        ∀ f ∈ fields.drop items.length, f.required = false := by
  induction fields generalizing items with
  | nil => simp
  | cons g fields ih =>
    obtain ⟨hg, hrest⟩ := List.nodup_cons.1 hnames
    cases items with
    | nil => simp [FieldRule.Fits]
    | cons x items =>
      have hother : ∀ f ∈ fields, f.name ≠ g.name := fun f hf heq =>
        hg (List.mem_map.2 ⟨f, hf, heq⟩)
      have htail : (∀ f ∈ fields, f.Fits (Json.Fields.get? f.name
            (((g :: fields).map (·.name)).zip (x :: items)))) ↔
          ∀ f ∈ fields, f.Fits (Json.Fields.get? f.name ((fields.map (·.name)).zip items)) := by
        refine forall₂_congr fun f hf => ?_
        rw [List.map_cons, List.zip_cons_cons, Json.Fields.get?_cons, if_neg (hother f hf)]
      rw [List.forall_mem_cons, htail, ih hrest, List.zip_cons_cons, List.forall_mem_cons,
        List.map_cons, List.zip_cons_cons, Json.Fields.get?_cons, if_pos rfl, List.length_cons,
        List.drop_succ_cons, and_assoc]
      rfl

/-- **A record is refused where one of its fields does not fit**, in either way of writing it. -/
theorem record_eq_none_iff (hnames : (fields.map (·.name)).Nodup) (hv : v.IsCanonical) :
    record type fields v = none ↔
      ∃ present, IsRecord (fields.map (·.name)) v present ∧
        ∀ f ∈ fields, f.Fits (present.get? f.name) := by
  cases v with
  | obj present =>
    have hknown : ∀ f ∈ fields,
        Json.Fields.get? f.name (present.filter (·.1 ∈ fields.map (·.name))) =
          Json.Fields.get? f.name present := fun f hf =>
      Json.Fields.get?_filter (fun _ => decide_eq_true (List.mem_map_of_mem hf)) present
    rw [record_obj_eq_none_iff hnames (Json.isCanonical_obj_iff.1 hv).1]
    constructor
    · intro h
      exact ⟨_, .object present, fun f hf => hknown f hf ▸ h f hf⟩
    · rintro ⟨_, ⟨⟩, h⟩ f hf
      exact hknown f hf ▸ h f hf
  | arr items =>
    rw [record, Option.or_eq_none_iff, List.findSome?_eq_none_iff, length_eq_none_iff,
      and_left_comm, ← forall_fits_zip_iff hnames]
    constructor
    · rintro ⟨hlength, h⟩
      exact ⟨_, .list (by rwa [List.length_map]), h⟩
    · rintro ⟨_, hrecord, h⟩
      cases hrecord with
      | list hlength => exact ⟨by rwa [List.length_map] at hlength, h⟩
  | null | bool | num | str => exact ⟨nofun, fun ⟨_, h, _⟩ => nomatch h⟩

/-! ### Types and readers -/

section

variable {α : Type} {rule : Rule} {read? : Json → Option α} {v? : Option Json}

/-- The type refuses exactly the values that cannot be read. -/
def Reads (rule : Rule) (read? : Json → Option α) : Prop :=
  ∀ v : Json, v.IsCanonical → (rule v = none ↔ ∃ a, read? v = some a)

theorem reads_text : Reads text Json.text? := by
  intro v _
  cases v <;> simp [text, Json.text?]

theorem reads_number : Reads number number? := by
  intro v _
  cases v <;> simp [number, number?]

theorem Reads.list (h : Reads rule read?) : Reads (list rule) (Json.list? read?) := by
  intro v hv
  rw [Json.exists_list?_eq_some_iff]
  cases v with
  | arr items =>
    rw [Rule.list, List.findSome?_eq_none_iff, Json.isList_arr_iff]
    exact forall₂_congr fun x hx => h x (Json.isCanonical_arr_iff.1 hv x hx)
  | null | bool | num | str | obj => exact ⟨nofun, fun ⟨_, h, _⟩ => nomatch h⟩

/-- A field that is required fits where it can be read. -/
theorem Reads.fits (h : Reads rule read?) (hv : ∀ v ∈ v?, v.IsCanonical) (name : String) :
    (⟨name, true, rule⟩ : FieldRule).Fits v? ↔ ∃ a, ∃ v ∈ v?, read? v = some a := by
  cases v? with
  | none => simp [FieldRule.Fits]
  | some v => simp [FieldRule.Fits, h v (hv v rfl)]

/-- A field that may be null or missing fits where it can be read. -/
theorem Reads.fits_nullable (h : Reads rule read?) (hv : ∀ v ∈ v?, v.IsCanonical) (name : String) :
    (⟨name, false, nullable rule⟩ : FieldRule).Fits v? ↔
      ∃ a?, v?.elim (some none) (Json.nullable? read?) = some a? := by
  cases v? with
  | none => simp [FieldRule.Fits]
  | some v =>
    by_cases hnull : v = .null
    · simp [FieldRule.Fits, nullable, Json.nullable?, hnull]
    · have hrule : nullable rule v = rule v := by
        cases v with
        | null => exact absurd rfl hnull
        | _ => rfl
      simp [FieldRule.Fits, hrule, Json.nullable?_of_ne hnull, h v (hv v rfl)]

end

end Rule

/-! ### Reading payloads -/

section

variable {v : Json}

theorem Subtest.ofJson?_eq_some_iff (hv : v.IsCanonical) {t : Subtest} :
    ofJson? v = some t ↔ ∃ fields, IsRecord ["name", "value", "replicates"] v fields ∧
      (∃ x ∈ fields.get? "name", x.text? = some t.name) ∧
      (fields.get? "value").elim (some none) (Json.nullable? number?) = some t.value? ∧
      (fields.get? "replicates").elim (some none) (Json.nullable? (Json.list? number?)) =
        some t.replicates? := by
  rw [← Json.exists_record?_iff hv]
  simp only [ofJson?, bind, Option.bind_eq_some_iff, Json.Record.required?]
  constructor
  · rintro ⟨⟨fields, positional⟩, hr, name, hname, value?, hvalue, replicates?, hreplicates, ⟨⟩⟩
    rw [Json.Record.lenient?_mk] at hvalue hreplicates
    exact ⟨_, hr, hname, hvalue, hreplicates⟩
  · rintro ⟨⟨fields, positional⟩, hr, hname, hvalue, hreplicates⟩
    rw [← Json.Record.lenient?_mk fields _ _ positional] at hvalue hreplicates
    exact ⟨_, hr, _, hname, _, hvalue, _, hreplicates, rfl⟩

theorem Suite.ofJson?_eq_some_iff (hv : v.IsCanonical) {s : Suite} :
    ofJson? v = some s ↔ ∃ fields, IsRecord ["name", "subtests"] v fields ∧
      (∃ x ∈ fields.get? "name", x.text? = some s.name) ∧
      ∃ x ∈ fields.get? "subtests", x.list? Subtest.ofJson? = some s.subtests := by
  rw [← Json.exists_record?_iff hv]
  simp only [ofJson?, bind, Option.bind_eq_some_iff, Json.Record.required?]
  constructor
  · rintro ⟨r, hr, name, hname, subtests, hsubtests, ⟨⟩⟩
    exact ⟨r, hr, hname, hsubtests⟩
  · rintro ⟨r, hr, hname, hsubtests⟩
    exact ⟨r, hr, _, hname, _, hsubtests, rfl⟩

theorem frameworkOfJson?_eq_some_iff (hv : v.IsCanonical) {name : String} :
    frameworkOfJson? v = some name ↔ ∃ fields, IsRecord ["name"] v fields ∧
      ∃ x ∈ fields.get? "name", x.text? = some name := by
  rw [← Json.exists_record?_iff hv]
  simp only [frameworkOfJson?, bind, Option.bind_eq_some_iff, Json.Record.required?, Option.mem_def]

theorem Payload.ofJson?_eq_some_iff (hv : v.IsCanonical) {p : Payload} :
    ofJson? v = some p ↔ ∃ fields, IsRecord ["framework", "suites"] v fields ∧
      (∃ x ∈ fields.get? "framework", frameworkOfJson? x = some p.framework) ∧
      ∃ x ∈ fields.get? "suites", x.list? Suite.ofJson? = some p.suites := by
  rw [← Json.exists_record?_iff hv]
  simp only [ofJson?, bind, Option.bind_eq_some_iff, Json.Record.required?]
  constructor
  · rintro ⟨r, hr, framework, hframework, suites, hsuites, ⟨⟩⟩
    exact ⟨r, hr, hframework, hsuites⟩
  · rintro ⟨r, hr, hframework, hsuites⟩
    exact ⟨r, hr, _, hframework, _, hsuites, rfl⟩

/-! ### The type check -/

open Rule (Reads)

theorem reads_subtestRule : Reads subtestRule Subtest.ofJson? := by
  intro v hv
  refine (Rule.record_eq_none_iff (by decide) hv).trans ?_
  simp only [Subtest.ofJson?_eq_some_iff hv, List.forall_mem_cons, List.map_cons, List.map_nil]
  constructor
  · rintro ⟨fields, hrecord, hname, hvalue, hreplicates, -⟩
    obtain ⟨name, hname⟩ := (Rule.reads_text.fits (hrecord.isCanonical hv) _).1 hname
    obtain ⟨value?, hvalue⟩ := (Rule.reads_number.fits_nullable (hrecord.isCanonical hv) _).1 hvalue
    obtain ⟨replicates?, hreplicates⟩ :=
      (Rule.reads_number.list.fits_nullable (hrecord.isCanonical hv) _).1 hreplicates
    exact ⟨⟨name, value?, replicates?⟩, fields, hrecord, hname, hvalue, hreplicates⟩
  · rintro ⟨t, fields, hrecord, hname, hvalue, hreplicates⟩
    exact ⟨fields, hrecord, (Rule.reads_text.fits (hrecord.isCanonical hv) _).2 ⟨_, hname⟩,
      (Rule.reads_number.fits_nullable (hrecord.isCanonical hv) _).2 ⟨_, hvalue⟩,
      (Rule.reads_number.list.fits_nullable (hrecord.isCanonical hv) _).2 ⟨_, hreplicates⟩, nofun⟩

theorem reads_suiteRule : Reads suiteRule Suite.ofJson? := by
  intro v hv
  refine (Rule.record_eq_none_iff (by decide) hv).trans ?_
  simp only [Suite.ofJson?_eq_some_iff hv, List.forall_mem_cons, List.map_cons, List.map_nil]
  constructor
  · rintro ⟨fields, hrecord, hname, hsubtests, -⟩
    obtain ⟨name, hname⟩ := (Rule.reads_text.fits (hrecord.isCanonical hv) _).1 hname
    obtain ⟨subtests, hsubtests⟩ :=
      (reads_subtestRule.list.fits (hrecord.isCanonical hv) _).1 hsubtests
    exact ⟨⟨name, subtests⟩, fields, hrecord, hname, hsubtests⟩
  · rintro ⟨s, fields, hrecord, hname, hsubtests⟩
    exact ⟨fields, hrecord, (Rule.reads_text.fits (hrecord.isCanonical hv) _).2 ⟨_, hname⟩,
      (reads_subtestRule.list.fits (hrecord.isCanonical hv) _).2 ⟨_, hsubtests⟩, nofun⟩

theorem reads_frameworkRule : Reads frameworkRule frameworkOfJson? := by
  intro v hv
  refine (Rule.record_eq_none_iff (by decide) hv).trans ?_
  simp only [frameworkOfJson?_eq_some_iff hv, List.forall_mem_cons, List.map_cons, List.map_nil]
  constructor
  · rintro ⟨fields, hrecord, hname, -⟩
    obtain ⟨name, hname⟩ := (Rule.reads_text.fits (hrecord.isCanonical hv) _).1 hname
    exact ⟨name, fields, hrecord, hname⟩
  · rintro ⟨name, fields, hrecord, hname⟩
    exact ⟨fields, hrecord, (Rule.reads_text.fits (hrecord.isCanonical hv) _).2 ⟨_, hname⟩, nofun⟩

/-- **The type check refuses exactly the values that cannot be read.** -/
theorem reads_payloadRule : Reads payloadRule Payload.ofJson? := by
  intro v hv
  refine (Rule.record_eq_none_iff (by decide) hv).trans ?_
  simp only [Payload.ofJson?_eq_some_iff hv, List.forall_mem_cons, List.map_cons, List.map_nil]
  constructor
  · rintro ⟨fields, hrecord, hframework, hsuites, -⟩
    obtain ⟨framework, hframework⟩ :=
      (reads_frameworkRule.fits (hrecord.isCanonical hv) _).1 hframework
    obtain ⟨suites, hsuites⟩ := (reads_suiteRule.list.fits (hrecord.isCanonical hv) _).1 hsuites
    exact ⟨⟨framework, suites⟩, fields, hrecord, hframework, hsuites⟩
  · rintro ⟨p, fields, hrecord, hframework, hsuites⟩
    exact ⟨fields, hrecord, (reads_frameworkRule.fits (hrecord.isCanonical hv) _).2 ⟨_, hframework⟩,
      (reads_suiteRule.list.fits (hrecord.isCanonical hv) _).2 ⟨_, hsuites⟩, nofun⟩

/-- A value follows the schema where it can be read and its contents have no fault. -/
theorem isValid_iff (hv : v.IsCanonical) :
    isValid v = true ↔ ∃ p, Payload.ofJson? v = some p ∧ p.fault? = none := by
  rw [isValid, Option.isNone_iff_eq_none, fault?, Option.or_eq_none_iff, reads_payloadRule v hv]
  constructor
  · rintro ⟨⟨p, hp⟩, hfault⟩
    rw [hp] at hfault
    exact ⟨p, hp, hfault⟩
  · rintro ⟨p, hp, hfault⟩
    exact ⟨⟨p, hp⟩, by rw [hp]; exact hfault⟩

/-! ### The contents -/

theorem isName_iff {x : Json} : IsName x ↔ ∃ s, x.text? = some s ∧ s ≠ "" := by
  cases x <;> simp [IsName, Json.text?]

theorem isNumber_iff {x : Json} : IsNumber x ↔ ∃ n, number? x = some n := by
  cases x <;> simp [IsNumber, number?]

theorem isList_isNumber_iff {x : Json} :
    IsList IsNumber x ↔ ∃ ns, x.list? number? = some ns := by
  simp only [Json.exists_list?_eq_some_iff, ← isNumber_iff]

theorem Subtest.fault?_eq_none_iff {suite : String} {t : Subtest} :
    t.fault? suite = none ↔ t.name ≠ "" ∧ ¬ (t.value? = none ∧ t.replicates? = none) := by
  unfold fault?
  split_ifs <;> simp_all

theorem exists_subtest_iff (hv : v.IsCanonical) (suite : String) :
    (∃ t, Subtest.ofJson? v = some t ∧ t.fault? suite = none) ↔ IsSubtest v := by
  simp only [Subtest.ofJson?_eq_some_iff hv, Subtest.fault?_eq_none_iff]
  constructor
  · rintro ⟨t, ⟨fields, hrecord, ⟨x, hx, hname⟩, hvalue, hreplicates⟩, hne, hmeasured⟩
    refine ⟨fields, hrecord, ⟨x, hx, isName_iff.2 ⟨_, hname, hne⟩⟩, ?_, ?_, ?_⟩
    · simpa only [isNumber_iff] using Json.exists_elim_nullable?_iff.1 ⟨_, hvalue⟩
    · simpa only [isList_isNumber_iff] using Json.exists_elim_nullable?_iff.1 ⟨_, hreplicates⟩
    · rwa [Json.eq_none_iff_isVoid hvalue, Json.eq_none_iff_isVoid hreplicates] at hmeasured
  · rintro ⟨fields, hrecord, ⟨x, hx, hname⟩, hvalue, hreplicates, hmeasured⟩
    obtain ⟨name, hname, hne⟩ := isName_iff.1 hname
    simp only [isNumber_iff] at hvalue
    simp only [isList_isNumber_iff] at hreplicates
    obtain ⟨value?, hvalue⟩ := Json.exists_elim_nullable?_iff.2 hvalue
    obtain ⟨replicates?, hreplicates⟩ := Json.exists_elim_nullable?_iff.2 hreplicates
    rw [← Json.eq_none_iff_isVoid hvalue, ← Json.eq_none_iff_isVoid hreplicates] at hmeasured
    exact ⟨⟨name, value?, replicates?⟩, ⟨fields, hrecord, ⟨x, hx, hname⟩, hvalue, hreplicates⟩,
      hne, hmeasured⟩

theorem Suite.fault?_eq_none_iff {s : Suite} :
    s.fault? = none ↔ s.name ≠ "" ∧ ∀ t ∈ s.subtests, t.fault? s.name = none := by
  unfold fault?
  split_ifs <;> simp_all

theorem exists_suite_iff (hv : v.IsCanonical) :
    (∃ s, Suite.ofJson? v = some s ∧ s.fault? = none) ↔ IsSuite v := by
  simp only [Suite.ofJson?_eq_some_iff hv, Suite.fault?_eq_none_iff]
  constructor
  · rintro ⟨s, ⟨fields, hrecord, ⟨x, hx, hname⟩, y, hy, hsubtests⟩, hne, hfault⟩
    have hlist := Json.exists_list?_iff.1 ⟨s.subtests, hsubtests, hfault⟩
    rw [Json.isList_congr (hrecord.isCanonical hv y hy) fun _ ht => exists_subtest_iff ht s.name]
      at hlist
    exact ⟨fields, hrecord, ⟨x, hx, isName_iff.2 ⟨_, hname, hne⟩⟩, y, hy, hlist⟩
  · rintro ⟨fields, hrecord, ⟨x, hx, hname⟩, y, hy, hlist⟩
    obtain ⟨name, hname, hne⟩ := isName_iff.1 hname
    rw [← Json.isList_congr (hrecord.isCanonical hv y hy) fun _ ht => exists_subtest_iff ht name]
      at hlist
    obtain ⟨subtests, hsubtests, hfault⟩ := Json.exists_list?_iff.2 hlist
    exact ⟨⟨name, subtests⟩, ⟨fields, hrecord, ⟨x, hx, hname⟩, y, hy, hsubtests⟩, hne, hfault⟩

theorem exists_framework_iff (hv : v.IsCanonical) :
    (∃ name, frameworkOfJson? v = some name ∧ name ≠ "") ↔ IsFramework v := by
  simp only [frameworkOfJson?_eq_some_iff hv, IsFramework, isName_iff]
  constructor
  · rintro ⟨name, ⟨fields, hrecord, x, hx, hname⟩, hne⟩
    exact ⟨fields, hrecord, x, hx, name, hname, hne⟩
  · rintro ⟨fields, hrecord, x, hx, name, hname, hne⟩
    exact ⟨name, ⟨fields, hrecord, x, hx, hname⟩, hne⟩

theorem Payload.fault?_eq_none_iff {p : Payload} :
    p.fault? = none ↔ p.framework ≠ "" ∧ p.suites ≠ [] ∧ ∀ s ∈ p.suites, s.fault? = none := by
  unfold fault?
  split_ifs <;> simp_all

/-- **Exactly the payloads follow the schema.** The keys of each object stand there once and in
order, as they do in all values that are read from texts. -/
theorem isValid_iff_isPayload (hv : v.IsCanonical) : isValid v = true ↔ IsPayload v := by
  rw [isValid_iff hv]
  simp only [Payload.ofJson?_eq_some_iff hv, Payload.fault?_eq_none_iff]
  constructor
  · rintro ⟨p, ⟨fields, hrecord, ⟨x, hx, hframework⟩, y, hy, hsuites⟩, hne, hsome, hfault⟩
    have hlist := Json.exists_list?_iff.1 ⟨p.suites, hsuites, hfault⟩
    rw [Json.isList_congr (hrecord.isCanonical hv y hy) fun _ => exists_suite_iff] at hlist
    refine ⟨fields, hrecord, ⟨x, hx, ?_⟩, y, hy, ?_, hlist⟩
    · exact (exists_framework_iff (hrecord.isCanonical hv x hx)).1 ⟨_, hframework, hne⟩
    · rintro rfl
      exact hsome (Option.some.inj hsuites).symm
  · rintro ⟨fields, hrecord, ⟨x, hx, hframework⟩, y, hy, hsome, hlist⟩
    obtain ⟨framework, hframework, hne⟩ :=
      (exists_framework_iff (hrecord.isCanonical hv x hx)).2 hframework
    rw [← Json.isList_congr (hrecord.isCanonical hv y hy) fun _ => exists_suite_iff] at hlist
    obtain ⟨suites, hsuites, hfault⟩ := Json.exists_list?_iff.2 hlist
    refine ⟨⟨framework, suites⟩, ⟨fields, hrecord, ⟨x, hx, hframework⟩, y, hy, hsuites⟩, hne, ?_,
      hfault⟩
    rintro rfl
    exact hsome (Json.list?_eq_nil_iff.1 hsuites)

end

/-- A value with records of both kinds, keys of no field, and two subtests: one with the given
replicates and one with a value. -/
def mixedPayload (replicates : Json) : Json :=
  .obj [
    ("framework", .arr [.str "talos"]),
    ("suites", .arr [.arr [.str "video", .arr [
      .obj [("name", .str "240p"), ("replicates", replicates), ("unit", .str "ms"),
        ("value", .null)],
      .arr [.str "480p", .num (.int 12)]]]]),
    ("version", .num (.int 2))]

/-- It is a payload with one replicate, but not with null in the place of the replicates. -/
theorem isValid_iff_isPayload_mixed :
    let measured := mixedPayload (.arr [.num (.int 7)])
    let unmeasured := mixedPayload .null
    (measured.IsCanonical ∧ IsPayload measured) ∧
      unmeasured.IsCanonical ∧ ¬ IsPayload unmeasured := by
  intro measured unmeasured
  have hmeasured : measured.IsCanonical := rfl
  have hunmeasured : unmeasured.IsCanonical := rfl
  refine ⟨⟨hmeasured, (isValid_iff_isPayload hmeasured).1 (by decide +kernel)⟩, hunmeasured,
    fun h => ?_⟩
  exact absurd ((isValid_iff_isPayload hunmeasured).2 h) (by decide +kernel)

end Performance
end JobLog
