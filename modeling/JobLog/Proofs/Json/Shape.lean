import JobLog.Proofs.Json.Canonical
import JobLog.Proofs.Json.Record

/-!
# Records and lists without a reader

What the readers of records and lists accept, told by the values alone.

* `IsRecord` says which fields a record has, in either way of writing it; `exists_record?_iff` that
  the reader finds them.
* `IsList` is a list of values of a kind; `exists_list?_iff` says when a list can be read.
* `IsVoid` is a field that is missing or null; `exists_elim_nullable?_iff` says when a field that
  may be so can be read.
-/

namespace JobLog.Json

variable {names : List String} {v : Json} {fields : Fields}

/-! ### Records -/

/-- The value is a record with some of the named fields: an object, whose other fields do not count,
or the list of the first fields in their order. -/
inductive IsRecord (names : List String) : Json → Fields → Prop
  | object (fields : Fields) : IsRecord names (.obj fields) (fields.filter (·.1 ∈ names))
  | list {items : List Json} (h : items.length ≤ names.length) :
      IsRecord names (.arr items) (names.zip items)

/-- The record of a value, where no object has a key twice. -/
theorem record?_iff (hv : v.IsCanonical) :
    (∃ positional, v.record? names = some ⟨fields, positional⟩) ↔ IsRecord names v fields := by
  cases v with
  | obj present =>
    have hsorted := (isCanonical_obj_iff.1 hv).1.sublist
      (List.filter_sublist (p := fun f => names.contains f.1))
    have hdistinct : Fields.distinct (present.filter fun f => names.contains f.1) = true :=
      Fields.distinct_iff.2 (List.Pairwise.imp ne_of_lt hsorted)
    have hknown : (present.filter fun f => names.contains f.1) = present.filter (·.1 ∈ names) :=
      List.filter_congr fun f _ => List.contains_eq_mem ..
    rw [record?, if_pos hdistinct, hknown]
    constructor
    · rintro ⟨_, ⟨⟩⟩
      exact .object present
    · rintro ⟨⟩
      exact ⟨false, rfl⟩
  | arr items =>
    rw [record?]
    constructor
    · rintro ⟨_, h⟩
      split at h
      case isTrue hle =>
        cases h
        exact .list hle
      case isFalse => cases h
    · rintro (_ | hle)
      exact ⟨true, if_pos hle⟩
  | null | bool | num | str =>
    constructor
    · rintro ⟨_, ⟨⟩⟩
    · rintro ⟨⟩

/-- What is made of a record by its fields alone. -/
theorem exists_record?_iff (hv : v.IsCanonical) {p : Fields → Prop} :
    (∃ r, v.record? names = some r ∧ p r.fields) ↔
      ∃ fields, IsRecord names v fields ∧ p fields := by
  constructor
  · rintro ⟨⟨fields, positional⟩, hr, hp⟩
    exact ⟨fields, (record?_iff hv).1 ⟨positional, hr⟩, hp⟩
  · rintro ⟨fields, hrecord, hp⟩
    obtain ⟨positional, hr⟩ := (record?_iff hv).2 hrecord
    exact ⟨_, hr, hp⟩

theorem IsRecord.isCanonical (h : IsRecord names v fields) (hv : v.IsCanonical) {name : String} :
    ∀ x ∈ fields.get? name, x.IsCanonical := by
  intro x hx
  have hmem := Fields.mem_of_get? hx
  cases h with
  | object present => exact (isCanonical_obj_iff.1 hv).2 _ (List.mem_filter.1 hmem).1
  | list => exact isCanonical_arr_iff.1 hv _ (List.of_mem_zip hmem).2

/-! ### Lists -/

/-- The value is a list of such values. -/
def IsList (p : Json → Prop) (v : Json) : Prop := ∃ items, v = .arr items ∧ ∀ x ∈ items, p x

theorem isList_arr_iff {p : Json → Prop} {items : List Json} :
    IsList p (.arr items) ↔ ∀ x ∈ items, p x := by
  simp only [IsList, arr.injEq, exists_eq_left']

theorem isList_congr {p q : Json → Prop} (hv : v.IsCanonical)
    (h : ∀ x : Json, x.IsCanonical → (p x ↔ q x)) : IsList p v ↔ IsList q v := by
  refine exists_congr fun items => and_congr_right ?_
  rintro rfl
  exact forall₂_congr fun x hx => h x (isCanonical_arr_iff.1 hv x hx)

section

variable {α : Type} {read? : Json → Option α}

theorem list?_arr_cons (x : Json) (items : List Json) :
    list? read? (.arr (x :: items)) =
      (read? x).bind fun a => (list? read? (.arr items)).map (a :: ·) := by
  rw [list?, List.mapM_cons]
  simp only [list?, bind, Option.map_eq_bind]
  rfl

/-- A list can be read where its items can. -/
theorem exists_list?_iff {p : α → Prop} :
    (∃ as, list? read? v = some as ∧ ∀ a ∈ as, p a) ↔
      IsList (fun x => ∃ a, read? x = some a ∧ p a) v := by
  cases v with
  | arr items =>
    rw [isList_arr_iff]
    induction items with
    | nil => exact ⟨fun _ => nofun, fun _ => ⟨[], rfl, nofun⟩⟩
    | cons x items ih =>
      rw [List.forall_mem_cons, ← ih, list?_arr_cons]
      constructor
      · rintro ⟨as, has, hp⟩
        obtain ⟨a, ha, hrest⟩ := Option.bind_eq_some_iff.1 has
        obtain ⟨as', has', rfl⟩ := Option.map_eq_some_iff.1 hrest
        obtain ⟨hhead, htail⟩ := List.forall_mem_cons.1 hp
        exact ⟨⟨a, ha, hhead⟩, as', has', htail⟩
      · rintro ⟨⟨a, ha, hhead⟩, as, has, htail⟩
        exact ⟨a :: as, by rw [ha, has]; rfl, List.forall_mem_cons.2 ⟨hhead, htail⟩⟩
  | null | bool | num | str | obj =>
    exact ⟨fun ⟨_, h, _⟩ => (nomatch h), fun ⟨_, h, _⟩ => (nomatch h)⟩

theorem exists_list?_eq_some_iff :
    (∃ as, list? read? v = some as) ↔ IsList (fun x => ∃ a, read? x = some a) v := by
  simpa only [implies_true, and_true] using exists_list?_iff (p := fun _ : α => True)

theorem list?_eq_nil_iff : list? read? v = some [] ↔ v = .arr [] := by
  refine ⟨fun h => ?_, fun h => h ▸ rfl⟩
  cases v with
  | arr items =>
    cases items with
    | nil => rfl
    | cons x items =>
      rw [list?_arr_cons] at h
      obtain ⟨a, -, hrest⟩ := Option.bind_eq_some_iff.1 h
      obtain ⟨as, -, hcons⟩ := Option.map_eq_some_iff.1 hrest
      exact nomatch hcons
  | null | bool | num | str | obj => exact nomatch h

end

/-! ### Fields that may be missing -/

theorem nullable?_of_ne {α : Type} {read? : Json → Option α} (h : v ≠ .null) :
    nullable? read? v = (read? v).map some := by
  cases v with
  | null => exact absurd rfl h
  | _ => rfl

/-- A field is missing or null. -/
def IsVoid (v? : Option Json) : Prop := v? = none ∨ v? = some .null

section

variable {α : Type} {read? : Json → Option α} {v? : Option Json}

/-- A field that may be null or missing can be read where it is void or its value can be read. -/
theorem exists_elim_nullable?_iff :
    (∃ a?, v?.elim (some none) (nullable? read?) = some a?) ↔
      IsVoid v? ∨ ∃ x ∈ v?, ∃ a, read? x = some a := by
  cases v? with
  | none => simp [IsVoid]
  | some x =>
    by_cases hx : x = .null
    · simp [IsVoid, nullable?, hx]
    · simp [IsVoid, nullable?_of_ne hx, hx]

/-- Nothing is read from a void field, and from no other. -/
theorem eq_none_iff_isVoid {a? : Option α}
    (h : v?.elim (some none) (nullable? read?) = some a?) : a? = none ↔ IsVoid v? := by
  cases v? with
  | none =>
    obtain rfl := Option.some.inj h
    simp [IsVoid]
  | some x =>
    by_cases hx : x = .null
    · obtain rfl : none = a? := by simpa [hx, nullable?] using h
      simp [IsVoid, hx]
    · rw [Option.elim_some, nullable?_of_ne hx] at h
      obtain ⟨a, -, rfl⟩ := Option.map_eq_some_iff.1 h
      simp [IsVoid, hx]

end

end JobLog.Json
