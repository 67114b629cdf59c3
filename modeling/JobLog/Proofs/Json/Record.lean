import JobLog.Json.Record
import JobLog.Proofs.Json.Fields

/-!
# Records that are read back

* `record?_obj` is the record of an object that has no other fields than those of the record, each
  once. `record?_erase` says that a field of another name makes no difference.
* The simp lemmas behind look a field up in such a record and read the values of fields.
-/

namespace JobLog.Json

theorem Fields.distinct_iff {fields : Fields} :
    fields.distinct = true ↔ (fields.map Prod.fst).Nodup := by
  induction fields with
  | nil => simp [Fields.distinct]
  | cons f rest ih =>
    have hnew : (!rest.any (·.1 == f.1)) = true ↔ f.1 ∉ rest.map Prod.fst := by
      rw [Bool.not_eq_true', List.any_eq_false, List.mem_map, not_exists]
      exact forall_congr' fun g => by rw [beq_iff_eq, not_and]
    rw [Fields.distinct, Bool.and_eq_true, ih, hnew, List.map_cons, List.nodup_cons]

theorem record?_obj {names : List String} {fields : Fields} (hnodup : (fields.map Prod.fst).Nodup)
    (hnames : ∀ k ∈ fields.map Prod.fst, k ∈ names) :
    record? names (.obj fields) = some ⟨fields, false⟩ := by
  have hknown : fields.filter (fun f => names.contains f.1) = fields :=
    List.filter_eq_self.2 fun f hf => List.contains_iff_mem.2 (hnames f.1 (List.mem_map_of_mem hf))
  rw [record?, hknown, if_pos (Fields.distinct_iff.2 hnodup)]

/-- A field that the record does not have makes no difference. -/
theorem record?_erase {names : List String} {key : String} (h : key ∉ names) (fields : Fields) :
    record? names (.obj (Fields.erase key fields)) = record? names (.obj fields) := by
  have hknown : (Fields.erase key fields).filter (fun f => names.contains f.1) =
      fields.filter fun f => names.contains f.1 := by
    rw [Fields.erase, List.filter_filter]
    refine List.filter_congr fun f _ => ?_
    by_cases hf : f.1 = key
    · simp [hf, h]
    · simp [hf]
  rw [record?, record?, hknown]

/-- A list whose first item is no text is no record that starts with a text. -/
theorem record?_arr_bind {name : String} {names : List String} {items : List Json} {α : Type}
    (h : ∀ v ∈ items.head?, text? v = none) (rest : Record → String → Option α) :
    ((record? (name :: names) (.arr items)).bind fun r =>
      (r.required? name text?).bind (rest r)) = none := by
  rw [record?]
  split
  case isFalse => rfl
  case isTrue =>
    cases items with
    | nil => rfl
    | cons v vs => simp [Record.required?, Fields.get?, h v rfl]

/-! ### Looking a field up -/

namespace Record

variable {α : Type} (fields : Fields) (name : String) (read? : Json → Option α)

@[simp] theorem required?_mk (positional : Bool) :
    required? ⟨fields, positional⟩ name read? = (fields.get? name).bind read? := rfl

@[simp] theorem default?_mk (positional : Bool) (missing : α) :
    default? ⟨fields, positional⟩ name missing read? =
      (fields.get? name).elim (some missing) read? := by
  cases h : fields.get? name <;> simp [default?, h]

@[simp] theorem optional?_mk_false :
    optional? ⟨fields, false⟩ name read? =
      (fields.get? name).elim (some none) (nullable? read?) := default?_mk ..

@[simp] theorem lenient?_mk (positional : Bool) :
    lenient? ⟨fields, positional⟩ name read? =
      (fields.get? name).elim (some none) (nullable? read?) := default?_mk ..

end Record

/-! ### Values of fields -/

@[simp] theorem natural?_ofNat (n : Nat) : natural? (ofNat n) = some n := by
  simp [natural?, ofNat]

@[simp] theorem text?_str (s : String) : text? (.str s) = some s := rfl

@[simp] theorem bool?_bool (b : Bool) : bool? (.bool b) = some b := rfl

@[simp] theorem nullable?_text?_ofString? (s? : Option String) :
    nullable? text? (ofString? s?) = some s? := by
  cases s? <;> rfl

theorem list?_eq_map {α : Type} (f : Json → α) (items : List Json) :
    list? (fun v => some (f v)) (.arr items) = some (items.map f) := List.mapM_pure

theorem list?_map {α : Type} {read? : Json → Option α} {write : α → Json}
    (h : ∀ a, read? (write a) = some a) (as : List α) :
    list? read? (.arr (as.map write)) = some as := by
  induction as with
  | nil => rfl
  | cons a as ih =>
    rw [list?] at ih ⊢
    rw [List.map_cons, List.mapM_cons, h, ih]
    rfl

end JobLog.Json
