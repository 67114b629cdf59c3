import JobLog.Json.Basic
import JobLog.Proofs.Keyed

/-!
# Fields in the order of their keys

* `Fields.sorted_ofList` says that setting fields puts their keys in order,
  `Fields.ofList_eq_self` that fields in order stay as they are.
* `Fields.erase_insert` and `Fields.filter_insert` take a new field out again, and the lemmas behind
  look another one up.
-/

namespace JobLog.Json.Fields

open Keyed (Sorted)

variable {fields : Fields} {key : String}

/-! ### Setting fields -/

theorem insert_eq_keyed (key : String) (value : Json) (fields : Fields) :
    insert key value fields = Keyed.insert key value fields := by
  induction fields with
  | nil => rfl
  | cons f rest ih => rw [insert, Keyed.insert, ih]

theorem ofList_eq_keyed (fields : Fields) : ofList fields = Keyed.insertAll [] fields := by
  unfold ofList Keyed.insertAll
  simp only [insert_eq_keyed]

theorem sorted_ofList (fields : Fields) : Sorted (ofList fields) :=
  ofList_eq_keyed fields ▸ Keyed.sorted_insertAll Keyed.sorted_nil fields

theorem mem_ofList {f : String × Json} (h : f ∈ ofList fields) : f ∈ fields := by
  rw [ofList_eq_keyed] at h
  exact (Keyed.mem_insertAll h).resolve_left List.not_mem_nil

/-- Fields in order stay as they are. -/
theorem ofList_eq_self (h : Sorted fields) : ofList fields = fields := by
  rw [ofList_eq_keyed]
  exact Keyed.insertAll_of_sorted h

/-! ### Removing and finding fields -/

theorem not_mem_keys_erase (key : String) (fields : Fields) :
    key ∉ (erase key fields).map Prod.fst := by
  intro h
  obtain ⟨f, hf, rfl⟩ := List.mem_map.1 h
  exact of_decide_eq_true (List.mem_filter.1 hf).2 rfl

theorem erase_eq_self (h : key ∉ fields.map Prod.fst) : erase key fields = fields :=
  List.filter_eq_self.2 fun _ hf => decide_eq_true fun heq => h (heq ▸ List.mem_map_of_mem hf)

theorem erase_sublist (key : String) (fields : Fields) : (erase key fields).Sublist fields :=
  List.filter_sublist

theorem erase_comm (key other : String) (fields : Fields) :
    erase key (erase other fields) = erase other (erase key fields) := by
  rw [erase, erase, erase, erase, List.filter_filter, List.filter_filter]
  exact List.filter_congr fun f _ => Bool.and_comm ..

theorem filter_eq_nil_of_not_mem (h : key ∉ fields.map Prod.fst) :
    fields.filter (·.1 = key) = [] :=
  List.filter_eq_nil_iff.2 fun _ hf heq =>
    h (of_decide_eq_true heq ▸ List.mem_map_of_mem hf)

/-- A new field can be taken out again. -/
theorem erase_insert (h : key ∉ fields.map Prod.fst) (value : Json) :
    erase key (insert key value fields) = fields := by
  obtain ⟨before, behind, rfl, hinsert⟩ := Keyed.insert_of_not_mem h value
  rw [List.map_append, List.mem_append, not_or] at h
  rw [insert_eq_keyed, hinsert, erase, List.filter_append, List.filter_cons_of_neg (by simp)]
  exact congrArg₂ (· ++ ·) (erase_eq_self h.1) (erase_eq_self h.2)

/-- A new field is the only one of its key. -/
theorem filter_insert (h : key ∉ fields.map Prod.fst) (value : Json) :
    (insert key value fields).filter (·.1 = key) = [(key, value)] := by
  obtain ⟨before, behind, rfl, hinsert⟩ := Keyed.insert_of_not_mem h value
  rw [List.map_append, List.mem_append, not_or] at h
  rw [insert_eq_keyed, hinsert, List.filter_append, List.filter_cons_of_pos (by simp),
    filter_eq_nil_of_not_mem h.1, filter_eq_nil_of_not_mem h.2, List.nil_append]

@[simp] theorem get?_nil (key : String) : get? key [] = none := rfl

@[simp] theorem get?_cons (key k : String) (v : Json) (rest : Fields) :
    get? key ((k, v) :: rest) = if key = k then some v else rest.get? key :=
  Keyed.lookup_cons k key v rest

theorem mem_of_get? {value : Json} (h : fields.get? key = some value) : (key, value) ∈ fields :=
  Keyed.mem_of_lookup h

theorem get?_filter {p : String × Json → Bool} (hp : ∀ value, p (key, value) = true)
    (fields : Fields) : get? key (fields.filter p) = fields.get? key :=
  Keyed.lookup_filter hp fields

theorem get?_erase {other : String} (hne : other ≠ key) (fields : Fields) :
    (erase key fields).get? other = fields.get? other :=
  get?_filter (fun _ => decide_eq_true hne) fields

/-- What is found for a key is the first field of the key. -/
theorem get?_eq_head?_filter (key : String) (fields : Fields) :
    fields.get? key = ((fields.filter (·.1 = key)).head?).map Prod.snd := by
  induction fields with
  | nil => rfl
  | cons f rest ih =>
    obtain ⟨k, v⟩ := f
    by_cases hk : k = key
    · rw [List.filter_cons_of_pos (by simp [hk]), get?_cons, if_pos hk.symm]
      rfl
    · rw [List.filter_cons_of_neg (by simp [hk]), get?_cons, if_neg (Ne.symm hk), ih]

theorem get?_insert {other : String} (hne : other ≠ key) (h : key ∉ fields.map Prod.fst)
    (value : Json) : (insert key value fields).get? other = fields.get? other := by
  rw [← get?_erase hne (insert key value fields), erase_insert h]

theorem get?_eq_none_of_not_mem (h : key ∉ fields.map Prod.fst) : fields.get? key = none :=
  List.lookup_eq_none_iff.2 fun _ hf =>
    bne_iff_ne.2 fun heq => h (heq ▸ List.mem_map_of_mem hf)

end JobLog.Json.Fields
