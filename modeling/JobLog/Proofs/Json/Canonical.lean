import JobLog.Json.Written
import JobLog.Proofs.Json.Fields

/-!
# Canonical values

A value is canonical if putting it in order changes nothing.

* `isCanonical_canonical`: putting a value in order once is enough.
* `isCanonical_arr_iff` and `isCanonical_obj_iff` look into lists and objects.
* `isCanonical_of_ofText?`: whatever is read from a text is canonical.
-/

namespace JobLog.Json

/-- All objects in the value have their keys in order, each once. -/
def IsCanonical (v : Json) : Prop := v.canonical = v

theorem canonicalItems_eq_map (items : List Json) : canonicalItems items = items.map canonical := by
  induction items with
  | nil => rfl
  | cons v vs ih => rw [canonicalItems, ih, List.map_cons]

theorem canonicalFields_eq_map (fields : Fields) :
    canonicalFields fields = fields.map fun f => (f.1, f.2.canonical) := by
  induction fields with
  | nil => rfl
  | cons f fs ih => rw [canonicalFields, ih, List.map_cons]

theorem canonicalItems_eq_self {items : List Json} (h : ∀ v ∈ items, IsCanonical v) :
    canonicalItems items = items := by
  rw [canonicalItems_eq_map]
  exact (List.map_congr_left h).trans (List.map_id items)

theorem canonicalFields_eq_self {fields : Fields} (h : ∀ f ∈ fields, IsCanonical f.2) :
    canonicalFields fields = fields := by
  have hfield : ∀ f ∈ fields, (f.1, f.2.canonical) = f := fun f hf => congrArg (f.1, ·) (h f hf)
  rw [canonicalFields_eq_map, List.map_congr_left hfield, List.map_id']

mutual

/-- Putting a value in order once is enough. -/
theorem isCanonical_canonical : ∀ v : Json, IsCanonical v.canonical
  | .null => rfl
  | .bool _ => rfl
  | .num _ => rfl
  | .str _ => rfl
  | .arr items => congrArg Json.arr (canonicalItems_eq_self (isCanonical_canonicalItems items))
  | .obj fields => by
    -- the fields that are kept are among those put in order, so a second pass changes none
    have hvalues := isCanonical_canonicalFields fields
    have hself := canonicalFields_eq_self fun f hf => hvalues f (Fields.mem_ofList hf)
    show Json.obj (Fields.ofList (canonicalFields (Fields.ofList (canonicalFields fields)))) = _
    rw [hself, Fields.ofList_eq_self (Fields.sorted_ofList _)]
    rfl

theorem isCanonical_canonicalItems : ∀ items : List Json, ∀ v ∈ canonicalItems items, IsCanonical v
  | [], _, h => nomatch h
  | w :: ws, v, h => by
    rcases List.mem_cons.1 h with rfl | h
    · exact isCanonical_canonical w
    · exact isCanonical_canonicalItems ws v h

theorem isCanonical_canonicalFields :
    ∀ fields : Fields, ∀ f ∈ canonicalFields fields, IsCanonical f.2
  | [], _, h => nomatch h
  | (k, w) :: ws, f, h => by
    rcases List.mem_cons.1 h with rfl | h
    · exact isCanonical_canonical w
    · exact isCanonical_canonicalFields ws f h

end

theorem isCanonical_arr_iff {items : List Json} :
    IsCanonical (.arr items) ↔ ∀ v ∈ items, IsCanonical v := by
  refine ⟨fun h v hv => ?_, fun h => congrArg Json.arr (canonicalItems_eq_self h)⟩
  have hitems : canonicalItems items = items := Json.arr.inj h
  exact isCanonical_canonicalItems items v (hitems.symm ▸ hv)

theorem isCanonical_obj_iff {fields : Fields} :
    IsCanonical (.obj fields) ↔ Keyed.Sorted fields ∧ ∀ f ∈ fields, IsCanonical f.2 := by
  constructor
  · intro h
    have hfields : Fields.ofList (canonicalFields fields) = fields := Json.obj.inj h
    refine ⟨hfields ▸ Fields.sorted_ofList _, fun f hf => ?_⟩
    rw [← hfields] at hf
    exact isCanonical_canonicalFields fields f (Fields.mem_ofList hf)
  · rintro ⟨hsorted, hvalues⟩
    show Json.obj (Fields.ofList (canonicalFields fields)) = _
    rw [canonicalFields_eq_self hvalues, Fields.ofList_eq_self hsorted]

theorem isCanonical_erase {fields : Fields} (h : IsCanonical (.obj fields)) (key : String) :
    IsCanonical (.obj (fields.erase key)) := by
  obtain ⟨hsorted, hvalues⟩ := isCanonical_obj_iff.1 h
  have hsub := Fields.erase_sublist key fields
  exact isCanonical_obj_iff.2 ⟨hsorted.sublist hsub, fun f hf => hvalues f (hsub.mem hf)⟩

/-- Whatever is read from a text is canonical. -/
theorem isCanonical_of_ofText? {s : String} {v : Json} (h : ofText? s = some v) :
    IsCanonical v := by
  obtain ⟨w, -, rfl⟩ := Option.map_eq_some_iff.1 h
  exact isCanonical_canonical w

end JobLog.Json
