import JobLog.Proofs.Failure.Line
import JobLog.Proofs.Json.Written
import JobLog.Proofs.Text.Letters

/-!
# Records of other actions

A record whose action is not the name of a kind is kept as it is, apart from the number of its
line.

* `FailureLine.IsLineNumber` is the number of a line, `FailureLine.isLineNumber_iff` says that it is
  the one that is computed.
* `FailureLine.get?_keptFields` is each field of what is written out.
* `FailureLine.unknown_preserved` is the result for all lines.
-/

namespace JobLog.FailureLine

open Json (Fields)

/-! ### The number of a line -/

/-- The number of a line at a position: the value of `line`, if it is a whole number that fits a
word, or else the position. -/
inductive IsLineNumber (position : Nat) (line? : Option Json) : Nat → Prop
  | given {n : Nat} (hn : n < 2 ^ 64) (hline : line? = some (.ofNat n)) :
      IsLineNumber position line? n
  | missing (h : ∀ n : Nat, n < 2 ^ 64 → line? ≠ some (.ofNat n)) :
      IsLineNumber position line? position

theorem eq_ofNat_of_natural? {v : Json} {n : Nat} (h : v.natural? = some n) : v = .ofNat n := by
  cases v with
  | num m =>
    cases m with
    | int i =>
      rw [Json.natural?, Option.ite_none_right_eq_some] at h
      obtain ⟨hi, h⟩ := h
      obtain rfl := Option.some.inj h
      rw [Json.ofNat, Int.toNat_of_nonneg hi]
    | float x => cases h
  | null | bool | str | arr | obj => cases h

theorem ofNat_inj {m n : Nat} (h : Json.ofNat m = Json.ofNat n) : m = n := by
  have hm := Json.natural?_ofNat m
  rw [h, Json.natural?_ofNat] at hm
  exact (Option.some.inj hm).symm

section

variable {position n : Nat} {fields : Fields}

/-- The number that is computed is the number of the line, where whole numbers fit a word. -/
theorem isLineNumber_iff (hfits : ∀ m : Nat, fields.get? "line" = some (.ofNat m) → m < 2 ^ 64) :
    IsLineNumber position (fields.get? "line") n ↔ n = lineOf position fields := by
  rw [lineOf]
  cases hline : (fields.get? "line").bind Json.natural? with
  | some m =>
    obtain ⟨v, hv, hm⟩ := Option.bind_eq_some_iff.1 hline
    obtain rfl := eq_ofNat_of_natural? hm
    rw [Option.getD_some]
    constructor
    · rintro (⟨-, hn⟩ | hnone)
      · exact ofNat_inj (Option.some.inj (hn.symm.trans hv))
      · exact absurd hv (hnone m (hfits m hv))
    · rintro rfl
      exact .given (hfits n hv) hv
  | none =>
    have hnone : ∀ m, m < 2 ^ 64 → fields.get? "line" ≠ some (.ofNat m) := by
      rintro m - hm
      rw [hm, Option.bind_some, Json.natural?_ofNat] at hline
      cases hline
    rw [Option.getD_none]
    constructor
    · rintro (⟨hn, hline⟩ | -)
      · exact absurd hline (hnone n hn)
      · rfl
    · rintro rfl
      exact .missing hnone

end

/-! ### What is written out -/

/-- The fields of a record with the number of its line, without the one it was read from. -/
def keptFields (line : Nat) (fields : Fields) : Fields :=
  Fields.insert "line_number" (.ofNat line)
    (Fields.erase "line" (Fields.erase "line_number" fields))

theorem get?_keptFields (line : Nat) (fields : Fields) (key : String) :
    (keptFields line fields).get? key =
      if key = "line_number" then some (.ofNat line)
      else if key = "line" then none
      else fields.get? key := by
  rw [keptFields, Fields.insert_eq_keyed, Fields.get?, Keyed.lookup_insert, ← Fields.get?]
  split_ifs with hnumber hline
  case pos => rfl
  case pos =>
    rw [hline]
    exact Fields.get?_eq_none_of_not_mem (Fields.not_mem_keys_erase _ _)
  case neg => rw [Fields.get?_erase hline, Fields.get?_erase hnumber]

theorem isCanonical_keptFields (line : Nat) {fields : Fields} (h : (Json.obj fields).IsCanonical) :
    (Json.obj (keptFields line fields)).IsCanonical := by
  have hrest := Json.isCanonical_erase (Json.isCanonical_erase h "line_number") "line"
  obtain ⟨hsorted, hvalues⟩ := Json.isCanonical_obj_iff.1 hrest
  rw [keptFields, Fields.insert_eq_keyed]
  refine Json.isCanonical_obj_iff.2 ⟨Keyed.sorted_insert hsorted _ _, fun f hf => ?_⟩
  rcases Keyed.mem_insert hf with rfl | hf
  · rfl
  · exact hvalues f hf

/-! ### Objects of texts -/

theorem canonical_eq_ofNat_iff {v : Json} {n : Nat} : v.canonical = .ofNat n ↔ v = .ofNat n := by
  cases v with
  | arr | obj => exact ⟨nofun, nofun⟩
  | null | bool | num | str => exact Iff.rfl

theorem map_canonical_eq_ofNat_iff {v? : Option Json} {n : Nat} :
    v?.map Json.canonical = some (.ofNat n) ↔ v? = some (.ofNat n) := by
  cases v? with
  | none => exact ⟨nofun, nofun⟩
  | some v => simp only [Option.map_some, Option.some.injEq, canonical_eq_ofNat_iff]

/-- Putting the value of `line` in order does not change the number of the line. -/
theorem isLineNumber_canonical_iff {position n : Nat} {line? : Option Json} :
    IsLineNumber position (line?.map Json.canonical) n ↔ IsLineNumber position line? n := by
  constructor
  · rintro (⟨hn, hline⟩ | hnone)
    · exact .given hn (map_canonical_eq_ofNat_iff.1 hline)
    · exact .missing fun m hm hline => hnone m hm (map_canonical_eq_ofNat_iff.2 hline)
  · rintro (⟨hn, hline⟩ | hnone)
    · exact .given hn (map_canonical_eq_ofNat_iff.2 hline)
    · exact .missing fun m hm hline => hnone m hm (map_canonical_eq_ofNat_iff.1 hline)

/-- The fields of a text, each key with its last value. -/
def lastFields (written : Fields) : Fields := Fields.ofList (Json.canonicalFields written)

theorem get?_lastFields (key : String) (written : Fields) :
    (lastFields written).get? key = (written.last? key).map Json.canonical :=
  Fields.get?_canonical key written

section

variable {text : String} {written : Fields}

theorem ofText?_of_ofTextIn? (h : Json.ofTextIn? .whole text = some (.obj written)) :
    Json.ofText? text = some (.obj (lastFields written)) := by
  rw [Json.ofText?_eq_map_canonical, h]
  rfl

/-- The text is an object with the given action. -/
theorem get?_action_of_last? {action : String} (h : written.last? "action" = some (.str action)) :
    ((lastFields written).get? "action").bind Json.text? = some action := by
  rw [get?_lastFields, h]
  rfl

/-- The record of a text is the one of its fields. -/
theorem ofLine?_of_ofTextIn? {action : String}
    (h : Json.ofTextIn? .whole text = some (.obj written))
    (haction : written.last? "action" = some (.str action)) (position : Nat) :
    ofLine? text position = (recordOf? action (lastFields written)).map
      (FailureLine.mk (lineOf position (lastFields written))) := by
  have hget := get?_action_of_last? haction
  rw [ofLine?, ofText?_of_ofTextIn? h]
  dsimp only
  rw [ofFields?, hget, Option.map_eq_bind]
  rfl

theorem isLineNumber_last?_iff (h : Json.ofTextIn? .whole text = some (.obj written))
    {position n : Nat} :
    IsLineNumber position (written.last? "line") n ↔ n = lineOf position (lastFields written) := by
  have hfits : ∀ m : Nat, (lastFields written).get? "line" = some (.ofNat m) → m < 2 ^ 64 := by
    intro m hm
    rw [get?_lastFields, map_canonical_eq_ofNat_iff] at hm
    have hlt := Json.int_lt_of_ofTextIn? h (List.mem_reverse.1 (Fields.mem_of_get? hm))
    exact_mod_cast hlt
  rw [← isLineNumber_canonical_iff, ← get?_lastFields, isLineNumber_iff hfits]

/-- A line without an object that has an action holds no record. -/
theorem ofLine?_eq_none (position : Nat)
    (h : ¬ ∃ (written : Fields) (action : String), Json.ofTextIn? .whole text = some (.obj written) ∧
      written.last? "action" = some (.str action)) :
    ofLine? text position = none := by
  rw [ofLine?, Json.ofText?_eq_map_canonical]
  cases hwritten : Json.ofTextIn? .whole text with
  | none => rfl
  | some v =>
    cases v with
    | obj written =>
      have haction : ((lastFields written).get? "action").bind Json.text? = none := by
        rw [get?_lastFields]
        cases hlast : Fields.last? "action" written with
        | none => rfl
        | some v =>
          cases v with
          | str action => exact absurd ⟨written, action, hwritten, hlast⟩ h
          | null | bool | num | arr | obj => rfl
      show ofFields? position (lastFields written) = none
      rw [ofFields?, haction]
      rfl
    | null | bool | num | str | arr => rfl

end

/-! ### Names of kinds -/

theorem lower_eq_iff {s name : String} (hname : lower name = name) :
    lower s = name ↔ Text.SameLetters s name := by
  have hletters : name.toList.map Char.toLower = name.toList := by
    simpa only [lower, String.toList_ofList] using congrArg String.toList hname
  rw [← Text.map_toLower_eq_iff hletters, lower, ← String.toList_inj, String.toList_ofList]

theorem lower_mem_names_iff {s : String} :
    lower s ∈ Action.names ↔ ∃ name ∈ Action.names, Text.SameLetters s name := by
  constructor
  · intro h
    exact ⟨_, h, (lower_eq_iff (lower_of_mem_names h)).1 rfl⟩
  · rintro ⟨name, hmem, hname⟩
    rwa [(lower_eq_iff (lower_of_mem_names hmem)).2 hname]

/-! ### The result -/

/-- **Records of other actions are kept.** A line that is an object with an action that is not the
name of a kind, in letters of either case, holds a record that is no known one. It is written out
as the object of the line, in order and each key with its last value, with the number of the line
under `line_number` and without `line`. A line that is no object with an action holds none. -/
theorem unknown_preserved (text : String) (position : Nat) :
    (∀ (written : Fields) (action : String), Json.ofTextIn? .whole text = some (.obj written) →
      written.last? "action" = some (.str action) →
      (∀ name ∈ Action.names, ¬ Text.SameLetters action name) →
      ∃ l kept, ofLine? text position = some l ∧ l.action? = none ∧
        IsLineNumber position (written.last? "line") l.line ∧
        l.toJson = .obj kept ∧ (Json.obj kept).IsCanonical ∧
        ∀ key, Fields.get? key kept =
          if key = "line_number" then some (.ofNat l.line)
          else if key = "line" then none
          else (written.last? key).map Json.canonical) ∧
    ((¬ ∃ (written : Fields) (action : String),
        Json.ofTextIn? .whole text = some (.obj written) ∧
          written.last? "action" = some (.str action)) →
      ofLine? text position = none) := by
  refine ⟨fun written action htext haction hunknown => ?_, ofLine?_eq_none position⟩
  have hname : ¬ Action.names.contains (lower action) = true := by
    rw [List.contains_iff_mem, lower_mem_names_iff]
    rintro ⟨name, hmem, hsame⟩
    exact hunknown name hmem hsame
  have hobject := ofText?_of_ofTextIn? htext
  have hline : ofLine? text position = some ⟨lineOf position (lastFields written),
      .other (Fields.erase "line" (Fields.erase "line_number" (lastFields written)))⟩ := by
    rw [ofLine?_of_ofTextIn? htext haction, recordOf?, if_neg hname, Option.map_some]
  refine ⟨_, keptFields (lineOf position (lastFields written)) (lastFields written), hline, rfl,
    (isLineNumber_last?_iff htext).2 rfl, rfl,
    isCanonical_keptFields _ (Json.isCanonical_of_ofText? hobject), fun key => ?_⟩
  rw [get?_keptFields, get?_lastFields]

/-- A record of another action with a repeated key, both numbers of a line and a field of a
message. -/
def repeatedFields : Fields :=
  [("action", .str "log"), ("level", .str "ERROR"), ("line", .ofNat 7), ("line_number", .ofNat 5),
    ("action", .str "Other")]

set_option maxRecDepth 2000 in
theorem ofTextIn?_repeatedFields :
    Json.ofTextIn? .whole (Json.obj repeatedFields).write = some (.obj repeatedFields) := by
  cbv

theorem ofTextIn?_list : Json.ofTextIn? .whole "[]" = some (.arr []) := by cbv

theorem unknown_preserved_repeatedFields :
    Json.ofTextIn? .whole (Json.obj repeatedFields).write = some (.obj repeatedFields) ∧
    repeatedFields.last? "action" = some (.str "Other") ∧
    (∀ name ∈ Action.names, ¬ Text.SameLetters "Other" name) ∧
    (∃ l kept, ofLine? (Json.obj repeatedFields).write 3 = some l ∧ l.action? = none ∧
      IsLineNumber 3 (repeatedFields.last? "line") l.line ∧
      l.toJson = .obj kept ∧ (Json.obj kept).IsCanonical ∧
      ∀ key, Fields.get? key kept =
        if key = "line_number" then some (.ofNat l.line)
        else if key = "line" then none
        else (repeatedFields.last? key).map Json.canonical) ∧
    (¬ ∃ (written : Fields) (action : String), Json.ofTextIn? .whole "[]" = some (.obj written) ∧
      written.last? "action" = some (.str action)) ∧
    ofLine? "[]" 3 = none := by
  have hunknown : ∀ name ∈ Action.names, ¬ Text.SameLetters "Other" name := by decide
  have hlist : ¬ ∃ (written : Fields) (action : String),
      Json.ofTextIn? .whole "[]" = some (.obj written) ∧
        written.last? "action" = some (.str action) := by
    rintro ⟨written, -, hwritten, -⟩
    rw [ofTextIn?_list] at hwritten
    exact nomatch hwritten
  have haction : repeatedFields.last? "action" = some (.str "Other") := rfl
  exact ⟨ofTextIn?_repeatedFields, haction, hunknown,
    (unknown_preserved _ 3).1 _ _ ofTextIn?_repeatedFields haction hunknown, hlist,
    (unknown_preserved "[]" 3).2 hlist⟩

end JobLog.FailureLine
