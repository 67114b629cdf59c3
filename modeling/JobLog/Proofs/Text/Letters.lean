import Mathlib.Data.UInt
import Mathlib.Order.Defs.LinearOrder

/-!
# Texts in letters of either case

Two texts have the same letters if they differ in the case of ASCII letters only.

* `toNat_toLower` and `toNat_toUpper` are the two foldings as arithmetic, `toLower_toUpper` and
  `toUpper_toLower` say that each undoes the other.
* `SameLetters` is the relation, `sameLetters_equivalence` says that it is an equivalence.
* `map_toLower_eq_iff` and `map_toUpper_eq_iff` say that folding a text and comparing it with a name
  written in one case finds the texts with the letters of the name, `find?_sameLetters_iff` that a
  search for the name finds its value.
-/

namespace JobLog.Text

theorem toNat_toLower (c : Char) :
    c.toLower.toNat = if 65 ≤ c.toNat ∧ c.toNat ≤ 90 then c.toNat + 32 else c.toNat := by
  have hstep : 'a'.val - 'A'.val = (32 : UInt32) := rfl
  unfold Char.toLower
  simp only [UInt32.le_iff_toNat_le, ge_iff_le]
  split_ifs with hupper hletter hletter
  case pos =>
    have hle : c.val.toNat ≤ 90 := hupper.2
    show (c.val + _).toNat = c.val.toNat + 32
    rw [hstep, UInt32.toNat_add]
    exact Nat.mod_eq_of_lt (by simp only [UInt32.reduceToNat]; omega)
  case neg => exact absurd hupper hletter
  case pos => exact absurd hletter hupper
  case neg => rfl

theorem toNat_toUpper (c : Char) :
    c.toUpper.toNat = if 97 ≤ c.toNat ∧ c.toNat ≤ 122 then c.toNat - 32 else c.toNat := by
  -- the step down is a step up that wraps around
  have hstep : 'A'.val - 'a'.val = (4294967264 : UInt32) := rfl
  unfold Char.toUpper
  simp only [UInt32.le_iff_toNat_le]
  split_ifs with hlower hletter hletter
  case pos =>
    have hge : 97 ≤ c.val.toNat := hlower.1
    have hle : c.val.toNat ≤ 122 := hlower.2
    show (c.val + _).toNat = c.val.toNat - 32
    rw [hstep, UInt32.toNat_add]
    simp only [UInt32.reduceToNat]
    omega
  case neg => exact absurd hlower hletter
  case pos => exact absurd hletter hlower
  case neg => rfl

theorem toLower_toUpper (c : Char) : c.toUpper.toLower = c.toLower := by
  rw [← Char.toNat_inj, toNat_toLower, toNat_toUpper, toNat_toLower]
  split_ifs <;> omega

theorem toUpper_toLower (c : Char) : c.toLower.toUpper = c.toUpper := by
  rw [← Char.toNat_inj, toNat_toUpper, toNat_toLower, toNat_toUpper]
  split_ifs <;> omega

/-- The texts differ in the case of ASCII letters only. -/
def SameLetters (s t : String) : Prop := s.toList.map Char.toLower = t.toList.map Char.toLower

instance (s t : String) : Decidable (SameLetters s t) :=
  inferInstanceAs (Decidable (s.toList.map Char.toLower = t.toList.map Char.toLower))

theorem sameLetters_equivalence : Equivalence SameLetters :=
  ⟨fun _ => rfl, Eq.symm, Eq.trans⟩

/-- It makes no difference which case the letters are brought to. -/
theorem sameLetters_iff_map_toUpper {s t : String} :
    SameLetters s t ↔ s.toList.map Char.toUpper = t.toList.map Char.toUpper := by
  constructor
  · intro h
    simpa [Function.comp_def, toUpper_toLower] using congrArg (List.map Char.toUpper) h
  · intro h
    simpa [Function.comp_def, toLower_toUpper, SameLetters] using congrArg (List.map Char.toLower) h

/-- A text in lower case is found by bringing the other one to lower case. -/
theorem map_toLower_eq_iff {s name : String} (h : name.toList.map Char.toLower = name.toList) :
    s.toList.map Char.toLower = name.toList ↔ SameLetters s name := by
  rw [SameLetters, h]

/-- A text in upper case is found by bringing the other one to upper case. -/
theorem map_toUpper_eq_iff {s name : String} (h : name.toList.map Char.toUpper = name.toList) :
    s.toList.map Char.toUpper = name.toList ↔ SameLetters s name := by
  rw [sameLetters_iff_map_toUpper, h]

/-- The value of a name, where the names of different values have different letters. -/
theorem find?_sameLetters_iff {α : Type} {all : List α} {name : α → String} (hall : ∀ a, a ∈ all)
    (hinj : ∀ a b, SameLetters (name a) (name b) → a = b) {s : String} {a : α} :
    all.find? (fun b => SameLetters s (name b)) = some a ↔ SameLetters s (name a) := by
  constructor
  · intro h
    exact of_decide_eq_true (List.find?_some (p := fun b => SameLetters s (name b)) h)
  · intro h
    cases hfind : all.find? fun b => SameLetters s (name b) with
    | none => exact absurd (decide_eq_true h) (List.find?_eq_none.1 hfind a (hall a))
    | some b =>
      have hb := of_decide_eq_true (List.find?_some (p := fun b => SameLetters s (name b)) hfind)
      rw [hinj b a (hb.symm.trans h)]

end JobLog.Text
