import JobLog.Bug.Basic
import Mathlib.Data.List.Nodup

/-!
# Bugs that are merged

Merging adds the bugs of an answer one after the other, the open and recent ones first. A bug is
added where its id is not there yet, so the first bug of an id stays, in the list it comes from.

* `Listed` is a bug with its list, and `Bugs.listed` are those of an answer in the order in which
  they are merged.
* `Bugs.add` adds one bug: `Bugs.mem_listed_add` and `Bugs.nodup_add` say what is there behind it.
* `Bugs.addAll` adds several: `Bugs.mem_listed_addAll` says that the first bug of each new id is
  added, and `Bugs.mergeAll_eq_addAll` that answers are merged in this way.
-/

namespace JobLog

/-- A bug of an answer, with the list where it stands. -/
inductive Listed
  | openRecent (bug : Bug)
  | other (bug : Bug)
  deriving DecidableEq, Repr

namespace Listed

/-- The bug. -/
def bug : Listed → Bug
  | .openRecent bug => bug
  | .other bug => bug

/-- The id of the bug. -/
def id (x : Listed) : Nat := x.bug.id

end Listed

namespace Bugs

variable {b : Bugs} {x y : Listed}

/-- The bugs in the order in which they are merged. -/
def listed (b : Bugs) : List Listed := b.openRecent.map .openRecent ++ b.allOthers.map .other

/-- Adds a bug to the list where it stands, unless its id is there. -/
def add (b : Bugs) : Listed → Bugs
  | .openRecent bug => b.addOpen bug
  | .other bug => b.addOther bug

/-- Adds bugs one after the other. -/
def addAll (b : Bugs) (l : List Listed) : Bugs := l.foldl add b

/-- Merges answers one after the other. -/
def mergeAll (b : Bugs) (answers : List Bugs) : Bugs := answers.foldl merge b

theorem map_bug_listed (b : Bugs) : b.listed.map Listed.bug = b.all := by
  simp only [listed, all, List.map_append, List.map_map]
  exact congrArg₂ (· ++ ·) (List.map_id _) (List.map_id _)

theorem merge_eq_addAll (b other : Bugs) : b.merge other = b.addAll other.listed := by
  rw [addAll, listed, List.foldl_append, List.foldl_map, List.foldl_map]
  rfl

@[simp] theorem merge_empty (b : Bugs) : b.merge .empty = b := rfl

@[simp] theorem mergeAll_concat (b : Bugs) (answers : List Bugs) (a : Bugs) :
    b.mergeAll (answers ++ [a]) = (b.mergeAll answers).merge a :=
  List.foldl_append

theorem mergeAll_eq_addAll (b : Bugs) (answers : List Bugs) :
    b.mergeAll answers = b.addAll (answers.flatMap listed) := by
  induction answers generalizing b with
  | nil => rfl
  | cons a answers ih =>
    calc b.mergeAll (a :: answers) = (b.merge a).mergeAll answers := rfl
      _ = (b.addAll a.listed).addAll (answers.flatMap listed) := by rw [ih, merge_eq_addAll]
      _ = b.addAll (a.listed ++ answers.flatMap listed) := List.foldl_append.symm

theorem hasId_iff {id : Nat} : b.hasId id = true ↔ ∃ x ∈ b.listed, x.id = id := by
  simp only [hasId, ← map_bug_listed, List.any_map, List.any_eq_true, Function.comp_apply,
    beq_iff_eq, Listed.id]

theorem mem_ids_iff {id : Nat} : id ∈ b.all.map Bug.id ↔ b.hasId id = true := by
  simp [hasId]

theorem map_id_listed (b : Bugs) : b.listed.map Listed.id = b.all.map Bug.id := by
  rw [← map_bug_listed, List.map_map]
  rfl

theorem isEmpty_iff_hasId : b.isEmpty = true ↔ ∀ id, ¬ b.hasId id = true := by
  have hempty : b.isEmpty = true ↔ b.listed = [] := by simp [isEmpty, listed]
  simp only [hempty, List.eq_nil_iff_forall_not_mem, hasId_iff]
  exact ⟨fun h id ⟨x, hx, _⟩ => h x hx, fun h x hx => h x.id ⟨x, hx, rfl⟩⟩

/-! ### One bug -/

theorem add_of_hasId (h : b.hasId x.id = true) : b.add x = b := by
  cases x with
  | openRecent bug => exact if_pos h
  | other bug => exact if_pos h

theorem listed_add_perm (h : b.hasId x.id = false) : (b.add x).listed.Perm (x :: b.listed) := by
  have hnot : ¬ b.hasId x.id = true := by rw [h]; exact Bool.false_ne_true
  cases x with
  | openRecent bug =>
    have hadd : b.add (.openRecent bug) = ⟨b.openRecent ++ [bug], b.allOthers⟩ := if_neg hnot
    rw [hadd, listed, List.map_append, List.append_assoc]
    exact List.perm_middle
  | other bug =>
    have hadd : b.add (.other bug) = ⟨b.openRecent, b.allOthers ++ [bug]⟩ := if_neg hnot
    rw [hadd, listed, List.map_append, ← List.append_assoc]
    exact List.perm_append_singleton _ _

theorem mem_listed_add : y ∈ (b.add x).listed ↔ y ∈ b.listed ∨ b.hasId x.id = false ∧ y = x := by
  cases h : b.hasId x.id with
  | true => simp [add_of_hasId h]
  | false =>
    rw [(listed_add_perm h).mem_iff, List.mem_cons]
    simp [or_comm]

theorem hasId_add {id : Nat} : (b.add x).hasId id = true ↔ b.hasId id = true ∨ x.id = id := by
  cases h : b.hasId x.id with
  | true =>
    rw [add_of_hasId h]
    exact ⟨.inl, fun hor => hor.elim (fun hid => hid) fun heq => heq ▸ h⟩
  | false =>
    simp only [hasId_iff, (listed_add_perm h).mem_iff, List.mem_cons, exists_eq_or_imp]
    exact or_comm

/-- **Adding a bug keeps the ids apart.** -/
theorem nodup_add (x : Listed) (h : (b.listed.map Listed.id).Nodup) :
    ((b.add x).listed.map Listed.id).Nodup := by
  cases hid : b.hasId x.id with
  | true => rwa [add_of_hasId hid]
  | false =>
    rw [((listed_add_perm hid).map Listed.id).nodup_iff, List.map_cons, List.nodup_cons]
    refine ⟨fun hmem => ?_, h⟩
    obtain ⟨y, hy, heq⟩ := List.mem_map.1 hmem
    exact Bool.false_ne_true (hid.symm.trans (hasId_iff.2 ⟨y, hy, heq⟩))

/-! ### Several bugs -/

@[simp] theorem addAll_nil (b : Bugs) : b.addAll [] = b := rfl

@[simp] theorem addAll_cons (b : Bugs) (x : Listed) (l : List Listed) :
    b.addAll (x :: l) = (b.add x).addAll l := rfl

/-- **The first bug of each new id is added**, with the list where it stands. -/
theorem mem_listed_addAll {l : List Listed} :
    y ∈ (b.addAll l).listed ↔
      y ∈ b.listed ∨ b.hasId y.id = false ∧ l.find? (fun x => x.id = y.id) = some y := by
  induction l generalizing b with
  | nil => simp
  | cons x l ih =>
    rw [addAll_cons, ih, mem_listed_add, List.find?_cons]
    simp only [← Bool.not_eq_true, hasId_add]
    by_cases hid : x.id = y.id
    · simp [hid, eq_comm (a := y) (b := x)]
    · have hne : y ≠ x := fun heq => hid (congrArg Listed.id heq.symm)
      simp [hid, hne]

theorem hasId_addAll {l : List Listed} {id : Nat} :
    (b.addAll l).hasId id = true ↔ b.hasId id = true ∨ ∃ x ∈ l, x.id = id := by
  induction l generalizing b with
  | nil => simp
  | cons x l ih => simp [ih, hasId_add, or_assoc]

theorem nodup_addAll (l : List Listed) (h : (b.listed.map Listed.id).Nodup) :
    ((b.addAll l).listed.map Listed.id).Nodup := by
  induction l generalizing b with
  | nil => exact h
  | cons x l ih => exact ih (nodup_add x h)

/-- Bugs whose ids are all there change nothing. -/
theorem addAll_of_hasId {l : List Listed} (h : ∀ x ∈ l, b.hasId x.id = true) : b.addAll l = b := by
  induction l with
  | nil => rfl
  | cons x l ih =>
    rw [addAll_cons, add_of_hasId (h x List.mem_cons_self)]
    exact ih fun y hy => h y (List.mem_cons_of_mem x hy)

/-! ### Answers -/

/-- An answer that was merged before changes nothing. -/
theorem merge_of_mem {a : Bugs} {answers : List Bugs} (h : a ∈ answers) :
    (b.mergeAll answers).merge a = b.mergeAll answers := by
  rw [merge_eq_addAll, mergeAll_eq_addAll]
  refine addAll_of_hasId fun x hx => hasId_addAll.2 (.inr ⟨x, ?_, rfl⟩)
  exact List.mem_flatMap.2 ⟨a, h, hx⟩

/-- **Of the answers the first bug of each id is left**, in the list where it stood. -/
theorem mem_listed_mergeAll {answers : List Bugs} :
    x ∈ (mergeAll .empty answers).listed ↔
      (answers.flatMap listed).find? (fun y => y.id = x.id) = some x := by
  rw [mergeAll_eq_addAll, mem_listed_addAll]
  simp [empty, listed, hasId, all]

theorem hasId_mergeAll {answers : List Bugs} {id : Nat} :
    (mergeAll .empty answers).hasId id = true ↔ ∃ a ∈ answers, a.hasId id = true := by
  have hnone : ¬ empty.hasId id = true := Bool.false_ne_true
  rw [mergeAll_eq_addAll, hasId_addAll, or_iff_right hnone]
  simp only [hasId_iff, List.mem_flatMap]
  constructor
  · rintro ⟨x, ⟨a, ha, hx⟩, hid⟩
    exact ⟨a, ha, x, hx, hid⟩
  · rintro ⟨a, ha, x, hx, hid⟩
    exact ⟨x, ⟨a, ha, hx⟩, hid⟩

theorem nodup_mergeAll (answers : List Bugs) :
    ((mergeAll .empty answers).listed.map Listed.id).Nodup := by
  rw [mergeAll_eq_addAll]
  exact nodup_addAll _ .nil

theorem isEmpty_mergeAll (answers : List Bugs) :
    (mergeAll .empty answers).isEmpty = answers.all isEmpty := by
  rw [Bool.eq_iff_iff, isEmpty_iff_hasId, List.all_eq_true]
  simp only [isEmpty_iff_hasId, hasId_mergeAll]
  exact ⟨fun h a ha id hid => h id ⟨a, ha, hid⟩, fun h id ⟨a, ha, hid⟩ => h a ha id hid⟩

/-- A bug of an id that is known does not count, and neither does its list. -/
example (s t : String) :
    mergeAll .empty [⟨[⟨1, s, none, none, none⟩], [⟨2, s, none, none, none⟩]⟩,
        ⟨[⟨2, t, none, none, none⟩, ⟨3, t, none, none, none⟩], [⟨1, t, none, none, none⟩]⟩] =
      ⟨[⟨1, s, none, none, none⟩, ⟨3, t, none, none, none⟩], [⟨2, s, none, none, none⟩]⟩ := rfl

end Bugs
end JobLog
