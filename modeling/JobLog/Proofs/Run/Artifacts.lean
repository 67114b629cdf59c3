import JobLog.Artifact
import JobLog.Proofs.Keyed

/-!
# The order of artifacts

Artifacts are set by name one after another. Each name keeps the artifact that was set last, and
the names stay in order, so that every name stands there once.

* `Artifacts.insert_eq_keyed` says that they are set as values with keys are, and
  `Artifacts.lookup_insert` and `Artifacts.filter_insert_ne` are about a single one.
* `Artifacts.lookup_insertAll`, `Artifacts.mem_insertAll` and `Artifacts.sorted_insertAll` are about
  several artifacts.
-/

namespace JobLog.Artifacts

/-- The names are in order, each once. -/
def Sorted (as : Artifacts) : Prop := (as.map Prod.fst).Pairwise (· < ·)

theorem sorted_nil : Sorted [] := List.Pairwise.nil

theorem insert_eq_keyed (name : String) (a : Artifact) (as : Artifacts) :
    insert name a as = Keyed.insert name a as := by
  induction as with
  | nil => rfl
  | cons head rest ih => rw [insert, Keyed.insert, ih]

theorem mem_insert {name : String} {a : Artifact} {x : String × Artifact} {as : Artifacts}
    (h : x ∈ insert name a as) : x = (name, a) ∨ x ∈ as := by
  rw [insert_eq_keyed] at h
  exact Keyed.mem_insert h

theorem lookup_insert (name x : String) (a : Artifact) (as : Artifacts) :
    (insert name a as).lookup x = if x = name then some a else as.lookup x := by
  rw [insert_eq_keyed]
  exact Keyed.lookup_insert name x a as

/-- The artifacts of other names stay as they are. -/
theorem filter_insert_ne (name : String) (a : Artifact) (as : Artifacts) :
    (insert name a as).filter (·.1 ≠ name) = as.filter (·.1 ≠ name) := by
  rw [insert_eq_keyed]
  exact Keyed.filter_insert_ne name a as

/-- The artifacts that are set in order. -/
def insertAll (as : Artifacts) (made : List (String × Artifact)) : Artifacts :=
  made.foldl (fun as a => insert a.1 a.2 as) as

theorem insertAll_eq_keyed (as : Artifacts) (made : List (String × Artifact)) :
    as.insertAll made = Keyed.insertAll as made := by
  unfold insertAll Keyed.insertAll
  simp only [insert_eq_keyed]

/-- **Each name keeps the artifact that was set last.** -/
theorem lookup_insertAll (as : Artifacts) (made : List (String × Artifact)) (x : String) :
    (as.insertAll made).lookup x = (made.reverse.lookup x).or (as.lookup x) := by
  rw [insertAll_eq_keyed]
  exact Keyed.lookup_insertAll as made x

theorem mem_insertAll {x : String × Artifact} {as : Artifacts} {made : List (String × Artifact)}
    (h : x ∈ as.insertAll made) : x ∈ as ∨ x ∈ made := by
  rw [insertAll_eq_keyed] at h
  exact Keyed.mem_insertAll h

theorem sorted_insertAll {as : Artifacts} (h : as.Sorted) (made : List (String × Artifact)) :
    (as.insertAll made).Sorted := by
  rw [insertAll_eq_keyed]
  exact Keyed.sorted_insertAll h made

theorem insertAll_eq_nil_iff (made : List (String × Artifact)) :
    insertAll [] made = [] ↔ made = [] := by
  rw [insertAll_eq_keyed]
  refine ⟨fun h => ?_, fun h => by rw [h]; rfl⟩
  cases made with
  | nil => rfl
  | cons a made => exact absurd h (Keyed.insertAll_ne_nil (List.cons_ne_nil a made))

end JobLog.Artifacts
