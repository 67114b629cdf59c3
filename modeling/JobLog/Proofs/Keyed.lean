import Mathlib.Data.String.Basic

/-!
# Values in the order of their keys

The artifacts of a run and the fields of a JSON object are kept in the same way: a value is set for
a key, the keys stay in order and each stands there once. This is about values of any kind.

* `Keyed.insert` sets the value of a key. `Keyed.lookup_insert` and `Keyed.mem_insert` say what is
  there behind it, `Keyed.filter_insert_ne` that the other values stay, `Keyed.sorted_insert` that
  the order does.
* `Keyed.insert_of_not_mem` is the place of a new key, `Keyed.insert_of_lt` the place of one behind
  all others.
* `Keyed.insertAll` sets several values. `Keyed.lookup_insertAll` says that the last one counts,
  `Keyed.insertAll_of_sorted` that values in order stay as they are.
-/

namespace JobLog.Keyed

variable {α : Type} {key : String} {value : α} {l : List (String × α)}

/-- The keys are in order, each once. -/
def Sorted (l : List (String × α)) : Prop := (l.map Prod.fst).Pairwise (· < ·)

/-- Sets the value of a key, keeping the keys in order. -/
def insert (key : String) (value : α) : List (String × α) → List (String × α)
  | [] => [(key, value)]
  | (k, v) :: rest =>
    if key < k then (key, value) :: (k, v) :: rest
    else if key = k then (key, value) :: rest
    else (k, v) :: insert key value rest

theorem sorted_nil : Sorted ([] : List (String × α)) := List.Pairwise.nil

theorem sorted_cons {x : String × α} :
    Sorted (x :: l) ↔ (∀ k ∈ l.map Prod.fst, x.1 < k) ∧ Sorted l :=
  List.pairwise_cons

theorem Sorted.sublist {l' : List (String × α)} (h : Sorted l) (hsub : l'.Sublist l) :
    Sorted l' :=
  List.Pairwise.sublist (hsub.map Prod.fst) h

theorem lookup_cons (k x : String) (v : α) (l : List (String × α)) :
    List.lookup x ((k, v) :: l) = if x = k then some v else l.lookup x := by
  rw [List.lookup_cons]
  by_cases hx : x = k
  · simp [hx]
  · simp [hx, beq_eq_false_iff_ne.2 hx]

/-- A value is found as well among those that include all of its key. -/
theorem lookup_filter {p : String × α → Bool} (hp : ∀ value, p (key, value) = true)
    (l : List (String × α)) : (l.filter p).lookup key = l.lookup key := by
  induction l with
  | nil => rfl
  | cons x l ih =>
    obtain ⟨k, v⟩ := x
    by_cases hk : key = k
    · rw [List.filter_cons_of_pos (hk ▸ hp v), lookup_cons, lookup_cons, if_pos hk, if_pos hk]
    · rw [lookup_cons, if_neg hk, ← ih, List.filter_cons]
      split
      case isTrue => rw [lookup_cons, if_neg hk]
      case isFalse => rfl

theorem mem_of_lookup (h : l.lookup key = some value) : (key, value) ∈ l := by
  induction l with
  | nil => exact nomatch h
  | cons x l ih =>
    rw [lookup_cons] at h
    split at h
    case isTrue hx =>
      obtain rfl := Option.some.inj h
      exact List.mem_cons.2 (.inl (Prod.ext hx rfl))
    case isFalse => exact List.mem_cons_of_mem x (ih h)

/-- Where the keys are in order, each value is found. -/
theorem lookup_eq_some_iff (h : Sorted l) : l.lookup key = some value ↔ (key, value) ∈ l := by
  refine ⟨mem_of_lookup, fun hmem => ?_⟩
  induction l with
  | nil => exact nomatch hmem
  | cons x l ih =>
    obtain ⟨hfirst, hrest⟩ := sorted_cons.1 h
    rw [lookup_cons]
    rcases List.mem_cons.1 hmem with rfl | hmem
    · rw [if_pos rfl]
    · rw [if_neg (hfirst key (List.mem_map_of_mem hmem)).ne', ih hrest hmem]

theorem lookup_insert (key x : String) (value : α) (l : List (String × α)) :
    (insert key value l).lookup x = if x = key then some value else l.lookup x := by
  induction l with
  | nil => exact lookup_cons key x value []
  | cons head rest ih =>
    obtain ⟨k, v⟩ := head
    unfold insert
    split
    case isTrue hlt => exact lookup_cons key x value ((k, v) :: rest)
    case isFalse hle =>
      split
      case isTrue heq =>
        subst heq
        rw [lookup_cons, lookup_cons]
        split <;> rfl
      case isFalse hne =>
        rw [lookup_cons, lookup_cons, ih]
        -- the two tests are for different keys, so their order does not matter
        by_cases hx : x = k
        · have hkey : x ≠ key := fun h => hne (h.symm.trans hx)
          rw [if_pos hx, if_neg hkey, if_pos hx]
        · rw [if_neg hx, if_neg hx]

theorem mem_insert {x : String × α} (h : x ∈ insert key value l) : x = (key, value) ∨ x ∈ l := by
  induction l with
  | nil => exact .inl (List.mem_singleton.1 h)
  | cons head rest ih =>
    obtain ⟨k, v⟩ := head
    unfold insert at h
    split at h
    · exact List.mem_cons.1 h
    · split at h
      · exact (List.mem_cons.1 h).imp_right (List.mem_cons_of_mem _)
      · rcases List.mem_cons.1 h with rfl | h
        · exact .inr (List.mem_cons_self ..)
        · exact (ih h).imp_right (List.mem_cons_of_mem _)

/-- The values of other keys stay where they are. -/
theorem filter_insert_ne (key : String) (value : α) (l : List (String × α)) :
    (insert key value l).filter (·.1 ≠ key) = l.filter (·.1 ≠ key) := by
  induction l with
  | nil => simp [insert]
  | cons head rest ih =>
    obtain ⟨k, v⟩ := head
    unfold insert
    split
    case isTrue hlt => rw [List.filter_cons_of_neg (by simp)]
    case isFalse hle =>
      split
      case isTrue heq =>
        rw [List.filter_cons_of_neg (by simp), List.filter_cons_of_neg (by simp [heq])]
      case isFalse hne =>
        rw [List.filter_cons_of_pos (by simp [Ne.symm hne]),
          List.filter_cons_of_pos (by simp [Ne.symm hne]), ih]

theorem sorted_insert (h : Sorted l) (key : String) (value : α) : Sorted (insert key value l) := by
  induction l with
  | nil => simp [Sorted, insert]
  | cons head rest ih =>
    obtain ⟨k, v⟩ := head
    obtain ⟨hk, hrest⟩ := sorted_cons.1 h
    unfold insert
    split
    case isTrue hlt =>
      refine sorted_cons.2 ⟨fun x hx => ?_, h⟩
      rcases List.mem_cons.1 hx with rfl | hx
      · exact hlt
      · exact hlt.trans (hk x hx)
    case isFalse hle =>
      split
      case isTrue heq =>
        subst heq
        exact sorted_cons.2 ⟨hk, hrest⟩
      case isFalse hne =>
        refine sorted_cons.2 ⟨fun x hx => ?_, ih hrest⟩
        obtain ⟨y, hy, rfl⟩ := List.mem_map.1 hx
        rcases mem_insert hy with rfl | hy
        · exact lt_of_le_of_ne (not_lt.1 hle) (Ne.symm hne)
        · exact hk y.1 (List.mem_map_of_mem hy)

/-- A key behind all others takes the last place. -/
theorem insert_of_lt (h : ∀ k ∈ l.map Prod.fst, k < key) (value : α) :
    insert key value l = l ++ [(key, value)] := by
  induction l with
  | nil => rfl
  | cons head rest ih =>
    obtain ⟨hhead, hrest⟩ := List.forall_mem_cons.1 h
    rw [insert, if_neg hhead.not_gt, if_neg hhead.ne', ih hrest]
    rfl

/-- A new key stands somewhere between the others. -/
theorem insert_of_not_mem (h : key ∉ l.map Prod.fst) (value : α) :
    ∃ before behind, l = before ++ behind ∧
      insert key value l = before ++ (key, value) :: behind := by
  induction l with
  | nil => exact ⟨[], [], rfl, rfl⟩
  | cons head rest ih =>
    obtain ⟨hhead, hrest⟩ := not_or.1 (mt List.mem_cons.2 h)
    rw [insert, if_neg hhead]
    split
    case isTrue hlt => exact ⟨[], head :: rest, rfl, rfl⟩
    case isFalse hle =>
      obtain ⟨before, behind, hsplit, hinsert⟩ := ih hrest
      exact ⟨head :: before, behind, congrArg (head :: ·) hsplit, congrArg (head :: ·) hinsert⟩

/-! ### Values set one after the other -/

/-- The values that are set in order. -/
def insertAll (l made : List (String × α)) : List (String × α) :=
  made.foldl (fun l x => insert x.1 x.2 l) l

theorem sorted_insertAll (h : Sorted l) (made : List (String × α)) : Sorted (insertAll l made) := by
  induction made generalizing l with
  | nil => exact h
  | cons x made ih => exact ih (sorted_insert h x.1 x.2)

theorem mem_insertAll {x : String × α} {made : List (String × α)} (h : x ∈ insertAll l made) :
    x ∈ l ∨ x ∈ made := by
  induction made generalizing l with
  | nil => exact .inl h
  | cons y made ih =>
    rcases ih h with h | h
    · rcases mem_insert h with rfl | h
      · exact .inr (List.mem_cons_self ..)
      · exact .inl h
    · exact .inr (List.mem_cons_of_mem y h)

/-- **Each key keeps the value that was set last.** -/
theorem lookup_insertAll (l made : List (String × α)) (x : String) :
    (insertAll l made).lookup x = (made.reverse.lookup x).or (l.lookup x) := by
  induction made generalizing l with
  | nil => rfl
  | cons y made ih =>
    have hstep := ih (insert y.1 y.2 l)
    rw [lookup_insert] at hstep
    rw [insertAll, List.foldl_cons, ← insertAll, hstep, List.reverse_cons, List.lookup_append,
      Option.or_assoc, lookup_cons]
    by_cases hx : x = y.1
    · rw [if_pos hx, if_pos hx, Option.some_or]
    · rw [if_neg hx, if_neg hx, List.lookup_nil, Option.none_or]

/-- Values whose keys are in order behind those already there are put behind them. -/
theorem insertAll_of_sorted {made : List (String × α)} (h : Sorted (l ++ made)) :
    insertAll l made = l ++ made := by
  induction made generalizing l with
  | nil => exact (List.append_nil l).symm
  | cons x made ih =>
    have hlast : ∀ k ∈ l.map Prod.fst, k < x.1 := by
      rw [Sorted, List.map_append, List.pairwise_append] at h
      exact fun k hk => h.2.2 k hk x.1 (List.mem_cons_self ..)
    have happend : l ++ [x] ++ made = l ++ x :: made := by
      rw [List.append_assoc, List.singleton_append]
    have hrest := ih (happend.symm ▸ h)
    rw [insertAll, List.foldl_cons, insert_of_lt hlast, ← insertAll, hrest, happend]

theorem insertAll_ne_nil {made : List (String × α)} (h : made ≠ []) : insertAll [] made ≠ [] := by
  intro hnil
  obtain ⟨x, rest, hrev⟩ := List.exists_cons_of_ne_nil (List.reverse_eq_nil_iff.not.2 h)
  have hlookup := lookup_insertAll [] made x.1
  rw [hnil, hrev, List.lookup_nil, Option.or_none, lookup_cons, if_pos rfl] at hlookup
  exact nomatch hlookup

end JobLog.Keyed
