import JobLog.Proofs.Bug.Merge

/-!
# Merging as a union

Bugs that are merged stay in the order in which they were found, behind those that were there
before. Whichever answers are merged first, the first bug of an id is kept, so merging is a union by
id in which the order of the answers counts and their grouping does not.

* `Bugs.firstNew` are the bugs of a list that a merge adds: the first one of each new id.
* `Bugs.firstNew_append` and `Bugs.firstNew_firstNew` tell how they add up, and
  `Bugs.merge_eq_firstNew` that each list of a merge grows by its new bugs.
* `Bugs.FirstBugs` says without any recursion which bugs these are.
* `Bugs.merge_orderedUnion` is the result for all bugs.
-/

namespace JobLog.Bugs

variable {known known' : Nat → Bool} {l m : List Bug} {bug : Bug} {id : Nat}

/-! ### New bugs -/

/-- One of the bugs has the id. -/
def anyId (l : List Bug) (id : Nat) : Bool := l.any (·.id == id)

/-- The bugs whose ids are not known, the first one of each id. -/
def firstNew (known : Nat → Bool) : List Bug → List Bug
  | [] => []
  | bug :: l =>
    if known bug.id then firstNew known l
    else bug :: firstNew (fun id => known id || bug.id == id) l

theorem anyId_append (l m : List Bug) (id : Nat) :
    anyId (l ++ m) id = (anyId l id || anyId m id) := List.any_append

theorem anyId_iff : anyId l id = true ↔ id ∈ l.map Bug.id := by simp [anyId]

theorem firstNew_of_known (h : known bug.id = true) :
    firstNew known (bug :: l) = firstNew known l := if_pos h

theorem firstNew_of_new (h : ¬ known bug.id = true) :
    firstNew known (bug :: l) = bug :: firstNew (fun id => known id || bug.id == id) l := if_neg h

/-- An id that is known adds nothing to what is known. -/
theorem known_or_beq (h : known bug.id = true) (id : Nat) :
    (known id || bug.id == id) = known id := by
  by_cases hid : bug.id = id
  · rw [← hid, h, Bool.true_or]
  · rw [beq_false_of_ne hid, Bool.or_false]

/-- Only the ids of the bugs matter. -/
theorem firstNew_congr (h : ∀ bug ∈ l, known bug.id = known' bug.id) :
    firstNew known l = firstNew known' l := by
  induction l generalizing known known' with
  | nil => rfl
  | cons bug l ih =>
    have hbug := h bug List.mem_cons_self
    have hl : ∀ b ∈ l, known b.id = known' b.id := fun b hb => h b (List.mem_cons_of_mem bug hb)
    by_cases hknown : known bug.id = true
    · rw [firstNew_of_known hknown, firstNew_of_known (hbug ▸ hknown), ih hl]
    · rw [firstNew_of_new hknown, firstNew_of_new (hbug ▸ hknown)]
      exact congrArg (bug :: ·) (ih fun b hb => by rw [hl b hb])

/-- Behind other bugs their ids are known as well. -/
theorem firstNew_append (known : Nat → Bool) (l m : List Bug) :
    firstNew known (l ++ m) =
      firstNew known l ++ firstNew (fun id => known id || anyId l id) m := by
  induction l generalizing known with
  | nil => simp [firstNew, anyId]
  | cons bug l ih =>
    have hany : ∀ id, anyId (bug :: l) id = (bug.id == id || anyId l id) := fun _ => rfl
    rw [List.cons_append]
    simp only [hany, ← Bool.or_assoc]
    by_cases hknown : known bug.id = true
    · rw [firstNew_of_known hknown, firstNew_of_known hknown, ih]
      simp only [known_or_beq hknown]
    · rw [firstNew_of_new hknown, firstNew_of_new hknown, ih, List.cons_append]

/-- New among new bugs are those that both do not know. -/
theorem firstNew_firstNew (known known' : Nat → Bool) (l : List Bug) :
    firstNew known (firstNew known' l) = firstNew (fun id => known id || known' id) l := by
  induction l generalizing known known' with
  | nil => rfl
  | cons bug l ih =>
    by_cases hknown' : known' bug.id = true
    · rw [firstNew_of_known hknown', firstNew_of_known (Bool.or_eq_true_iff.2 (.inr hknown')), ih]
    rw [firstNew_of_new hknown']
    by_cases hknown : known bug.id = true
    · rw [firstNew_of_known hknown, firstNew_of_known (Bool.or_eq_true_iff.2 (.inl hknown)), ih]
      exact firstNew_congr fun b _ => by
        rw [← Bool.or_assoc, Bool.or_right_comm, known_or_beq hknown]
    · rw [firstNew_of_new hknown, firstNew_of_new (by simp [hknown, hknown']), ih]
      refine congrArg (bug :: ·) (firstNew_congr fun b _ => ?_)
      rw [← Bool.or_assoc, Bool.or_right_comm (known _), Bool.or_assoc, Bool.or_self]

theorem mem_firstNew :
    bug ∈ firstNew known l ↔ known bug.id = false ∧ l.find? (·.id = bug.id) = some bug := by
  induction l generalizing known with
  | nil => simp [firstNew]
  | cons b l ih =>
    rw [List.find?_cons]
    by_cases hknown : known b.id = true
    · rw [firstNew_of_known hknown, ih]
      by_cases hid : b.id = bug.id
      · simp [← hid, hknown]
      · simp [hid]
    · rw [firstNew_of_new hknown, List.mem_cons, ih]
      by_cases hid : b.id = bug.id
      · simp [hid, eq_comm (a := bug) (b := b), hid ▸ hknown]
      · have hne : bug ≠ b := fun heq => hid (congrArg Bug.id heq.symm)
        simp [hid, hne]

theorem mem_ids_firstNew :
    id ∈ (firstNew known l).map Bug.id ↔ known id = false ∧ id ∈ l.map Bug.id := by
  simp only [List.mem_map, mem_firstNew]
  constructor
  · rintro ⟨bug, ⟨hnew, hfind⟩, rfl⟩
    exact ⟨hnew, bug, List.mem_of_find?_eq_some hfind, rfl⟩
  · rintro ⟨hnew, b, hb, rfl⟩
    have hsome : (l.find? (·.id = b.id)).isSome = true :=
      List.find?_isSome.2 ⟨b, hb, decide_eq_true rfl⟩
    obtain ⟨bug, hfind⟩ := Option.isSome_iff_exists.1 hsome
    have hid : bug.id = b.id := by simpa using List.find?_some hfind
    exact ⟨bug, ⟨hid ▸ hnew, hid ▸ hfind⟩, hid⟩

theorem firstNew_sublist (known : Nat → Bool) (l : List Bug) : (firstNew known l).Sublist l := by
  induction l generalizing known with
  | nil => exact .slnil
  | cons bug l ih =>
    by_cases hknown : known bug.id = true
    · rw [firstNew_of_known hknown]
      exact (ih known).cons bug
    · rw [firstNew_of_new hknown]
      exact (ih _).cons_cons bug

theorem nodup_firstNew (known : Nat → Bool) (l : List Bug) :
    ((firstNew known l).map Bug.id).Nodup := by
  induction l generalizing known with
  | nil => exact .nil
  | cons bug l ih =>
    by_cases hknown : known bug.id = true
    · rw [firstNew_of_known hknown]
      exact ih known
    · rw [firstNew_of_new hknown, List.map_cons, List.nodup_cons]
      refine ⟨fun hmem => ?_, ih _⟩
      simpa using (mem_ids_firstNew.1 hmem).1

/-- New bugs make known what all bugs do. -/
theorem known_or_anyId_firstNew (known : Nat → Bool) (l : List Bug) (id : Nat) :
    (known id || anyId (firstNew known l) id) = (known id || anyId l id) := by
  rw [Bool.eq_iff_iff]
  simp only [Bool.or_eq_true, anyId_iff, mem_ids_firstNew]
  cases known id <;> simp

/-! ### What a merge adds -/

theorem hasId_eq (b : Bugs) (id : Nat) :
    b.hasId id = (anyId b.openRecent id || anyId b.allOthers id) := List.any_append

theorem hasId_append_open (recent l others : List Bug) (id : Nat) :
    hasId ⟨recent ++ l, others⟩ id = (hasId ⟨recent, others⟩ id || anyId l id) := by
  simp only [hasId, all, anyId, List.any_append, Bool.or_right_comm]

theorem hasId_append_others (recent others l : List Bug) (id : Nat) :
    hasId ⟨recent, others ++ l⟩ id = (hasId ⟨recent, others⟩ id || anyId l id) := by
  simp only [hasId, all, anyId, List.any_append, Bool.or_assoc]

/-- Adding each bug whose id is not there adds the new bugs, wherever bugs are put. -/
theorem foldl_unless_hasId {put : Bugs → Bug → Bugs}
    (hput : ∀ b bug id, (put b bug).hasId id = (b.hasId id || anyId [bug] id)) (b : Bugs)
    (l : List Bug) :
    l.foldl (fun b bug => if b.hasId bug.id then b else put b bug) b =
      (firstNew b.hasId l).foldl put b := by
  induction l generalizing b with
  | nil => rfl
  | cons bug l ih =>
    rw [List.foldl_cons]
    by_cases hknown : b.hasId bug.id = true
    · rw [if_pos hknown, ih, firstNew_of_known hknown]
    · rw [if_neg hknown, ih, firstNew_of_new hknown, List.foldl_cons]
      refine congrArg (List.foldl put _) (firstNew_congr fun x _ => ?_)
      rw [hput, anyId, List.any_cons, List.any_nil, Bool.or_false]

theorem foldl_addOpen (b : Bugs) (l : List Bug) :
    l.foldl addOpen b = ⟨b.openRecent ++ firstNew b.hasId l, b.allOthers⟩ := by
  have hput : ∀ (l : List Bug) (b : Bugs),
      l.foldl (fun b bug => ⟨b.openRecent ++ [bug], b.allOthers⟩) b =
        (⟨b.openRecent ++ l, b.allOthers⟩ : Bugs) := fun l => by
    induction l with
    | nil => simp
    | cons bug l ih => simp [ih]
  rw [← hput]
  exact foldl_unless_hasId (fun b bug => hasId_append_open b.openRecent [bug] b.allOthers) b l

theorem foldl_addOther (b : Bugs) (l : List Bug) :
    l.foldl addOther b = ⟨b.openRecent, b.allOthers ++ firstNew b.hasId l⟩ := by
  have hput : ∀ (l : List Bug) (b : Bugs),
      l.foldl (fun b bug => ⟨b.openRecent, b.allOthers ++ [bug]⟩) b =
        (⟨b.openRecent, b.allOthers ++ l⟩ : Bugs) := fun l => by
    induction l with
    | nil => simp
    | cons bug l ih => simp [ih]
  rw [← hput]
  exact foldl_unless_hasId (fun b bug => hasId_append_others b.openRecent b.allOthers [bug]) b l

/-- The open and recent bugs that a merge adds. -/
def newOpen (a b : Bugs) : List Bug := firstNew a.hasId b.openRecent

/-- The other bugs that a merge adds. -/
def newOthers (a b : Bugs) : List Bug :=
  firstNew (fun id => a.hasId id || anyId b.openRecent id) b.allOthers

/-- **Each list of a merge grows by its new bugs**, the open and recent ones first. -/
theorem merge_eq_new (a b : Bugs) :
    a.merge b = ⟨a.openRecent ++ newOpen a b, a.allOthers ++ newOthers a b⟩ := by
  rw [merge, foldl_addOpen, foldl_addOther]
  refine congrArg (fun l => (⟨_, a.allOthers ++ l⟩ : Bugs)) (firstNew_congr fun bug _ => ?_)
  rw [hasId_append_open, known_or_anyId_firstNew]

theorem hasId_merge (a b : Bugs) (id : Nat) :
    (a.merge b).hasId id = (a.hasId id || b.hasId id) := by
  rw [Bool.eq_iff_iff, Bool.or_eq_true, merge_eq_addAll, hasId_addAll, hasId_iff (b := b)]

/-! ### Laws -/

theorem merge_of_hasId {a b : Bugs} (h : ∀ id, b.hasId id = true → a.hasId id = true) :
    a.merge b = a := by
  rw [merge_eq_addAll]
  exact addAll_of_hasId fun x hx => h x.id (hasId_iff.2 ⟨x, hx, rfl⟩)

theorem newOpen_merge_right (a b c : Bugs) :
    newOpen a (b.merge c) = newOpen a b ++ newOpen (a.merge b) c := by
  rw [merge_eq_new b c, newOpen, firstNew_append, newOpen, newOpen, firstNew_firstNew, newOpen]
  refine congrArg (firstNew a.hasId b.openRecent ++ ·) (firstNew_congr fun bug _ => ?_)
  rw [hasId_merge, hasId_eq b, Bool.or_assoc, ← Bool.or_assoc (anyId _ _), Bool.or_self]

theorem newOthers_merge_right (a b c : Bugs) :
    newOthers a (b.merge c) = newOthers a b ++ newOthers (a.merge b) c := by
  have hkept : ∀ bug ∈ b.allOthers, anyId (newOpen b c) bug.id = false := fun bug hbug => by
    rw [← Bool.not_eq_true, anyId_iff, newOpen, mem_ids_firstNew, hasId_eq]
    simp [anyId_iff.2 (List.mem_map_of_mem hbug)]
  rw [merge_eq_new b c, newOthers, firstNew_append, newOthers, firstNew_firstNew, newOthers,
    newOthers]
  congr 1
  · refine firstNew_congr fun bug hbug => ?_
    rw [anyId_append, hkept bug hbug, Bool.or_false]
  · refine firstNew_congr fun bug _ => ?_
    have hnew := known_or_anyId_firstNew b.hasId c.openRecent bug.id
    rw [← newOpen, hasId_eq] at hnew
    rw [anyId_append, hasId_merge, hasId_eq b]
    grind

/-- **The grouping of answers does not count.** -/
theorem merge_assoc (a b c : Bugs) : (a.merge b).merge c = a.merge (b.merge c) := by
  rw [merge_eq_new (a.merge b) c, merge_eq_new a (b.merge c), newOpen_merge_right,
    newOthers_merge_right, merge_eq_new a b, ← List.append_assoc, ← List.append_assoc]

/-- `new` are the first bugs of the list of all ids that are wanted, in the order of the list. -/
structure FirstBugs (wanted : Nat → Prop) (l new : List Bug) : Prop where
  sublist : new.Sublist l
  nodup : (new.map Bug.id).Nodup
  mem_iff : ∀ bug, bug ∈ new ↔ wanted bug.id ∧ l.find? (·.id = bug.id) = some bug

theorem firstBugs_newOpen (a b : Bugs) :
    FirstBugs (· ∉ a.all.map Bug.id) b.openRecent (newOpen a b) where
  sublist := firstNew_sublist _ _
  nodup := nodup_firstNew _ _
  mem_iff bug := by rw [newOpen, mem_firstNew, mem_ids_iff, Bool.not_eq_true]

theorem firstBugs_newOthers (a b : Bugs) :
    FirstBugs (fun id => id ∉ a.all.map Bug.id ∧ id ∉ b.openRecent.map Bug.id) b.allOthers
      (newOthers a b) where
  sublist := firstNew_sublist _ _
  nodup := nodup_firstNew _ _
  mem_iff bug := by
    rw [newOthers, mem_firstNew, mem_ids_iff, ← anyId_iff, Bool.not_eq_true, Bool.not_eq_true,
      Bool.or_eq_false_iff]

/-- What is new among the other bugs is not among the open and recent ones. -/
theorem nodup_new (a b : Bugs) : ((newOpen a b ++ newOthers a b).map Bug.id).Nodup := by
  rw [List.map_append, List.nodup_append]
  refine ⟨nodup_firstNew _ _, nodup_firstNew _ _, ?_⟩
  rintro id hopen _ hothers rfl
  have hnot := (mem_ids_firstNew.1 hothers).1
  have hmem := anyId_iff.2 (mem_ids_firstNew.1 hopen).2
  simp [hmem] at hnot

/-- **Merging is an ordered union by id.** The grouping of answers does not count, and bugs that are
there, no bugs at all and an answer that was merged before change nothing. Both lists keep what they
had in front. Behind it stand the bugs of the other answer whose ids were not there, each id once:
those of its open and recent bugs in the first list and all others in the second, the first bug of
each id. So ids that differ stay so. -/
theorem merge_orderedUnion (a b c : Bugs) :
    (a.merge b).merge c = a.merge (b.merge c) ∧
    a.merge a = a ∧ a.merge .empty = a ∧ (a.merge b).merge b = a.merge b ∧
    (∃ new others, a.merge b = ⟨a.openRecent ++ new, a.allOthers ++ others⟩ ∧
      FirstBugs (· ∉ a.all.map Bug.id) b.openRecent new ∧
      FirstBugs (fun id => id ∉ a.all.map Bug.id ∧ id ∉ b.openRecent.map Bug.id) b.allOthers
        others ∧
      ((new ++ others).map Bug.id).Nodup) ∧
    (∀ id, id ∈ (a.merge b).all.map Bug.id ↔ id ∈ a.all.map Bug.id ∨ id ∈ b.all.map Bug.id) ∧
    ((a.all.map Bug.id).Nodup → ((a.merge b).all.map Bug.id).Nodup) := by
  refine ⟨merge_assoc a b c, merge_of_hasId fun _ h => h, merge_empty a, ?_, ?_, fun id => ?_, ?_⟩
  · exact merge_of_hasId fun id h => by rw [hasId_merge, h, Bool.or_true]
  · exact ⟨_, _, merge_eq_new a b, firstBugs_newOpen a b, firstBugs_newOthers a b, nodup_new a b⟩
  · simp only [mem_ids_iff, hasId_merge, Bool.or_eq_true]
  · rw [← map_id_listed, ← map_id_listed, merge_eq_addAll]
    exact nodup_addAll _

/-- Bugs that are known. -/
def knownBugs : Bugs := ⟨[⟨1, "crash", none, none, none⟩], [⟨2, "leak", none, none, none⟩]⟩

/-- An answer that repeats ids, known and new ones, in and across its lists. -/
def repeatedBugs : Bugs :=
  ⟨[⟨3, "hang", none, none, none⟩, ⟨2, "leak again", none, none, none⟩,
      ⟨3, "hang again", none, none, none⟩],
    [⟨3, "old hang", none, none, none⟩, ⟨4, "old", none, none, none⟩,
      ⟨1, "old crash", none, none, none⟩, ⟨4, "older", none, none, none⟩]⟩

/-- The ids of their merge differ as those of the known bugs do. -/
theorem merge_orderedUnion_repeated :
    (knownBugs.all.map Bug.id).Nodup ∧ ((knownBugs.merge repeatedBugs).all.map Bug.id).Nodup ∧
      knownBugs.merge repeatedBugs =
        ⟨[⟨1, "crash", none, none, none⟩, ⟨3, "hang", none, none, none⟩],
          [⟨2, "leak", none, none, none⟩, ⟨4, "old", none, none, none⟩]⟩ := by
  have hknown : (knownBugs.all.map Bug.id).Nodup := by decide
  exact ⟨hknown, (merge_orderedUnion knownBugs repeatedBugs .empty).2.2.2.2.2.2 hknown, rfl⟩

end JobLog.Bugs
