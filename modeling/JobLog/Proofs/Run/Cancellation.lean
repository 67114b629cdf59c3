import JobLog.Failure.Stream
import JobLog.Proofs.Source.Content
import JobLog.Run

/-!
# Cancelled runs

A run looks at its token before each line that it asks for, a failure stream behind each line that
it was given. Whatever the token shows at these points, the result is the one of a run that is
never cancelled, or that the run was cancelled: nothing of a partial run is given away.

* `Run.overItems` and `FailureStream.collectItems` are the results without a token.
* `Run.overItems_itemsOf` tells the result by the content of the source.
* `Run.overSource_allOrNothing` is the result for all sources and tokens.
-/

namespace JobLog

/-- The result of a run that may be cancelled, beside the one of a run that is not. -/
def AllOrNothing {α : Type} (uncancelled observed : Except RunError α) : Prop :=
  observed = .error .cancelled ∨ observed = uncancelled

/-- The items of a source, each with what the token shows behind it; `shows n` is what it shows
behind the `n`-th item. -/
def Source.watched (s : Source) (shows : Nat → Bool) : List Delivery :=
  ((itemsOf s.delivered.1 s.delivered.2).zipIdx 1).map fun x => ⟨x.1, shows x.2⟩

theorem Source.item_watched (s : Source) (shows : Nat → Bool) :
    (s.watched shows).map Delivery.item = itemsOf s.delivered.1 s.delivered.2 := by
  rw [watched, List.map_map]
  exact List.zipIdx_map_fst 1 _

/-! ### Runs -/

namespace Run

/-- The result of a run over items, `count` lines having gone before. -/
def overItems (r : Run) (count : Nat) : List Item → Except RunError ParsedLog
  | [] => r.finish count
  | .failed e :: _ => .error (.ofRead e)
  | .line bytes number :: is => (r.line (textOf bytes) number).overItems number is

/-- The result of a run over a content and the failure behind it, if one comes. -/
def overContent (r : Run) (bytes : List UInt8) : Option ReadError → Except RunError ParsedLog
  | some e => .error (.ofRead e)
  | none => (r.lines (textLinesOf bytes)).finish (linesOf bytes).length

/-- A token that is looked at before each item changes the result to a cancellation or not at
all. -/
theorem overDeliveries_allOrNothing (r : Run) (count : Nat) (cancelled : Bool)
    (ds : List Delivery) :
    AllOrNothing (r.overItems count (ds.map Delivery.item))
      (r.overDeliveries count cancelled ds) := by
  induction ds generalizing r count cancelled with
  | nil =>
    cases cancelled with
    | true => exact .inl rfl
    | false => exact .inr rfl
  | cons d ds ih =>
    obtain ⟨item, seen⟩ := d
    cases cancelled with
    | true => exact .inl rfl
    | false =>
      cases item with
      | failed e => exact .inr rfl
      | line bytes number => exact ih _ number seen

/-- A token that never shows a cancellation changes nothing. -/
theorem overDeliveries_false (r : Run) (count : Nat) (items : List Item) :
    r.overDeliveries count false (items.map (⟨·, false⟩)) = r.overItems count items := by
  induction items generalizing r count with
  | nil => rfl
  | cons item items ih =>
    cases item with
    | failed e => rfl
    | line bytes number => exact ih _ number

theorem overDeliveries_true (r : Run) (count : Nat) (ds : List Delivery) :
    r.overDeliveries count true ds = .error .cancelled := by
  cases ds <;> rfl

/-- The lines in front of other items are fed to the run. -/
theorem overItems_lines (r : Run) (count : Nat) (ls : List (List UInt8)) (items : List Item) :
    r.overItems count (((ls.zipIdx (count + 1)).map fun x => .line x.1 x.2) ++ items) =
      (r.lines ((ls.map textOf).zipIdx (count + 1))).overItems (count + ls.length) items := by
  induction ls generalizing r count with
  | nil => rfl
  | cons l ls ih =>
    have hrest := ih (r.line (textOf l) (count + 1)) (count + 1)
    rw [List.length_cons, ← Nat.add_assoc, Nat.add_right_comm]
    exact hrest

/-- The result over the items of a content. -/
theorem overItems_itemsOf (r : Run) (bytes : List UInt8) (failure? : Option ReadError) :
    r.overItems 0 (itemsOf bytes failure?) = r.overContent bytes failure? := by
  cases failure? with
  | none =>
    have hlines := overItems_lines r 0 (linesOf bytes) []
    rw [List.append_nil, Nat.zero_add, Nat.zero_add] at hlines
    rw [itemsOf_none, hlines]
    rfl
  | some e =>
    rw [itemsOf_some, numbered_eq]
    have hlines := overItems_lines r 0 ((segmentsOf bytes).map LineReader.withoutReturn) [.failed e]
    rw [Nat.zero_add] at hlines
    rw [hlines]
    rfl

/-- The result over a source when nothing is cancelled. -/
theorem overSource_calm (r : Run) (s : Source) :
    r.overSource false s.calm = r.overContent s.delivered.1 s.delivered.2 := by
  rw [overSource, Source.deliveries_calm, overDeliveries_false, overItems_itemsOf]

theorem overSource_ofBytes (r : Run) (bytes : List UInt8) :
    r.overSource false (.ofBytes bytes) = r.overContent bytes none := by
  rw [← Source.calm_ofBytes, overSource_calm, Source.delivered_ofBytes]

end Run

/-! ### Failure streams -/

namespace FailureStream

/-- The records of items behind those already found. -/
def collectItems (cutoff : Nat) (found : List FailureLine) :
    List Item → Except RunError (List FailureLine)
  | [] => .ok found
  | .failed e :: _ => .error (.ofRead e)
  | .line bytes number :: is =>
    match recordOf? bytes number with
    | none => collectItems cutoff found is
    | some r =>
      if found.length = cutoff then .ok (found ++ [.truncated r.line])
      else collectItems cutoff (found ++ [r]) is

/-- A token that is looked at behind each item changes the result to a cancellation or not at
all. -/
theorem collect_allOrNothing (cutoff : Nat) (found : List FailureLine) (ds : List Delivery) :
    AllOrNothing (collectItems cutoff found (ds.map Delivery.item)) (collect cutoff found ds) := by
  induction ds generalizing found with
  | nil => exact .inr rfl
  | cons d ds ih =>
    obtain ⟨item, seen⟩ := d
    cases seen with
    | true => exact .inl rfl
    | false =>
      cases item with
      | failed e => exact .inr rfl
      | line bytes number =>
        simp only [List.map_cons, collect, collectItems]
        cases recordOf? bytes number with
        | none => exact ih found
        | some r =>
          by_cases hfull : found.length = cutoff
          · simp [hfull, AllOrNothing]
          · simpa [hfull] using ih (found ++ [r])

/-- A token that never shows a cancellation changes nothing. -/
theorem collect_false (cutoff : Nat) (found : List FailureLine) (items : List Item) :
    collect cutoff found (items.map (⟨·, false⟩)) = collectItems cutoff found items := by
  induction items generalizing found with
  | nil => rfl
  | cons item items ih =>
    cases item with
    | failed e => rfl
    | line bytes number =>
      simp only [List.map_cons, collect, collectItems]
      cases recordOf? bytes number with
      | none => exact ih found
      | some r =>
        by_cases hfull : found.length = cutoff
        · simp [hfull]
        · simpa [hfull] using ih (found ++ [r])

/-- The records of a source when nothing is cancelled. -/
theorem read_calm (cutoff : Nat) (s : Source) :
    read cutoff false s.calm =
      collectItems cutoff [] (itemsOf s.delivered.1 s.delivered.2) := by
  rw [read, Source.deliveries_calm, collect_false]

end FailureStream

/-! ### The law of cancellation -/

/-- **A run gives all or nothing.** For every source and every token, whatever the token shows
when it is looked at between the lines and whenever a read cancels it: the result is a cancellation
or the result without one. Without one it is that of feeding the lines of the whole content and
finishing, or the failure that the source ends with. A token that was cancelled before gives a
cancellation for every source. The records of a failure stream obey the same law. -/
theorem Run.overSource_allOrNothing (r : Run) (cutoff : Nat) (s : Source) :
    (∀ shows : Nat → Bool,
      AllOrNothing (r.overSource false s.calm) (r.overDeliveries 0 (shows 0) (s.watched shows))) ∧
    (∀ cancelled, AllOrNothing (r.overSource false s.calm) (r.overSource cancelled s)) ∧
    r.overSource false s.calm =
      (match s.delivered with
        | (bytes, none) => (r.lines (textLinesOf bytes)).finish (linesOf bytes).length
        | (_, some e) => .error (.ofRead e)) ∧
    r.overSource true s = .error .cancelled ∧
    (∀ shows : Nat → Bool,
      AllOrNothing (FailureStream.read cutoff false s.calm)
        (FailureStream.collect cutoff [] (s.watched shows))) ∧
    ∀ cancelled,
      AllOrNothing (FailureStream.read cutoff false s.calm)
        (FailureStream.read cutoff cancelled s) := by
  rw [overSource_calm, FailureStream.read_calm]
  refine ⟨fun shows => ?_, fun cancelled => ?_, ?_, overDeliveries_true r 0 _, fun shows => ?_,
    fun cancelled => ?_⟩
  · rw [← overItems_itemsOf, ← s.item_watched shows]
    exact overDeliveries_allOrNothing r 0 _ _
  · rw [← overItems_itemsOf, ← s.item_deliveries cancelled]
    exact overDeliveries_allOrNothing r 0 _ _
  · cases s.delivered with
    | mk bytes failure? => cases failure? <;> rfl
  · rw [← s.item_watched shows]
    exact FailureStream.collect_allOrNothing cutoff [] _
  · rw [← s.item_deliveries cancelled]
    exact FailureStream.collect_allOrNothing cutoff [] _

end JobLog
