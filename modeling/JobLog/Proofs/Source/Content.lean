import JobLog.Proofs.Source.LineReader
import JobLog.Text.Utf8

/-!
# The content of a source

What a run reads of a source: its bytes as lines of text, and how they end.

* `linesOf` are the lines of bytes, `textLinesOf` the same lines as text with their numbers.
* `Source.calm` is a source in a run that is never cancelled; its deliveries are the items of the
  bytes that the source delivers (`Source.deliveries_calm`).
* A cancellation changes no item of a source (`Source.item_deliveries`).
-/

namespace JobLog

open LineReader (withoutReturn)
open Source (cutFrom)

/-! ### Lines -/

/-- The lines of bytes: the parts that line feeds end, and the rest unless it is empty. -/
def linesOf (bytes : List UInt8) : List (List UInt8) :=
  (segmentsOf bytes ++ if restOf bytes = [] then [] else [restOf bytes]).map withoutReturn

/-- A line as text; what is not UTF-8 is replaced. -/
def textOf (line : List UInt8) : String := String.ofList (Text.Utf8.decode line)

/-- The lines of bytes as text, numbered from one. -/
def textLinesOf (bytes : List UInt8) : List (String × Nat) := ((linesOf bytes).map textOf).zipIdx 1

theorem numbered_eq (n : Nat) (segs : List (List UInt8)) :
    numbered n segs = ((segs.map withoutReturn).zipIdx n).map fun x => .line x.1 x.2 := by
  rw [numbered, List.zipIdx_map, List.map_map]
  rfl

theorem numbered_append (n : Nat) (as bs : List (List UInt8)) :
    numbered n (as ++ bs) = numbered n as ++ numbered (n + as.length) bs := by
  simp [numbered, List.zipIdx_append]

/-- Bytes that the input ends behind make their lines and nothing else. -/
theorem itemsOf_none (bytes : List UInt8) :
    itemsOf bytes none = ((linesOf bytes).zipIdx 1).map fun x => .line x.1 x.2 := by
  rw [linesOf, ← numbered_eq, numbered_append, itemsOf]
  by_cases hrest : restOf bytes = []
  · simp [hrest, numbered]
  · simp [hrest, numbered, Nat.add_comm 1]

/-- Bytes that a failure comes behind make the lines that line feeds end, and then the failure. -/
theorem itemsOf_some (bytes : List UInt8) (e : ReadError) :
    itemsOf bytes (some e) = numbered 1 (segmentsOf bytes) ++ [.failed e] := rfl

/-! ### Cancellations -/

namespace Source

/-- The same reads in a run that is never cancelled. -/
def calm (s : Source) : Source := s.filter (· ≠ .cancel)

theorem calm_of_not_mem {s : Source} (h : .cancel ∉ s) : s.calm = s := by
  rw [calm, List.filter_eq_self]
  intro e he
  have hne : e ≠ .cancel := fun heq => h (heq ▸ he)
  simpa using hne

@[simp] theorem calm_nil : calm [] = [] := rfl

@[simp] theorem calm_cancel (s : Source) : calm (.cancel :: s) = s.calm := rfl

theorem calm_cons {e : ReadEvent} (h : e ≠ .cancel) (s : Source) :
    calm (e :: s) = e :: s.calm := by
  rw [calm, List.filter_cons_of_pos (by simpa using h), calm]

@[simp] theorem delivered_calm (s : Source) : s.calm.delivered = s.delivered := by
  fun_induction delivered s with
  | case1 | case2 | case3 => rfl
  | case4 s ih => exact ih
  | case5 s ih => exact ih
  | case6 bytes s ih => rw [calm_cons (by simp), delivered, ih]

@[simp] theorem delivered_ofBytes (bytes : List UInt8) :
    (ofBytes bytes).delivered = (bytes, none) := by
  simp [ofBytes, delivered]

/-- The content of a source is what it delivers, unless it ends with a failure. -/
theorem content_eq (s : Source) :
    s.content = s.delivered.2.elim (.ok s.delivered.1) .error := by
  fun_induction delivered s with
  | case1 | case2 | case3 => rfl
  | case4 s ih => exact ih
  | case5 s ih => exact ih
  | case6 bytes s ih =>
    rw [content, ih]
    cases (delivered s).2 <;> rfl

theorem calm_ofBytes (bytes : List UInt8) : (ofBytes bytes).calm = ofBytes bytes := rfl

/-- A cancellation changes no item. -/
theorem item_deliveries (cancelled : Bool) (s : Source) :
    (s.deliveries cancelled).map Delivery.item = itemsOf s.delivered.1 s.delivered.2 := by
  rw [deliveries_eq_cutFrom, item_cutFrom_start]

/-- What was cancelled before stays so, and nothing else is. -/
theorem cancelled_cutFrom_calm (k : Cutter) (cancelled : Bool) (s : Source) :
    ∀ d ∈ cutFrom k cancelled s.calm, d.cancelled = cancelled := by
  induction s generalizing k with
  | nil => simp [cutFrom]
  | cons e s ih =>
    cases e with
    | cancel => exact ih k
    | interrupted =>
      rw [calm_cons (by simp), cutFrom]
      exact ih k
    | endOfInput => simp [calm_cons, cutFrom]
    | failed e final => simp [calm_cons, cutFrom]
    | data bytes =>
      rw [calm_cons (by simp), cutFrom]
      intro d hd
      rcases List.mem_append.1 hd with hd | hd
      · obtain ⟨item, -, rfl⟩ := List.mem_map.1 hd
        rfl
      · exact ih _ d hd

/-- The deliveries of a source when nothing is cancelled. -/
theorem deliveries_calm (s : Source) :
    s.calm.deliveries false = (itemsOf s.delivered.1 s.delivered.2).map (⟨·, false⟩) := by
  rw [← delivered_calm, ← item_deliveries false s.calm, List.map_map]
  refine (List.map_id _).symm.trans (List.map_congr_left fun d hd => ?_)
  rw [deliveries_eq_cutFrom] at hd
  have hflag := cancelled_cutFrom_calm ⟨[], 0⟩ false s d hd
  rw [id, Function.comp_apply, ← hflag]

end Source
end JobLog
