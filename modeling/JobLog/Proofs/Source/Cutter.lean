import JobLog.Source.Lines

/-!
# Cutting bytes at line feeds

The lines of a source, told without a buffer: every byte either ends the open line or belongs to
it, and a read goes on where the one before it stopped.

* `Cutter` is the open line; `Cutter.feed` gives the lines that some bytes end.
* `Source.cutFrom` feeds all that a source gives and tells when the run was cancelled.
* `Source.delivered` are the bytes up to the end of the input or the failure, and which it was.
* `itemsOf` are the lines of such bytes, by the parts between their line feeds; `item_cutFrom` says
  that nothing else of a source tells in its items.
* `Gives` tells the items of bytes without any reader, and `LineOf` the line of a segment;
  `gives_iff` says that the items are those.
-/

namespace JobLog

open LineReader (withoutReturn)

/-- The bytes of the open line and the number of lines before it. -/
structure Cutter where
  line : List UInt8
  count : Nat

namespace Cutter

/-- The open line as an item. -/
def item (k : Cutter) : Item := .line (withoutReturn k.line) (k.count + 1)

/-- The lines that these bytes end, and the open line behind them. -/
def feed (k : Cutter) : List UInt8 → List Item × Cutter
  | [] => ([], k)
  | b :: bytes =>
    if b = 10 then (k.item :: (feed ⟨[], k.count + 1⟩ bytes).1, (feed ⟨[], k.count + 1⟩ bytes).2)
    else feed ⟨k.line ++ [b], k.count⟩ bytes

/-- What the end of the input makes of the open line. -/
def finish (k : Cutter) : List Item := if k.line = [] then [] else [k.item]

theorem feed_append (k : Cutter) (as bs : List UInt8) :
    k.feed (as ++ bs) = ((k.feed as).1 ++ ((k.feed as).2.feed bs).1, ((k.feed as).2.feed bs).2) := by
  induction as generalizing k with
  | nil => simp [feed]
  | cons a as ih => by_cases ha : a = 10 <;> simp [feed, ha, ih]

/-- Bytes without a line feed only prolong the open line. -/
theorem feed_of_not_mem (k : Cutter) {bytes : List UInt8} (h : 10 ∉ bytes) :
    k.feed bytes = ([], ⟨k.line ++ bytes, k.count⟩) := by
  induction bytes generalizing k with
  | nil => simp [feed]
  | cons b bytes ih =>
    have hb : b ≠ 10 := fun hb => h (by simp [hb])
    have hbytes : 10 ∉ bytes := fun hm => h (by simp [hm])
    simp [feed, hb, ih _ hbytes]

/-- The first line feed ends the open line. -/
theorem feed_line (k : Cutter) {line : List UInt8} (rest : List UInt8) (h : 10 ∉ line) :
    k.feed (line ++ 10 :: rest) =
      ((⟨k.line ++ line, k.count⟩ : Cutter).item :: (feed ⟨[], k.count + 1⟩ rest).1,
        (feed ⟨[], k.count + 1⟩ rest).2) := by
  rw [feed_append, feed_of_not_mem k h]
  simp [feed]

end Cutter

/-! ### The parts between line feeds -/

/-- The parts of the bytes that a line feed ends. -/
def segmentsOf (bytes : List UInt8) : List (List UInt8) := (bytes.splitOn 10).dropLast

/-- The bytes behind the last line feed. -/
def restOf (bytes : List UInt8) : List UInt8 :=
  (bytes.splitOn 10).getLast (List.splitOn_ne_nil 10 bytes)

theorem exists_segments (bytes : List UInt8) :
    ∃ segs rest, segs.flatMap (· ++ [10]) ++ rest = bytes ∧ (∀ seg ∈ rest :: segs, 10 ∉ seg) := by
  induction bytes with
  | nil => exact ⟨[], [], by simp⟩
  | cons b bytes ih =>
    obtain ⟨segs, rest, hbytes, hclean⟩ := ih
    by_cases hb : b = 10
    · exact ⟨[] :: segs, rest, by simp [hb, hbytes], by simpa using hclean⟩
    · have hb' : (10 : UInt8) ≠ b := Ne.symm hb
      cases segs with
      | nil => exact ⟨[], b :: rest, by simpa using hbytes, by simpa [hb'] using hclean⟩
      | cons seg segs =>
        refine ⟨(b :: seg) :: segs, rest, by simpa using hbytes, ?_⟩
        simpa [hb'] using hclean

/-- Whatever parts without line feeds the bytes consist of, they are those that splitting gives. -/
theorem splitOn_segments {segs : List (List UInt8)} {rest : List UInt8}
    (hclean : ∀ seg ∈ rest :: segs, 10 ∉ seg) :
    (segs.flatMap (· ++ [10]) ++ rest).splitOn 10 = segs ++ [rest] := by
  induction segs with
  | nil => exact List.splitOn_eq_singleton (hclean rest (by simp))
  | cons seg segs ih =>
    have hseg : 10 ∉ seg := hclean seg (by simp)
    have hrest : ∀ seg ∈ rest :: segs, 10 ∉ seg := fun x hx =>
      hclean x (by rcases List.mem_cons.1 hx with rfl | hx <;> simp [*])
    have hsplit := List.splitOn_append_cons_self_of_not_mem hseg (segs.flatMap (· ++ [10]) ++ rest)
    rw [ih hrest] at hsplit
    simpa using hsplit

theorem segmentsOf_eq {segs : List (List UInt8)} {rest : List UInt8}
    (hclean : ∀ seg ∈ rest :: segs, 10 ∉ seg) :
    segmentsOf (segs.flatMap (· ++ [10]) ++ rest) = segs := by
  simp [segmentsOf, splitOn_segments hclean]

theorem restOf_eq {segs : List (List UInt8)} {rest : List UInt8}
    (hclean : ∀ seg ∈ rest :: segs, 10 ∉ seg) :
    restOf (segs.flatMap (· ++ [10]) ++ rest) = rest := by
  simp [restOf, splitOn_segments hclean]

/-- The segments, each with its line feed, and the rest are the bytes. -/
theorem flatMap_segmentsOf (bytes : List UInt8) :
    (segmentsOf bytes).flatMap (· ++ [10]) ++ restOf bytes = bytes := by
  obtain ⟨segs, rest, rfl, hclean⟩ := exists_segments bytes
  rw [segmentsOf_eq hclean, restOf_eq hclean]

theorem not_mem_segmentsOf (bytes : List UInt8) :
    ∀ seg ∈ restOf bytes :: segmentsOf bytes, 10 ∉ seg := by
  obtain ⟨segs, rest, rfl, hclean⟩ := exists_segments bytes
  rwa [segmentsOf_eq hclean, restOf_eq hclean]

/-- The segments as lines with their numbers, the first one having the number `n`. -/
def numbered (n : Nat) (segs : List (List UInt8)) : List Item :=
  (segs.zipIdx n).map fun x => .line (withoutReturn x.1) x.2

/-- The items that bytes make, by whether a failure came behind them. -/
def itemsOf (bytes : List UInt8) (failure? : Option ReadError) : List Item :=
  numbered 1 (segmentsOf bytes) ++
    match failure? with
    | some e => [.failed e]
    | none =>
      if restOf bytes = [] then []
      else [.line (withoutReturn (restOf bytes)) ((segmentsOf bytes).length + 1)]

theorem feed_segments (n : Nat) {segs : List (List UInt8)} {rest : List UInt8}
    (hclean : ∀ seg ∈ rest :: segs, 10 ∉ seg) :
    Cutter.feed ⟨[], n⟩ (segs.flatMap (· ++ [10]) ++ rest) =
      (numbered (n + 1) segs, ⟨rest, n + segs.length⟩) := by
  induction segs generalizing n with
  | nil => simpa [numbered] using Cutter.feed_of_not_mem ⟨[], n⟩ (hclean rest (by simp))
  | cons seg segs ih =>
    have hseg : 10 ∉ seg := hclean seg (by simp)
    have hrest : ∀ seg ∈ rest :: segs, 10 ∉ seg := fun x hx =>
      hclean x (by rcases List.mem_cons.1 hx with rfl | hx <;> simp [*])
    have hline := Cutter.feed_line ⟨[], n⟩ (segs.flatMap (· ++ [10]) ++ rest) hseg
    rw [ih (n + 1) hrest] at hline
    simpa [numbered, Cutter.item, Nat.add_assoc, Nat.add_comm 1] using hline

/-- Feeding bytes gives the lines of their segments and leaves the rest open. -/
theorem feed_eq (bytes : List UInt8) :
    Cutter.feed ⟨[], 0⟩ bytes =
      (numbered 1 (segmentsOf bytes), ⟨restOf bytes, (segmentsOf bytes).length⟩) := by
  have h := feed_segments 0 (not_mem_segmentsOf bytes)
  rwa [flatMap_segmentsOf, Nat.zero_add, Nat.zero_add] at h

/-- The lines of a start of the bytes, as far as line feeds end them, come first. -/
theorem itemsOf_append (start rest : List UInt8) (failure? : Option ReadError) :
    ∃ items, itemsOf (start ++ rest) failure? = numbered 1 (segmentsOf start) ++ items := by
  have hfeed := Cutter.feed_append ⟨[], 0⟩ start rest
  rw [feed_eq, feed_eq] at hfeed
  unfold itemsOf
  rw [(Prod.mk.inj hfeed).1, List.append_assoc]
  exact ⟨_, rfl⟩

theorem restOf_append_feed (start : List UInt8) : restOf (start ++ [10]) = [] := by
  obtain ⟨segs, rest, rfl, hclean⟩ := exists_segments start
  have hclosed : ∀ seg ∈ [] :: (segs ++ [rest]), 10 ∉ seg := fun seg hseg => by
    rcases List.mem_cons.1 hseg with rfl | hseg
    · simp
    · exact hclean seg (by simpa [or_comm] using hseg)
  have hrest := restOf_eq hclosed
  simpa using hrest

/-- The bytes up to the last line feed have the segments of all the bytes. -/
theorem exists_closed (bytes : List UInt8) :
    segmentsOf bytes = [] ∨
      ∃ start, start ++ [10] <+: bytes ∧ segmentsOf (start ++ [10]) = segmentsOf bytes := by
  obtain ⟨segs, rest, rfl, hclean⟩ := exists_segments bytes
  rw [segmentsOf_eq hclean]
  rcases segs.eq_nil_or_concat with rfl | ⟨front, last, rfl⟩
  · exact .inl rfl
  · refine .inr ⟨front.flatMap (· ++ [10]) ++ last, ⟨rest, by simp⟩, ?_⟩
    have hclosed : ∀ seg ∈ [] :: (front ++ [last]), 10 ∉ seg := fun seg hseg => by
      rcases List.mem_cons.1 hseg with rfl | hseg
      · simp
      · exact hclean seg (List.mem_cons_of_mem _ (by simpa using hseg))
    have hsegs := segmentsOf_eq hclosed
    simpa using hsegs

/-! ### Items without the reader -/

section

variable {seg rest line : List UInt8} {failure? : Option ReadError} {n : Nat} {items : List Item}

/-- The line that bytes up to a line feed make: one carriage return at their end is left out, and
nothing else. -/
inductive LineOf : List UInt8 → List UInt8 → Prop
  | returned (line : List UInt8) : LineOf (line ++ [13]) line
  | plain {seg : List UInt8} (h : ∀ line, seg ≠ line ++ [13]) : LineOf seg seg

theorem withoutReturn_append (line : List UInt8) : withoutReturn (line ++ [13]) = line := by
  simp [withoutReturn]

theorem withoutReturn_of_ne (h : ∀ line, seg ≠ line ++ [13]) : withoutReturn seg = seg := by
  refine if_neg fun hlast => ?_
  obtain ⟨front, rfl⟩ := List.getLast?_eq_some_iff.1 hlast
  exact h front rfl

theorem lineOf_withoutReturn (seg : List UInt8) : LineOf seg (withoutReturn seg) := by
  by_cases h : ∃ line, seg = line ++ [13]
  · obtain ⟨line, rfl⟩ := h
    rw [withoutReturn_append]
    exact .returned line
  · rw [not_exists] at h
    rw [withoutReturn_of_ne h]
    exact .plain h

theorem lineOf_iff : LineOf seg line ↔ line = withoutReturn seg := by
  constructor
  · rintro (⟨line⟩ | ⟨h⟩)
    · exact (withoutReturn_append line).symm
    · exact (withoutReturn_of_ne h).symm
  · rintro rfl
    exact lineOf_withoutReturn seg

/-- The items that bytes make from a number on. Each line feed ends a line; behind the last one a
failure comes in the place of the bytes that are left, or else they are one more line unless there
are none. -/
inductive Gives (failure? : Option ReadError) : Nat → List UInt8 → List Item → Prop
  | line {n : Nat} {seg rest line : List UInt8} {items : List Item} (hseg : 10 ∉ seg)
      (hline : LineOf seg line) (hrest : Gives failure? (n + 1) rest items) :
      Gives failure? n (seg ++ 10 :: rest) (.line line n :: items)
  | failed {n : Nat} {rest : List UInt8} {e : ReadError} (hrest : 10 ∉ rest)
      (hfailure : failure? = some e) : Gives failure? n rest [.failed e]
  | last {n : Nat} {rest line : List UInt8} (hrest : 10 ∉ rest) (hne : rest ≠ [])
      (hline : LineOf rest line) (hend : failure? = none) : Gives failure? n rest [.line line n]
  | ended {n : Nat} (hend : failure? = none) : Gives failure? n [] []

/-- The items behind the last line feed. -/
def lastItems (failure? : Option ReadError) (n : Nat) (rest : List UInt8) : List Item :=
  match failure? with
  | some e => [.failed e]
  | none => if rest = [] then [] else [.line (withoutReturn rest) n]

theorem itemsOf_segments {segs : List (List UInt8)} (hclean : ∀ seg ∈ rest :: segs, 10 ∉ seg) :
    itemsOf (segs.flatMap (· ++ [10]) ++ rest) failure? =
      numbered 1 segs ++ lastItems failure? (1 + segs.length) rest := by
  unfold itemsOf
  rw [segmentsOf_eq hclean, restOf_eq hclean, Nat.add_comm 1]
  rfl

theorem gives_lastItems (hrest : 10 ∉ rest) :
    Gives failure? n rest (lastItems failure? n rest) := by
  cases failure? with
  | some e => exact .failed hrest rfl
  | none =>
    rw [lastItems]
    split
    case isTrue hnil =>
      subst hnil
      exact .ended rfl
    case isFalse hne => exact .last hrest hne (lineOf_withoutReturn rest) rfl

theorem gives_segments {segs : List (List UInt8)} (hclean : ∀ seg ∈ rest :: segs, 10 ∉ seg) :
    Gives failure? n (segs.flatMap (· ++ [10]) ++ rest)
      (numbered n segs ++ lastItems failure? (n + segs.length) rest) := by
  induction segs generalizing n with
  | nil => exact gives_lastItems (hclean rest List.mem_cons_self)
  | cons seg segs ih =>
    have hsegs : ∀ x ∈ rest :: segs, 10 ∉ x := fun x hx =>
      hclean x (by rcases List.mem_cons.1 hx with rfl | hx <;> simp [*])
    have hrest := ih hsegs (n := n + 1)
    rw [Nat.add_assoc, Nat.add_comm 1] at hrest
    simpa [numbered] using
      Gives.line (hclean seg (by simp)) (lineOf_withoutReturn seg) hrest

theorem Gives.exists_segments {bytes : List UInt8} (h : Gives failure? n bytes items) :
    ∃ segs rest, bytes = segs.flatMap (· ++ [10]) ++ rest ∧ (∀ seg ∈ rest :: segs, 10 ∉ seg) ∧
      items = numbered n segs ++ lastItems failure? (n + segs.length) rest := by
  induction h with
  | @line n seg rest line items hseg hline _ ih =>
    obtain ⟨segs, rest, rfl, hclean, rfl⟩ := ih
    refine ⟨seg :: segs, rest, by simp, by simpa [hseg] using hclean, ?_⟩
    rw [lineOf_iff.1 hline, List.length_cons, ← Nat.add_right_comm, Nat.add_assoc n]
    rfl
  | @failed n rest e hrest hfailure =>
    exact ⟨[], rest, rfl, by simpa using hrest, by rw [hfailure]; rfl⟩
  | @last n rest line hrest hne hline hend =>
    refine ⟨[], rest, rfl, by simpa using hrest, ?_⟩
    rw [lineOf_iff.1 hline, hend, lastItems, if_neg hne]
    rfl
  | ended hend => exact ⟨[], [], rfl, by simp, by rw [hend]; rfl⟩

/-- Bytes make their items in one way. -/
theorem gives_iff {bytes : List UInt8} :
    Gives failure? 1 bytes items ↔ items = itemsOf bytes failure? := by
  constructor
  · intro h
    obtain ⟨segs, rest, rfl, hclean, rfl⟩ := h.exists_segments
    exact (itemsOf_segments hclean).symm
  · rintro rfl
    obtain ⟨segs, rest, rfl, hclean⟩ := exists_segments bytes
    rw [itemsOf_segments hclean]
    exact gives_segments hclean

end

/-! ### What a source gives -/

namespace Source

/-- The deliveries behind an open line. -/
def cutFrom (k : Cutter) (cancelled : Bool) : Source → List Delivery
  | [] => k.finish.map (⟨·, cancelled⟩)
  | .endOfInput :: _ => k.finish.map (⟨·, cancelled⟩)
  | .failed e _ :: _ => [⟨.failed e, cancelled⟩]
  | .cancel :: s => cutFrom k true s
  | .interrupted :: s => cutFrom k cancelled s
  | .data bytes :: s =>
    (k.feed bytes).1.map (⟨·, cancelled⟩) ++ cutFrom (k.feed bytes).2 cancelled s

/-- The bytes up to the end of the input or the first failure, and the failure if it came first. -/
def delivered : Source → List UInt8 × Option ReadError
  | [] => ([], none)
  | .endOfInput :: _ => ([], none)
  | .failed e _ :: _ => ([], some e)
  | .cancel :: s => delivered s
  | .interrupted :: s => delivered s
  | .data bytes :: s => (bytes ++ (delivered s).1, (delivered s).2)

/-- The items of a source are those of the bytes that it delivers, fed at once. -/
theorem item_cutFrom (k : Cutter) (cancelled : Bool) (s : Source) :
    (cutFrom k cancelled s).map Delivery.item =
      (k.feed s.delivered.1).1 ++
        match s.delivered.2 with
        | some e => [.failed e]
        | none => (k.feed s.delivered.1).2.finish := by
  fun_induction cutFrom k cancelled s with
  | case1 | case2 | case3 => simp [delivered, Cutter.feed, Function.comp_def]
  | case4 _ _ _ ih | case5 _ _ _ ih => exact ih
  | case6 k cancelled bytes s ih =>
    simp only [List.map_append, List.map_map, ih, delivered, Cutter.feed_append, List.append_assoc]
    simp [Function.comp_def]

theorem item_cutFrom_start (cancelled : Bool) (s : Source) :
    (cutFrom ⟨[], 0⟩ cancelled s).map Delivery.item = itemsOf s.delivered.1 s.delivered.2 := by
  rw [item_cutFrom, feed_eq]
  cases h : s.delivered.2 <;> rfl

end Source
end JobLog
