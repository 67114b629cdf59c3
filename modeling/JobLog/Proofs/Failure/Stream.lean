import JobLog.Proofs.Run.Cancellation
import Mathlib

/-!
# The cutoff of a failure stream

Behind the cutoff one record stands for all the others, and the source is not looked at any more:
the lines up to the one of that record settle the result.

* `FailureStream.records` are the records of a content, without a cutoff.
* `FailureStream.collectItems_lines` says what lines in front of other items come to.
* `FailureStream.read_cutoff` is the result for all sources and cutoffs.
-/

namespace JobLog.FailureStream

/-- The records that lines of text hold. Blank lines are left out. -/
def recordsOf (ls : List (String × Nat)) : List FailureLine :=
  (ls.filter fun l => !Text.allBlank l.1.toList).filterMap fun l => FailureLine.ofLine? l.1 l.2

/-- The records of a content, each read with the number of its line. -/
def records (bytes : List UInt8) : List FailureLine := recordsOf (textLinesOf bytes)

theorem recordsOf_cons (line : List UInt8) (number : Nat) (ls : List (String × Nat)) :
    recordsOf ((textOf line, number) :: ls) = (recordOf? line number).toList ++ recordsOf ls := by
  have htext : (textOf line).toList = Text.Utf8.decode line := String.toList_ofList
  have hrecord : recordOf? line number =
      if Text.allBlank (Text.Utf8.decode line) then none
      else FailureLine.ofLine? (textOf line) number := rfl
  rw [hrecord]
  by_cases hblank : Text.allBlank (Text.Utf8.decode line) = true
  · simp [recordsOf, htext, hblank]
  · cases hline : FailureLine.ofLine? (textOf line) number with
    | none => simp [recordsOf, htext, hblank, hline]
    | some r => simp [recordsOf, htext, hblank, hline]

/-- What lines come to, `found` being the records before them: where there are more records than the
cutoff, the rest of the items is not read. -/
theorem collectItems_lines {cutoff : Nat} {found : List FailureLine} (hfound : found.length ≤ cutoff)
    (n : Nat) (ls : List (List UInt8)) (items : List Item) :
    collectItems cutoff found (((ls.zipIdx n).map fun l => .line l.1 l.2) ++ items) =
      match (found ++ recordsOf ((ls.map textOf).zipIdx n))[cutoff]? with
      | some r =>
        .ok ((found ++ recordsOf ((ls.map textOf).zipIdx n)).take cutoff ++ [.truncated r.line])
      | none => collectItems cutoff (found ++ recordsOf ((ls.map textOf).zipIdx n)) items := by
  -- the records found so far do not exceed the cutoff as long as the lines are read
  induction ls generalizing found n with
  | nil =>
    have hnone : (found ++ recordsOf [])[cutoff]? = none := by
      simpa [recordsOf] using hfound
    simp only [List.map_nil, List.zipIdx_nil, hnone]
    simp [recordsOf]
  | cons l ls ih =>
    rw [List.map_cons, List.zipIdx_cons, List.zipIdx_cons, recordsOf_cons, List.map_cons,
      List.cons_append, collectItems]
    cases hrecord : recordOf? l n with
    | none => exact ih hfound (n + 1)
    | some r =>
      rw [Option.toList_some, List.singleton_append]
      by_cases hfull : found.length = cutoff
      · subst hfull
        simp
      · have hroom : (found ++ [r]).length ≤ cutoff := by
          rw [List.length_append, List.length_singleton]
          omega
        have hmore := ih hroom (n + 1)
        simp only [List.append_assoc, List.singleton_append] at hmore
        simpa only [if_neg hfull] using hmore

/-! ### Contents -/

/-- Without the last line feed behind it no line is open. -/
theorem textLinesOf_append_feed (start : List UInt8) :
    textLinesOf (start ++ [10]) =
      (((segmentsOf (start ++ [10])).map LineReader.withoutReturn).map textOf).zipIdx 1 := by
  rw [textLinesOf, linesOf, restOf_append_feed, if_pos rfl, List.append_nil]

/-- The records of a content that ends in order. -/
theorem collectItems_itemsOf (cutoff : Nat) (bytes : List UInt8) :
    collectItems cutoff [] (itemsOf bytes none) =
      match (records bytes)[cutoff]? with
      | some r => .ok ((records bytes).take cutoff ++ [.truncated r.line])
      | none => .ok (records bytes) := by
  have hlines := @collectItems_lines cutoff [] (Nat.zero_le cutoff) 1 (linesOf bytes) []
  rw [List.append_nil, List.nil_append] at hlines
  rw [itemsOf_none, hlines]
  rfl

/-- The records of a start that ends with a line feed, whatever comes behind it. -/
theorem collectItems_start {cutoff : Nat} {start bytes : List UInt8} {r : FailureLine}
    (hstart : start ++ [10] <+: bytes) (hr : (records (start ++ [10]))[cutoff]? = some r)
    (failure? : Option ReadError) :
    collectItems cutoff [] (itemsOf bytes failure?) =
      .ok ((records (start ++ [10])).take cutoff ++ [.truncated r.line]) := by
  obtain ⟨rest, rfl⟩ := hstart
  obtain ⟨items, hitems⟩ := itemsOf_append (start ++ [10]) rest failure?
  have hlines := @collectItems_lines cutoff [] (Nat.zero_le cutoff) 1
    ((segmentsOf (start ++ [10])).map LineReader.withoutReturn) items
  rw [List.nil_append, ← textLinesOf_append_feed, ← records, hr] at hlines
  rw [hitems, numbered_eq, hlines]

/-- A failure that comes before the cutoff is exceeded. -/
theorem collectItems_failure {cutoff : Nat} {bytes : List UInt8} (e : ReadError)
    (h : ∀ start, start ++ [10] <+: bytes → (records (start ++ [10])).length ≤ cutoff) :
    collectItems cutoff [] (itemsOf bytes (some e)) = .error (.ofRead e) := by
  have hlines := @collectItems_lines cutoff [] (Nat.zero_le cutoff) 1
    ((segmentsOf bytes).map LineReader.withoutReturn) [.failed e]
  have hfew : (recordsOf
      ((((segmentsOf bytes).map LineReader.withoutReturn).map textOf).zipIdx 1)).length ≤ cutoff := by
    rcases exists_closed bytes with hnone | ⟨start, hstart, hsegs⟩
    · simp [hnone, recordsOf]
    · have hle := h start hstart
      rwa [records, textLinesOf_append_feed, hsegs] at hle
  rw [List.nil_append, List.getElem?_eq_none hfew] at hlines
  rw [itemsOf_some, numbered_eq, hlines]
  rfl

/-! ### The law of the cutoff -/

/-- **A failure stream ends at its cutoff.** A source that ends in order gives all its records if
they are at most as many as the cutoff, and else the first ones and one that carries the line of the
next. What is delivered up to the line feed behind the line of that record settles the result: every
source that delivers it gives the same, whatever follows, be it a failure. A source that fails before
gives its failure. -/
theorem read_cutoff (cutoff : Nat) (s : Source) :
    (∀ bytes, s.delivered = (bytes, none) →
      ((records bytes).length ≤ cutoff → read cutoff false s.calm = .ok (records bytes)) ∧
      ∀ r, (records bytes)[cutoff]? = some r →
        read cutoff false s.calm = .ok ((records bytes).take cutoff ++ [.truncated r.line])) ∧
    (∀ start r, start ++ [10] <+: s.delivered.1 → (records (start ++ [10]))[cutoff]? = some r →
      read cutoff false s.calm =
          .ok ((records (start ++ [10])).take cutoff ++ [.truncated r.line]) ∧
        ∀ s' : Source, start ++ [10] <+: s'.delivered.1 →
          read cutoff false s'.calm = read cutoff false s.calm) ∧
    ∀ bytes e, s.delivered = (bytes, some e) →
      (∀ start, start ++ [10] <+: bytes → (records (start ++ [10])).length ≤ cutoff) →
        read cutoff false s.calm = .error (.ofRead e) := by
  refine ⟨fun bytes hbytes => ?_, fun start r hstart hr => ?_, fun bytes e hbytes hfew => ?_⟩
  · rw [read_calm, hbytes, collectItems_itemsOf]
    refine ⟨fun hle => ?_, fun r hr => ?_⟩
    · rw [List.getElem?_eq_none hle]
    · rw [hr]
  · refine ⟨?_, fun s' hs' => ?_⟩
    · rw [read_calm, collectItems_start hstart hr]
    · rw [read_calm, read_calm, collectItems_start hstart hr, collectItems_start hs' hr]
  · rw [read_calm, hbytes, collectItems_failure e hfew]

/-- A record that gives its own line. -/
def placedElsewhere : String := "\x7b\"action\":\"x\",\"line\":9\x7d"

theorem ofLine?_placedElsewhere :
    FailureLine.ofLine? placedElsewhere 2 = some ⟨9, .other [("action", .str "x")]⟩ := by
  cbv

/-- A blank line and this record. -/
def blankFirst : List UInt8 := Text.Utf8.encode (" \n".toList ++ placedElsewhere.toList)

theorem textLinesOf_blankFirst :
    textLinesOf (blankFirst ++ [10]) = [(" ", 1), (placedElsewhere, 2)] := by
  decide +kernel

theorem records_blankFirst :
    records (blankFirst ++ [10]) = [⟨9, .other [("action", .str "x")]⟩] := by
  have hfilter : ([(" ", 1), (placedElsewhere, 2)].filter fun l : String × Nat =>
      !Text.allBlank l.1.toList) = [(placedElsewhere, 2)] := by decide
  rw [records, textLinesOf_blankFirst, recordsOf, hfilter]
  simp only [List.filterMap_cons, ofLine?_placedElsewhere, List.filterMap_nil]

/-- The record is left out by a cutoff of zero, and a failure behind its line does not show; a cutoff
of one is not exceeded before the failure. -/
theorem read_cutoff_blankFirst :
    read 0 false [.data (blankFirst ++ [10]), .failed (.io .other)] = .ok [.truncated 9] ∧
      read 1 false [.data blankFirst, .data [10], .endOfInput] =
        .ok [⟨9, .other [("action", .str "x")]⟩] := by
  have hfailing := (read_cutoff 0 [.data (blankFirst ++ [10]), .failed (.io .other)]).2.1 blankFirst
    _ ⟨[], by simp [Source.delivered]⟩ (by rw [records_blankFirst]; rfl)
  have hending := ((read_cutoff 1 [.data blankFirst, .data [10], .endOfInput]).1 (blankFirst ++ [10])
    (by simp [Source.delivered])).1 (by simp [records_blankFirst])
  rw [records_blankFirst] at hfailing hending
  exact ⟨hfailing.1, hending⟩

end JobLog.FailureStream
