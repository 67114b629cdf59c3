import JobLog.Proofs.Gzip.Content
import JobLog.Proofs.Run.Cancellation

/-!
# The size limit

A log is opened with a limit on its content. The limit either does not show at all, or it ends the
run with its own error: the bytes read before it was exceeded are never taken for a shorter log.

* `Source.HasContent` says what a source stands for, gzip or plain.
* `Run.overLimited_transparent` is the result for all sources and limits.
-/

namespace JobLog

/-- A source that ends normally and for good, and the content that its bytes stand for. -/
structure Source.HasContent (s : Source) (content : List UInt8) : Prop where
  calm : .cancel ∉ s
  endsForGood : s.EndsForGood
  ends : s.delivered.2 = none
  content : Source.contentOf? s.delivered.1 = some content

namespace Source.HasContent

variable {s : Source} {content : List UInt8}

theorem delivered (h : s.HasContent content) : s.delivered = (s.delivered.1, none) :=
  Prod.ext rfl h.ends

/-- The head that is peeked at are the first two bytes. -/
theorem head_peek (h : s.HasContent content) :
    (s.peek false []).map Peeked.head = .ok (s.delivered.1.take 2) := by
  obtain ⟨rest, hpeek, -⟩ := peek_eq [] (by simp) h.calm h.endsForGood h.delivered
  rw [hpeek, List.nil_append]
  rfl

/-- What is read of the source behind a limit. -/
theorem open?_eq (h : s.HasContent content) (limit : Nat) :
    ∃ opened : Source, s.open? limit = .ok ⟨false, opened⟩ ∧ opened.calm = opened ∧
      (content.length ≤ limit → opened.delivered = (content, none)) ∧
      (limit < content.length → ∃ start rest, content = start ++ rest ∧
        opened.delivered = (start, some (.overLimit limit))) := by
  obtain ⟨inner, hopen, hinner, hcalm⟩ :=
    Source.open?_eq limit h.calm h.endsForGood h.delivered h.content
  exact ⟨inner.limited limit, hopen, calm_of_not_mem (cancel_not_mem_limited hcalm limit 0),
    delivered_limited hinner, delivered_limited_over hinner⟩

end Source.HasContent

/-! ### Runs behind a limit -/

namespace Run

/-- The result of a run over a source that is opened with a limit. -/
def overLimited (r : Run) (limit : Nat) (s : Source) : Except RunError ParsedLog := do
  let o ← (s.open? limit).mapError .ofRead
  r.overSource o.cancelled o.source

/-- The end of a run is no failure of the limit. -/
theorem finish_ne_logSize (r : Run) (lastLine limit : Nat) :
    r.finish lastLine ≠ .error (.logSize limit) := by
  simp only [finish]
  split <;> simp

theorem overLimited_of_le (r : Run) {limit : Nat} {s : Source} {content : List UInt8}
    (h : s.HasContent content) (hle : content.length ≤ limit) :
    r.overLimited limit s = r.overSource false (.ofBytes content) := by
  obtain ⟨opened, hopen, hcalm, hwithin, -⟩ := h.open?_eq limit
  rw [overSource_ofBytes, overLimited, hopen]
  show r.overSource false opened = _
  rw [← hcalm, overSource_calm, hwithin hle]

theorem overLimited_of_lt (r : Run) {limit : Nat} {s : Source} {content : List UInt8}
    (h : s.HasContent content) (hlt : limit < content.length) :
    r.overLimited limit s = .error (.logSize limit) := by
  obtain ⟨opened, hopen, hcalm, -, hover⟩ := h.open?_eq limit
  obtain ⟨start, rest, -, hdelivered⟩ := hover hlt
  rw [overLimited, hopen]
  show r.overSource false opened = _
  rw [← hcalm, overSource_calm, hdelivered]
  rfl

end Run

/-! ### Failure streams behind a limit -/

namespace FailureStream

/-- The records of a source that is opened with a limit. -/
def readLimited (cutoff limit : Nat) (s : Source) : Except RunError (List FailureLine) := do
  let o ← (s.open? limit).mapError .ofRead
  read cutoff o.cancelled o.source

theorem read_ofBytes (cutoff : Nat) (bytes : List UInt8) :
    read cutoff false (.ofBytes bytes) = collectItems cutoff [] (itemsOf bytes none) := by
  rw [← Source.calm_ofBytes, read_calm, Source.delivered_ofBytes]

/-- A failure behind some lines gives its error, or it is never reached. -/
theorem collectItems_failed (cutoff : Nat) (found : List FailureLine) (n : Nat)
    (segs : List (List UInt8)) (e : ReadError) (items : List Item) :
    collectItems cutoff found (numbered n segs ++ [.failed e]) = .error (.ofRead e) ∨
      collectItems cutoff found (numbered n segs ++ [.failed e]) =
        collectItems cutoff found (numbered n segs ++ items) := by
  induction segs generalizing found n with
  | nil => exact .inl rfl
  | cons seg segs ih =>
    have hcons : numbered n (seg :: segs) =
        .line (LineReader.withoutReturn seg) n :: numbered (n + 1) segs := rfl
    simp only [hcons, List.cons_append, collectItems]
    cases recordOf? (LineReader.withoutReturn seg) n with
    | none => exact ih found (n + 1)
    | some r =>
      by_cases hfull : found.length = cutoff
      · simp [hfull]
      · simpa [hfull] using ih (found ++ [r]) (n + 1)

theorem readLimited_of_le (cutoff : Nat) {limit : Nat} {s : Source} {content : List UInt8}
    (h : s.HasContent content) (hle : content.length ≤ limit) :
    readLimited cutoff limit s = read cutoff false (.ofBytes content) := by
  obtain ⟨opened, hopen, hcalm, hwithin, -⟩ := h.open?_eq limit
  rw [read_ofBytes, readLimited, hopen]
  show read cutoff false opened = _
  rw [← hcalm, read_calm, hwithin hle]

/-- Over the limit the records are not given, or they are all found before it is exceeded. -/
theorem readLimited_of_lt (cutoff : Nat) {limit : Nat} {s : Source} {content : List UInt8}
    (h : s.HasContent content) (hlt : limit < content.length) :
    readLimited cutoff limit s = .error (.logSize limit) ∨
      readLimited cutoff limit s = read cutoff false (.ofBytes content) := by
  obtain ⟨opened, hopen, hcalm, -, hover⟩ := h.open?_eq limit
  obtain ⟨start, rest, rfl, hdelivered⟩ := hover hlt
  obtain ⟨items, hitems⟩ := itemsOf_append start rest none
  have hread : readLimited cutoff limit s =
      collectItems cutoff [] (numbered 1 (segmentsOf start) ++ [.failed (.overLimit limit)]) := by
    rw [readLimited, hopen]
    show read cutoff false opened = _
    rw [← hcalm, read_calm, hdelivered, itemsOf_some]
  rw [hread, read_ofBytes, hitems]
  exact collectItems_failed cutoff [] 1 (segmentsOf start) (.overLimit limit) items

end FailureStream

/-! ### The law of the limit -/

/-- **The limit does not show or is fatal.** Whether a source is a gzip file is settled by its first
two bytes, however they are read. A run over the source with a limit fails with the error of the
limit exactly where the content is longer; otherwise its result is the one of the content without
a limit. A failure stream gives the records of the content without a limit, or, where the content
is longer, the error of the limit. -/
theorem Run.overLimited_transparent (r : Run) (cutoff limit : Nat) {s : Source}
    {content : List UInt8} (h : s.HasContent content) :
    (s.peek false []).map Peeked.head = .ok (s.delivered.1.take 2) ∧
    (r.overLimited limit s = .error (.logSize limit) ↔ limit < content.length) ∧
    (content.length ≤ limit → r.overLimited limit s = r.overSource false (.ofBytes content)) ∧
    (content.length ≤ limit →
      FailureStream.readLimited cutoff limit s =
        FailureStream.read cutoff false (.ofBytes content)) ∧
    (limit < content.length →
      FailureStream.readLimited cutoff limit s = .error (.logSize limit) ∨
        FailureStream.readLimited cutoff limit s =
          FailureStream.read cutoff false (.ofBytes content)) := by
  refine ⟨h.head_peek, ⟨fun hsize => ?_, r.overLimited_of_lt h⟩, r.overLimited_of_le h,
    FailureStream.readLimited_of_le cutoff h, FailureStream.readLimited_of_lt cutoff h⟩
  refine Nat.lt_of_not_le fun hle => ?_
  rw [r.overLimited_of_le h hle, overSource_ofBytes] at hsize
  exact finish_ne_logSize _ _ limit hsize

/-- A gzip file of one stored block, read in pieces with an interruption inside its first two
bytes. -/
def Source.splitGzip : Source :=
  [.interrupted, .data [0x1f], .interrupted,
    .data [0x8b, 8, 0, 0, 0, 0, 0, 0, 255, 1, 3, 0, 252, 255, 104],
    .data [105, 10, 122, 122, 111, 237, 3, 0, 0, 0], .endOfInput]

/-- The three bytes of the file pass a limit of three and fail a limit of two. -/
theorem Run.overLimited_splitGzip :
    Source.splitGzip.HasContent [104, 105, 10] ∧
    Run.overLimited (.start "log" [] 500) 3 .splitGzip =
      Run.overSource (.start "log" [] 500) false (.ofBytes [104, 105, 10]) ∧
    Run.overLimited (.start "log" [] 500) 2 .splitGzip = .error (.logSize 2) := by
  have h : Source.splitGzip.HasContent [104, 105, 10] :=
    ⟨by decide, by simp [Source.splitGzip, Source.EndsForGood], rfl, by decide +kernel⟩
  exact ⟨h, (Run.overLimited_transparent _ 0 3 h).2.2.1 (by decide),
    (Run.overLimited_transparent _ 0 2 h).2.1.2 (by decide)⟩

end JobLog
