import JobLog.Run

/-!
# Lines that are cut

A long line is cut to a start of it, unless it carries performance data.

* `carriesPerformance_iff` says when a line stays as it is.
* `LongestStart` is what is left of another line (`longestStart_cutLine`). There is one such start
  (`unique`), less than a character short of the limit (`max_le_add_three`), and the longest start
  of it is one of the text (`trans`).
* `cutLine_prefix` and `utf8ByteSize_cutLine_le` bound what is left, and
  `carriesPerformance_cutLine` says that a cut makes and removes no mark of performance data.
* `cutLine_longest_min` is the result for all lines and limits: which start is left, and that two
  cuts are one.
-/

namespace JobLog

theorem occursIn_iff {part s : List Char} : occursIn part s = true ↔ part <:+: s := by
  induction s with
  | nil => simp [occursIn]
  | cons c s ih => simp [occursIn, ih, List.infix_cons_iff]

theorem carriesPerformance_iff {line : List Char} :
    carriesPerformance line = true ↔ ∃ m ∈ performanceMarks, m.toList <:+: line := by
  simp only [carriesPerformance, List.any_eq_true, occursIn_iff]

theorem carriesPerformance_eq_false_iff {line : List Char} :
    carriesPerformance line = false ↔ ∀ m ∈ performanceMarks, ¬ m.toList <:+: line := by
  rw [← Bool.not_eq_true, carriesPerformance_iff]
  simp only [not_exists, not_and]

theorem utf8ByteSize_ofList_eq (cs : List Char) :
    (String.ofList cs).utf8ByteSize = Text.Utf8.byteLength cs := by
  induction cs with
  | nil => rfl
  | cons c cs ih =>
    rw [String.ofList_cons, String.utf8ByteSize_append, String.utf8ByteSize_singleton, ih,
      Text.Utf8.byteLength_cons]

theorem byteLength_toList (s : String) : Text.Utf8.byteLength s.toList = s.utf8ByteSize := by
  rw [← utf8ByteSize_ofList_eq, String.ofList_toList]

/-- A part of a text has no more bytes than the text. -/
theorem utf8ByteSize_mono {s t : String} (h : s.toList <:+: t.toList) :
    s.utf8ByteSize ≤ t.utf8ByteSize := by
  obtain ⟨u, v, h⟩ := h
  have ht : t = String.ofList u ++ s ++ String.ofList v := by
    rw [← String.toList_inj, ← h]
    simp
  rw [ht, String.utf8ByteSize_append, String.utf8ByteSize_append]
  omega

/-! ### Starts of a text -/

theorem exists_eq_append_of_prefix {s t : String} (h : s.toList <+: t.toList) :
    ∃ u, t = s ++ u := by
  obtain ⟨v, hv⟩ := h
  refine ⟨String.ofList v, ?_⟩
  rw [← String.toList_inj, String.toList_append, String.toList_ofList, hv]

/-- Of two starts of a text the one that has no more bytes is a start of the other. -/
theorem prefix_of_utf8ByteSize_le {s t text : String} (hs : s.toList <+: text.toList)
    (ht : t.toList <+: text.toList) (h : s.utf8ByteSize ≤ t.utf8ByteSize) :
    s.toList <+: t.toList := by
  rcases List.prefix_or_prefix_of_prefix hs ht with hst | hts
  · exact hst
  · obtain ⟨u, rfl⟩ := exists_eq_append_of_prefix hts
    rw [String.utf8ByteSize_append] at h
    have hempty : u = "" := String.utf8ByteSize_eq_zero_iff.1 (by omega)
    simp [hempty]

/-- The longest start of a text with at most `max` bytes: each start that has no more bytes is a
start of it. -/
structure LongestStart (max : Nat) (text start : String) : Prop where
  starts : start.toList <+: text.toList
  fits : start.utf8ByteSize ≤ max
  longest : ∀ s : String, s.toList <+: text.toList → s.utf8ByteSize ≤ max →
    s.toList <+: start.toList

namespace LongestStart

variable {max a b : Nat} {text start s t : String}

theorem of_le (h : text.utf8ByteSize ≤ max) : LongestStart max text text :=
  ⟨List.prefix_rfl, h, fun _ hs _ => hs⟩

theorem unique (hs : LongestStart max text s) (ht : LongestStart max text t) : s = t := by
  have hst : s.toList <+: t.toList := ht.longest s hs.starts hs.fits
  have hts : t.toList <+: s.toList := hs.longest t ht.starts ht.fits
  exact String.toList_inj.1 (hst.eq_of_length_le hts.length_le)

/-- The longest start of the longest start is the one for the smaller limit. -/
theorem trans (hs : LongestStart a text s) (ht : LongestStart b s t) :
    LongestStart (min a b) text t where
  starts := ht.starts.trans hs.starts
  fits := Nat.le_min.2
    ⟨Nat.le_trans (utf8ByteSize_mono ht.starts.isInfix) hs.fits, ht.fits⟩
  longest u hu hsize := by
    obtain ⟨ha, hb⟩ := Nat.le_min.1 hsize
    exact ht.longest u (hs.longest u hu ha) hb

/-- The character behind the longest start does not fit, and has at most four bytes. -/
theorem max_le_add_three (h : LongestStart max text start) (hlt : max < text.utf8ByteSize) :
    max ≤ start.utf8ByteSize + 3 := by
  obtain ⟨rest, hrest⟩ := h.starts
  cases rest with
  | nil =>
    rw [List.append_nil, String.toList_inj] at hrest
    exact absurd (hrest ▸ h.fits) (Nat.not_le_of_lt hlt)
  | cons c rest =>
    have hnext : (start ++ String.singleton c).toList <+: text.toList :=
      ⟨rest, by simpa using hrest⟩
    have hover : max < start.utf8ByteSize + c.utf8Size := by
      refine Nat.lt_of_not_le fun hle => ?_
      have hlonger : start.toList.length + 1 ≤ start.toList.length := by
        simpa using (h.longest _ hnext (by simpa using hle)).length_le
      exact Nat.not_succ_le_self _ hlonger
    have hfour := c.utf8Size_le_four
    omega

/-- What stands in front of the last position that is not behind a byte is the longest start. -/
theorem of_splits {rest : String} (h : (text.posLE ⟨max⟩).Splits start rest) :
    LongestStart max text start := by
  have happend : text.toList = start.toList ++ rest.toList :=
    (congrArg String.toList h.eq_append).trans String.toList_append
  have hstarts : start.toList <+: text.toList := ⟨_, happend.symm⟩
  refine ⟨hstarts, ?_, fun u hu hfits => prefix_of_utf8ByteSize_le hu hstarts ?_⟩
  · have hle : start.rawEndPos ≤ ⟨max⟩ := h.offset_eq_rawEndPos ▸ String.offset_posLE_le
    exact hle
  · -- a start ends at a position, and none that fits is behind the last one
    obtain ⟨w, htext⟩ := exists_eq_append_of_prefix hu
    have hvalid : u.rawEndPos.IsValid text :=
      String.Pos.Raw.isValid_iff_exists_append.2 ⟨u, w, htext, rfl⟩
    have hle : (⟨u.rawEndPos, hvalid⟩ : text.Pos) ≤ text.posLE ⟨max⟩ :=
      String.le_posLE_iff.2 hfits
    have hoffset : u.rawEndPos ≤ start.rawEndPos := h.offset_eq_rawEndPos ▸ hle
    exact hoffset

end LongestStart

/-! ### Cut lines -/

theorem cutLine_of_carriesPerformance {line : String} (h : carriesPerformance line.toList = true)
    (max : Nat) : cutLine max line = line := by
  unfold cutLine
  simp only [h, Bool.or_true, if_true]

theorem cutLine_of_le {max : Nat} {line : String} (h : line.utf8ByteSize ≤ max) :
    cutLine max line = line := by
  unfold cutLine
  simp only [byteLength_toList, h, decide_true, Bool.true_or, if_true]

/-- A long line is cut at the position that the search finds. -/
theorem splits_cutLine {max : Nat} {line : String} (hlt : max < line.utf8ByteSize)
    (h : carriesPerformance line.toList = false) :
    ∃ rest, (line.posLE ⟨max⟩).Splits (cutLine max line) rest := by
  have hlong : ¬ line.utf8ByteSize ≤ max := Nat.not_le_of_lt hlt
  have hcut : cutLine max line = (line.sliceTo (line.posLE ⟨max⟩)).copy := by
    unfold cutLine
    simp only [byteLength_toList, hlong, h, decide_false, Bool.or_false, Bool.false_eq_true,
      if_false, Text.Utf8.lastPos?_eq, Option.get_some]
  exact ⟨_, hcut ▸ (line.posLE ⟨max⟩).splits⟩

theorem longestStart_cutLine {max : Nat} {line : String}
    (h : carriesPerformance line.toList = false) : LongestStart max line (cutLine max line) := by
  rcases Nat.lt_or_ge max line.utf8ByteSize with hlt | hle
  · obtain ⟨rest, hsplits⟩ := splits_cutLine hlt h
    exact .of_splits hsplits
  · rw [cutLine_of_le hle]
    exact .of_le hle

theorem cutLine_prefix (max : Nat) (line : String) : (cutLine max line).toList <+: line.toList := by
  cases h : carriesPerformance line.toList with
  | true => simp [cutLine_of_carriesPerformance h]
  | false => exact (longestStart_cutLine h).starts

/-- A line fits into the limit when it is cut, unless it carries performance data. -/
theorem utf8ByteSize_cutLine_le {max : Nat} {line : String}
    (h : carriesPerformance line.toList = false) : (cutLine max line).utf8ByteSize ≤ max :=
  (longestStart_cutLine h).fits

/-- A cut makes and removes no mark of performance data. -/
theorem carriesPerformance_cutLine (max : Nat) (line : String) :
    carriesPerformance (cutLine max line).toList = carriesPerformance line.toList := by
  cases h : carriesPerformance line.toList with
  | true => rw [cutLine_of_carriesPerformance h, h]
  | false =>
    have hpart := List.IsPrefix.isInfix <| cutLine_prefix max line
    exact carriesPerformance_eq_false_iff.2 fun m hm hmark =>
      carriesPerformance_eq_false_iff.1 h m hm (hmark.trans hpart)

/-- Two cuts are one, to the smaller limit. -/
theorem cutLine_cutLine (a b : Nat) (line : String) :
    cutLine b (cutLine a line) = cutLine (min a b) line := by
  cases h : carriesPerformance line.toList with
  | true => rw [cutLine_of_carriesPerformance h, cutLine_of_carriesPerformance h,
      cutLine_of_carriesPerformance h]
  | false =>
    have hfirst : carriesPerformance (cutLine a line).toList = false := by
      rw [carriesPerformance_cutLine, h]
    exact ((longestStart_cutLine h).trans (longestStart_cutLine hfirst)).unique
      (longestStart_cutLine h)

/-- **A line is cut to its longest start that fits, and two cuts are one.** The search for the place
to cut at ends for every limit, 0 included, at the last position that is not behind it. A line that
fits or carries performance data stays as it is. Each other line is cut at the position that is
found: to its longest start with no more bytes than the limit, at most three bytes short of it. A
line that is cut twice is cut to the smaller limit, so a second cut to the same limit does
nothing. -/
theorem cutLine_longest_min (line : String) :
    (∀ max, ∃ p : line.Pos, Text.Utf8.lastPos? line max = some p ∧ p.offset.byteIdx ≤ max ∧
      ∀ q : line.Pos, q.offset.byteIdx ≤ max → q ≤ p) ∧
    (∀ max, line.utf8ByteSize ≤ max ∨ (∃ m ∈ performanceMarks, m.toList <:+: line.toList) →
      cutLine max line = line) ∧
    (∀ max, max < line.utf8ByteSize → (∀ m ∈ performanceMarks, ¬ m.toList <:+: line.toList) →
      (∃ p rest, Text.Utf8.lastPos? line max = some p ∧ p.Splits (cutLine max line) rest) ∧
      LongestStart max line (cutLine max line) ∧ max ≤ (cutLine max line).utf8ByteSize + 3) ∧
    (∀ a b, cutLine b (cutLine a line) = cutLine (min a b) line) ∧
    ∀ max, cutLine max (cutLine max line) = cutLine max line := by
  refine ⟨fun max => ?_, fun max h => ?_, fun max hlt hmarks => ?_, fun a b => ?_, fun max => ?_⟩
  · exact ⟨_, Text.Utf8.lastPos?_eq line max, String.offset_posLE_le,
      fun _ hq => String.le_posLE_iff.2 hq⟩
  · rcases h with hle | hmarks
    · exact cutLine_of_le hle
    · exact cutLine_of_carriesPerformance (carriesPerformance_iff.2 hmarks) max
  · have hcarries := carriesPerformance_eq_false_iff.2 hmarks
    obtain ⟨rest, hsplits⟩ := splits_cutLine hlt hcarries
    have hlongest : LongestStart max line (cutLine max line) := longestStart_cutLine hcarries
    exact ⟨⟨_, rest, Text.Utf8.lastPos?_eq line max, hsplits⟩, hlongest,
      hlongest.max_le_add_three hlt⟩
  · exact cutLine_cutLine a b line
  · rw [cutLine_cutLine, Nat.min_self]

/-- A line with characters of one, four and two bytes, of which four bytes hold only the first. -/
theorem cutLine_longest_min_wide :
    let line := "a𝒫é"
    (cutLine 4 line = "a" ∧ cutLine 0 line = "" ∧ cutLine 7 line = line) ∧
    LongestStart 4 line (cutLine 4 line) ∧ 4 ≤ (cutLine 4 line).utf8ByteSize + 3 := by
  intro line
  obtain ⟨-, hwhole, hcut, -, -⟩ := cutLine_longest_min line
  have hmarks : ∀ m ∈ performanceMarks, ¬ m.toList <:+: line.toList := by decide +kernel
  have hlt : 4 < line.utf8ByteSize := by decide +kernel
  exact ⟨⟨by decide +kernel, by decide +kernel, hwhole 7 (.inl (by decide +kernel))⟩,
    (hcut 4 hlt hmarks).2⟩

end JobLog
