import JobLog.Proofs.Source.Limit

/-!
# The content of a gzip file

A gzip file is inflated piece by piece: the machine reads a compressed piece, what is inflated is
taken out of it, and a part of that may be held back until the next piece was read. For a file that
the machine comes to the end of, none of this shows: what is delivered is what the machine inflates
from the whole file at once.

* `Gunzip.inflated?` is the content of a whole file, `Source.contentOf?` that of any bytes.
* `Gunzip.feedAll_prepend` says that the machine does not look at what it has inflated.
* `Source.delivered_gunzip` is the result for all sources, `Source.open?_eq` the one for
  sources of either kind behind a limit.
-/

namespace JobLog.Gzip.Gunzip

/-- The content of a gzip file, if the machine comes to its end. -/
def inflated? (bytes : List UInt8) : Option (List UInt8) :=
  match (start.feedAll bytes).stage with
  | .boundary => some (start.feedAll bytes).fresh.toList
  | _ => none

/-- The machine with more inflated bytes in front of its own. -/
def prepend (g : Gunzip) (before : Array UInt8) : Gunzip := { g with fresh := before ++ g.fresh }

theorem taken_prepend_fresh (g : Gunzip) : g.taken.prepend g.fresh = g := by
  rw [prepend, taken, Array.append_empty]

theorem nextField_prepend (g : Gunzip) (before : Array UInt8) (fields : List Field) :
    (g.prepend before).nextField fields = (g.nextField fields).prepend before := by
  simp only [nextField, prepend]
  generalize fields.find? _ = field?
  rcases field? with _ | (_ | _ | _ | _) <;> rfl

theorem withFixed_prepend (g : Gunzip) (before : Array UInt8) :
    (g.prepend before).withFixed = g.withFixed.prepend before := by
  rw [withFixed, withFixed, apply_ite (prepend · before), nextField_prepend]
  rfl

theorem feedHeader_prepend (g : Gunzip) (before : Array UInt8) (b : UInt8) :
    (g.prepend before).feedHeader b = (g.feedHeader b).prepend before := by
  obtain ⟨stage, header, inflater, fresh⟩ := g
  have hnext (fields : List Field) :=
    nextField_prepend ⟨stage, header.push b, inflater, fresh⟩ before fields
  cases stage with
  | fixed =>
    have hfixed := withFixed_prepend ⟨.fixed, header.push b, inflater, fresh⟩ before
    simp only [feedHeader, apply_ite (prepend · before), ← hfixed]
    rfl
  | extraSize low? =>
    cases low? with
    | none => rfl
    | some low =>
      simp only [feedHeader, apply_ite (prepend · before), ← hnext]
      rfl
  | extra left =>
    simp only [feedHeader, apply_ite (prepend · before), ← hnext]
    rfl
  | text field length =>
    simp only [feedHeader, apply_ite (prepend · before), ← hnext]
    rfl
  | headerSum low? =>
    cases low? with
    | none => rfl
    | some low =>
      simp only [feedHeader, apply_ite (prepend · before)]
      rfl
  | body => rfl
  | trailer bytes => rfl
  | boundary => rfl
  | broken => rfl

theorem foldl_push_append (before fresh : Array UInt8) (byte : Nat → UInt8) (is : List Nat) :
    is.foldl (fun fresh i => fresh.push (byte i)) (before ++ fresh) =
      before ++ is.foldl (fun fresh i => fresh.push (byte i)) fresh := by
  induction is generalizing fresh with
  | nil => rfl
  | cons i is ih => rw [List.foldl_cons, List.foldl_cons, ← Array.append_push, ih]

/-- What is inflated by a byte goes behind what was inflated before, unless it is damaged. -/
theorem feedBody_prepend {g : Gunzip} {before : Array UInt8} {b : UInt8}
    (h : ((g.prepend before).feedBody b).stage ≠ .broken) :
    (g.prepend before).feedBody b = (g.feedBody b).prepend before := by
  obtain ⟨stage, header, inflater, fresh⟩ := g
  simp only [feedBody, prepend, foldl_push_append] at h ⊢
  generalize (inflater.feed b).phase = phase at h ⊢
  cases phase with
  | broken => exact absurd rfl h
  | _ => rfl

theorem withTrailer_prepend (g : Gunzip) (before : Array UInt8) (bytes : List UInt8) :
    (g.prepend before).withTrailer bytes = (g.withTrailer bytes).prepend before := by
  rw [withTrailer, withTrailer, apply_ite (prepend · before)]
  rfl

theorem feed_prepend {g : Gunzip} {before : Array UInt8} {b : UInt8}
    (h : ((g.prepend before).feed b).stage ≠ .broken) :
    (g.prepend before).feed b = (g.feed b).prepend before := by
  obtain ⟨stage, header, inflater, fresh⟩ := g
  cases stage with
  | body => exact feedBody_prepend h
  | trailer bytes =>
    simp only [feed, prepend] at h ⊢
    split
    · rfl
    · exact withTrailer_prepend ⟨.trailer bytes, header, inflater, fresh⟩ before _
  | boundary => exact feedHeader_prepend ⟨.fixed, header, inflater, fresh⟩ before b
  | broken => rfl
  | fixed => exact feedHeader_prepend ⟨.fixed, header, inflater, fresh⟩ before b
  | extraSize low? => exact feedHeader_prepend ⟨.extraSize low?, header, inflater, fresh⟩ before b
  | extra left => exact feedHeader_prepend ⟨.extra left, header, inflater, fresh⟩ before b
  | text field length =>
    exact feedHeader_prepend ⟨.text field length, header, inflater, fresh⟩ before b
  | headerSum low? => exact feedHeader_prepend ⟨.headerSum low?, header, inflater, fresh⟩ before b

/-- A broken machine stays as it is. -/
theorem feedAll_of_broken {g : Gunzip} (h : g.stage = .broken) (bytes : List UInt8) :
    g.feedAll bytes = g := by
  induction bytes with
  | nil => rfl
  | cons b bytes ih =>
    have hfeed : g.feed b = g := by rw [feed, h]
    rw [feedAll, List.foldl_cons, hfeed, ← feedAll, ih]

theorem feedAll_append (g : Gunzip) (as bs : List UInt8) :
    g.feedAll (as ++ bs) = (g.feedAll as).feedAll bs := List.foldl_append

/-- **The machine does not look at what it has inflated.** -/
theorem feedAll_prepend {g : Gunzip} {before : Array UInt8} (bytes : List UInt8)
    (h : ((g.prepend before).feedAll bytes).stage ≠ .broken) :
    (g.prepend before).feedAll bytes = (g.feedAll bytes).prepend before := by
  induction bytes generalizing g with
  | nil => rfl
  | cons b bytes ih =>
    have hstep : ((g.prepend before).feed b).stage ≠ .broken := by
      intro hbroken
      apply h
      rw [feedAll, List.foldl_cons, ← feedAll, feedAll_of_broken hbroken]
      exact hbroken
    have hfeed := feed_prepend hstep
    simp only [feedAll, List.foldl_cons, hfeed] at h ⊢
    exact ih h

end JobLog.Gzip.Gunzip

namespace JobLog.Source

open Gzip (Gunzip)
open Gzip.Gunzip (inflated? feedAll_of_broken feedAll_append feedAll_prepend taken_prepend_fresh)

/-- The content that bytes stand for: what a gzip file inflates to, other bytes as they are. -/
def contentOf? (bytes : List UInt8) : Option (List UInt8) :=
  if bytes.take 2 = gzipMagic then inflated? bytes else some bytes

/-! ### Inflating -/

theorem delivered_dataEvents_append (bytes : List UInt8) (s : Source) :
    delivered (dataEvents bytes ++ s) = (bytes ++ s.delivered.1, s.delivered.2) := by
  rw [dataEvents, delivered_data_append, flatten_pieces]

/-- What was held back is given first; what is inflated is given now or held back. -/
theorem inflated_eq (g : Gunzip) (held : List UInt8) :
    ∃ now, (inflated g held).1 = dataEvents held ++ dataEvents now ∧
      now ++ (inflated g held).2 = g.fresh.toList := by
  refine ⟨g.fresh.toList.take (g.fresh.toList.length - heldBack g), rfl, ?_⟩
  show _ ++ g.fresh.toList.drop (List.length _) = _
  rw [List.length_take_of_le (Nat.sub_le _ _), List.take_append_drop]

/-- The events behind a piece that the machine gets over. -/
theorem gunzipFrom_data {g : Gunzip} {piece : List UInt8} (held : List UInt8) (s : Source)
    (h : (g.feedAll piece).stage ≠ .broken) :
    gunzipFrom g held (.data piece :: s) =
      (inflated (g.feedAll piece) held).1 ++
        gunzipFrom (g.feedAll piece).taken (inflated (g.feedAll piece) held).2 s := by
  rw [gunzipFrom]
  split
  case h_1 hbroken => exact absurd hbroken h
  case h_2 => rfl

theorem delivered_ending {g : Gunzip} (held : List UInt8) (hstage : g.stage = .boundary) :
    delivered (dataEvents held ++ g.ending.toList) = (held, none) := by
  rw [delivered_dataEvents_append, Gunzip.ending, hstage]
  exact congrArg (·, none) (List.append_nil held)

/-- A source whose file the machine comes to the end of delivers what the machine inflates. -/
theorem delivered_gunzipFrom {g : Gunzip} {held bytes : List UInt8} {s : Source}
    (hfresh : g.fresh = #[]) (hbytes : s.delivered = (bytes, none))
    (hend : (g.feedAll bytes).stage = .boundary) :
    (gunzipFrom g held s).delivered = (held ++ (g.feedAll bytes).fresh.toList, none) := by
  induction s generalizing g held bytes with
  | nil =>
    obtain ⟨rfl, -⟩ := Prod.mk.inj hbytes
    show delivered (dataEvents held ++ g.ending.toList) = (held ++ g.fresh.toList, none)
    rw [delivered_ending (g := g) held hend, hfresh, List.append_nil]
  | cons e s ih =>
    cases e with
    | endOfInput =>
      obtain ⟨rfl, -⟩ := Prod.mk.inj hbytes
      show delivered (dataEvents held ++ g.ending.toList) = (held ++ g.fresh.toList, none)
      rw [delivered_ending (g := g) held hend, hfresh, List.append_nil]
    | failed e final => exact absurd hbytes (delivered_failed_ne e final s bytes)
    | interrupted => exact ih hfresh hbytes hend
    | cancel => exact ih hfresh hbytes hend
    | data piece =>
      obtain ⟨rest, rfl, hrest⟩ := delivered_of_data hbytes
      rw [feedAll_append] at hend
      have hlive : (g.feedAll piece).stage ≠ .broken := by
        intro hbroken
        rw [feedAll_of_broken hbroken, hbroken] at hend
        exact nomatch hend
      rw [gunzipFrom_data held s hlive, feedAll_append]
      generalize g.feedAll piece = g' at hend ⊢
      -- the machine goes on without what was inflated so far
      have hprepend := @feedAll_prepend g'.taken g'.fresh rest
      rw [taken_prepend_fresh] at hprepend
      have hrun := hprepend (by rw [hend]; nofun)
      have hend' : (g'.taken.feedAll rest).stage = .boundary := by
        rw [hrun] at hend
        exact hend
      obtain ⟨now, hevents, hnow⟩ := inflated_eq g' held
      have hbehind := @ih g'.taken (inflated g' held).2 rest rfl hrest hend'
      rw [hevents, List.append_assoc, delivered_dataEvents_append, delivered_dataEvents_append,
        hbehind, hrun, Gunzip.prepend, Array.toList_append, ← hnow]
      simp only [List.append_assoc]

/-- The inflated source delivers the content of the file, however the file is read. -/
theorem delivered_gunzip {s : Source} {bytes content : List UInt8}
    (hbytes : s.delivered = (bytes, none)) (hcontent : inflated? bytes = some content) :
    (gunzip s).delivered = (content, none) := by
  rw [inflated?] at hcontent
  split at hcontent
  case h_1 hend =>
    obtain rfl := Option.some.inj hcontent
    have hchop : (s.chop compressedPiece).delivered = (bytes, none) := by
      rw [delivered_chop, hbytes]
    exact delivered_gunzipFrom rfl hchop hend
  case h_2 => exact nomatch hcontent

theorem cancel_not_mem_dataEvents (bytes : List UInt8) : .cancel ∉ dataEvents bytes := by
  simp [dataEvents]

theorem cancel_not_mem_ending (g : Gunzip) : .cancel ∉ g.ending.toList := by
  rw [Gunzip.ending]
  split <;> simp

theorem cancel_not_mem_inflated (g : Gunzip) (held : List UInt8) :
    .cancel ∉ (inflated g held).1 := by
  obtain ⟨now, hevents, -⟩ := inflated_eq g held
  rw [hevents, List.mem_append, not_or]
  exact ⟨cancel_not_mem_dataEvents held, cancel_not_mem_dataEvents now⟩

theorem cancel_not_mem_gunzipFrom {s : Source} (h : .cancel ∉ s) (g : Gunzip) (held : List UInt8) :
    .cancel ∉ gunzipFrom g held s := by
  induction s generalizing g held with
  | nil =>
    rw [gunzipFrom, List.mem_append, not_or]
    exact ⟨cancel_not_mem_dataEvents held, cancel_not_mem_ending g⟩
  | cons e s ih =>
    obtain ⟨he, hs⟩ := not_or.1 (mt List.mem_cons.2 h)
    cases e with
    | endOfInput =>
      rw [gunzipFrom, List.mem_append, not_or]
      exact ⟨cancel_not_mem_dataEvents held, cancel_not_mem_ending g⟩
    | failed e final => simp [gunzipFrom]
    | interrupted => exact ih hs g held
    | cancel => exact absurd rfl he
    | data piece =>
      rw [gunzipFrom]
      split
      · rw [List.mem_append, not_or]
        exact ⟨cancel_not_mem_inflated _ held, by simp⟩
      · rw [List.mem_append, not_or]
        exact ⟨cancel_not_mem_inflated _ held, ih hs _ _⟩

/-! ### Opening -/

/-- The events of the header and those behind it are those of the source. -/
theorem splitHeader_append (g : Gunzip) (s : Source) :
    (splitHeader g s).1 ++ (splitHeader g s).2 = s := by
  fun_induction splitHeader g s with
  | case1 => rfl
  | case2 g bytes s g' hheader before behind hsplit ih =>
    rw [hsplit] at ih
    rw [List.cons_append, ih]
  | case3 g bytes s g' hheader => rfl
  | case4 g s before behind hsplit ih =>
    rw [hsplit] at ih
    rw [List.cons_append, ih]
  | case5 g s before behind hsplit ih =>
    rw [hsplit] at ih
    rw [List.cons_append, ih]
  | case6 g e s => rfl

/-- Where nothing is cancelled, opening a gzip file loses nothing of its header. -/
theorem openGzip_eq {p : Peeked} (h : .cancel ∉ Peeked.whole p) :
    openGzip p = ⟨p.cancelled, gunzip ((Peeked.whole p).chop compressedPiece)⟩ := by
  have happend := splitHeader_append .start ((Peeked.whole p).chop compressedPiece)
  have hheader : .cancel ∉ (splitHeader .start ((Peeked.whole p).chop compressedPiece)).1 := by
    intro hmem
    apply cancel_not_mem_chop h compressedPiece
    rw [← happend]
    exact List.mem_append_left _ hmem
  rw [openGzip]
  generalize splitHeader .start ((Peeked.whole p).chop compressedPiece) = parts at happend hheader ⊢
  obtain ⟨header, behind⟩ := parts
  have hfilter : header.filter (· ≠ .cancel) = header := calm_of_not_mem hheader
  simp only [hfilter, happend, List.contains_eq_mem, decide_eq_false hheader, Bool.or_false]

/-- **Opening a source** that ends gives one that delivers the content of its bytes, behind the
limit. -/
theorem open?_eq {s : Source} {bytes content : List UInt8} (limit : Nat) (hcancel : .cancel ∉ s)
    (hend : s.EndsForGood) (hbytes : s.delivered = (bytes, none))
    (hcontent : contentOf? bytes = some content) :
    ∃ inner : Source, s.open? limit = .ok ⟨false, inner.limited limit⟩ ∧
      inner.delivered = (content, none) ∧ .cancel ∉ inner := by
  obtain ⟨rest, hpeek, hrest, hbehind⟩ := peek_eq [] (by simp) hcancel hend hbytes
  rw [List.nil_append] at hpeek hbehind
  have hwhole : delivered (.data (bytes.take 2) :: rest) = (bytes, none) := by
    rw [delivered, hbehind, List.take_append_drop]
  have hcalm : .cancel ∉ Peeked.whole ⟨false, bytes.take 2, rest⟩ := by
    simpa [Peeked.whole] using hrest
  have hopen : s.open? limit = if bytes.take 2 = gzipMagic
      then .ok ⟨(openGzip ⟨false, bytes.take 2, rest⟩).cancelled,
        limited limit (openGzip ⟨false, bytes.take 2, rest⟩).source⟩
      else .ok ⟨false, limited limit
        ((Peeked.whole ⟨false, bytes.take 2, rest⟩).chop readerPiece)⟩ := by
    rw [open?, hpeek]
    rfl
  rw [contentOf?] at hcontent
  rw [hopen]
  split at hcontent
  case isTrue hmagic =>
    rw [if_pos hmagic, openGzip_eq hcalm]
    refine ⟨_, rfl, delivered_gunzip ?_ hcontent, ?_⟩
    · rw [delivered_chop]
      exact hwhole
    · exact cancel_not_mem_gunzipFrom (cancel_not_mem_chop (cancel_not_mem_chop hcalm _) _) _ _
  case isFalse hplain =>
    rw [if_neg hplain]
    obtain rfl := Option.some.inj hcontent
    refine ⟨_, rfl, ?_, cancel_not_mem_chop hcalm _⟩
    rw [delivered_chop]
    exact hwhole

end JobLog.Source
