import JobLog.Proofs.Source.Cutter

/-!
# The line reader gives the lines of its source

The reader keeps a buffer that each read prolongs by a piece of any size, and looks for line feeds
only behind the part it has looked at. What carries the proof is that this part of the buffer holds
no line feed (`Clean`): then the items to come are those of cutting the buffer and the source behind
it byte by byte (`pending`), and each call of `next` gives the first of them and leaves the others.

* `next_pending` is this for one call, `deliveries_eq_pending` and `polls_eq_pending` for a run.
* `polls_start` gives the items of every source: they tell the bytes and how they end, and nothing
  of the sizes of reads and chunks, of the interruptions and of cancellations.
-/

namespace JobLog

open Source (cutFrom)

/-! ### One read -/

namespace Reader

/-- The deliveries behind an open line, as one read tells them. -/
theorem readFrom_cutFrom {size : Nat} (hsize : 0 < size) (k : Cutter) (cancelled : Bool)
    (s : Source) :
    match readFrom size cancelled s with
    | (.bytes [], r) => cutFrom k cancelled s = k.finish.map (⟨·, r.cancelled⟩)
    | (.bytes (b :: bs), r) =>
      cutFrom k cancelled s =
        (k.feed (b :: bs)).1.map (⟨·, r.cancelled⟩) ++
          cutFrom (k.feed (b :: bs)).2 r.cancelled r.source
    | (.interrupted, r) => cutFrom k cancelled s = cutFrom k r.cancelled r.source
    | (.failed e, r) => cutFrom k cancelled s = [⟨.failed e, r.cancelled⟩] := by
  fun_induction readFrom size cancelled s with
  | case1 | case2 | case3 | case4 => rfl
  | case5 cancelled s ih => exact ih
  | case6 cancelled bytes s hempty ih =>
    rw [List.isEmpty_iff] at hempty
    subst hempty
    exact ih
  | case7 cancelled bytes s hempty =>
    obtain ⟨b, bs, rfl⟩ := List.exists_cons_of_ne_nil (mt List.isEmpty_iff.2 hempty)
    obtain ⟨n, rfl⟩ := Nat.exists_eq_add_of_lt hsize
    rw [Nat.zero_add, List.take_succ_cons, List.drop_succ_cons]
    have hfeed := Cutter.feed_append k (b :: bs.take n) (bs.drop n)
    rw [List.cons_append, List.take_append_drop] at hfeed
    simp only [cutFrom, hfeed, List.map_append, List.append_assoc]

/-- The room is cut to the bytes kept there and the bytes read. -/
theorem take_room {kept : Nat} {room : List UInt8} (h : kept ≤ room.length) (bs : List UInt8) :
    (room.take kept ++ bs ++ room.drop (kept + bs.length)).take (kept + bs.length) =
      room.take kept ++ bs :=
  List.take_left' (by rw [List.length_append, List.length_take, Nat.min_eq_left h])

/-- The deliveries behind an open line, as reading until a read is not interrupted tells them. -/
theorem readInto_cutFrom (k : Cutter) {kept : Nat} {room : List UInt8} (hroom : kept < room.length)
    (r : Reader) :
    match readInto kept room r with
    | (.ok true, buffer, r') =>
      ∃ bs, buffer = room.take kept ++ bs ∧
        cutFrom k r.cancelled r.source =
          (k.feed bs).1.map (⟨·, r'.cancelled⟩) ++ cutFrom (k.feed bs).2 r'.cancelled r'.source
    | (.ok false, buffer, r') =>
      buffer = room.take kept ∧
        cutFrom k r.cancelled r.source = k.finish.map (⟨·, r'.cancelled⟩)
    | (.error e, buffer, r') =>
      buffer = room.take kept ∧ cutFrom k r.cancelled r.source = [⟨.failed e, r'.cancelled⟩] := by
  have hsize : 0 < room.length - kept := by omega
  fun_induction readInto kept room r with
  | case1 r bs r' h =>
    have hread := readFrom_cutFrom hsize k r.cancelled r.source
    rw [← read, h] at hread
    rw [take_room (by omega)]
    cases bs with
    | nil => exact ⟨List.append_nil _, hread⟩
    | cons b bs => exact ⟨b :: bs, rfl, hread⟩
  | case2 r r' h ih =>
    have hread := readFrom_cutFrom hsize k r.cancelled r.source
    rw [← read, h] at hread
    simp only at hread
    rw [hread]
    exact ih
  | case3 r e r' h =>
    have hread := readFrom_cutFrom hsize k r.cancelled r.source
    rw [← read, h] at hread
    exact ⟨rfl, hread⟩

end Reader

/-! ### The invariant -/

namespace LineReader

/-- The part of the buffer that was looked at holds no line feed. -/
def Clean (r : LineReader) : Prop := 10 ∉ r.buffer.take r.scanned

/-- The items to come, told without the buffer. -/
def pending (r : LineReader) : List Delivery :=
  if r.ended then []
  else
    (Cutter.feed ⟨[], r.count⟩ r.buffer).1.map (⟨·, r.reader.cancelled⟩) ++
      cutFrom (Cutter.feed ⟨[], r.count⟩ r.buffer).2 r.reader.cancelled r.reader.source

theorem clean_start (chunk : Nat) (cancelled : Bool) (s : Source) :
    (start chunk cancelled s).Clean := by
  simp [Clean, start]

theorem not_mem_of_find?_eq_none {r : LineReader} (hclean : r.Clean) (h : r.find? = none) :
    10 ∉ r.buffer := by
  rw [find?, Option.map_eq_none_iff, List.findIdx?_eq_none_iff] at h
  rw [← List.take_append_drop r.scanned r.buffer, List.mem_append, not_or]
  exact ⟨hclean, fun hmem => by simpa using h 10 hmem⟩

/-- A line feed that is found is the first one of the buffer. -/
theorem buffer_eq_of_find? {r : LineReader} (hclean : r.Clean) {place : Nat}
    (h : r.find? = some place) :
    10 ∉ r.buffer.take place ∧
      r.buffer = r.buffer.take place ++ 10 :: r.buffer.drop (place + 1) := by
  obtain ⟨i, hi, rfl⟩ := Option.map_eq_some_iff.1 h
  obtain ⟨hlt, hfeed, hbefore⟩ := List.findIdx?_eq_some_iff_getElem.1 hi
  constructor
  · rw [List.take_add, List.mem_append, not_or]
    refine ⟨hclean, fun hmem => ?_⟩
    obtain ⟨j, hj, heq⟩ := List.mem_take_iff_getElem.1 hmem
    exact hbefore j (by omega) (by simpa using heq)
  · rw [List.length_drop] at hlt
    have hplace : r.scanned + i < r.buffer.length := by omega
    have hget : r.buffer[r.scanned + i] = 10 := by simpa using hfeed
    rw [← hget, ← List.drop_eq_getElem_cons hplace, List.take_append_drop]

theorem fill_eq (r : LineReader) :
    r.fill =
      let read := r.reader.readInto r.buffer.length (r.buffer ++ List.replicate r.chunk 0)
      (read.1, { r with buffer := read.2.1, reader := read.2.2 }) := rfl

/-- The next chunk, told by the items to come behind a buffer without a line feed. -/
theorem fill_cutFrom (k : Cutter) (r : LineReader) :
    match r.fill with
    | (.ok true, r') =>
      ∃ bs, r' = { r with buffer := r.buffer ++ bs, reader := r'.reader } ∧
        cutFrom k r.reader.cancelled r.reader.source =
          (k.feed bs).1.map (⟨·, r'.reader.cancelled⟩) ++
            cutFrom (k.feed bs).2 r'.reader.cancelled r'.reader.source
    | (.ok false, r') =>
      r' = { r with reader := r'.reader } ∧
        cutFrom k r.reader.cancelled r.reader.source =
          k.finish.map (⟨·, r'.reader.cancelled⟩)
    | (.error e, r') =>
      r' = { r with reader := r'.reader } ∧
        cutFrom k r.reader.cancelled r.reader.source = [⟨.failed e, r'.reader.cancelled⟩] := by
  have hroom : r.buffer.length < (r.buffer ++ List.replicate r.chunk 0).length := by
    rw [List.length_append, List.length_replicate]
    exact Nat.lt_add_of_pos_right r.chunk_pos
  have hread := Reader.readInto_cutFrom k hroom r.reader
  rw [List.take_left' rfl] at hread
  rw [fill_eq]
  generalize Reader.readInto _ _ r.reader = read at hread ⊢
  obtain ⟨_ | _ | _, buffer, reader⟩ := read
  · obtain ⟨rfl, hcut⟩ := hread
    exact ⟨rfl, hcut⟩
  · obtain ⟨rfl, hcut⟩ := hread
    exact ⟨rfl, hcut⟩
  · obtain ⟨bs, rfl, hcut⟩ := hread
    exact ⟨bs, rfl, hcut⟩

/-- Without a line feed in the buffer all of it belongs to the open line. -/
theorem pending_of_not_mem {r : LineReader} (hopen : ¬r.ended = true) (h : 10 ∉ r.buffer) :
    r.pending = cutFrom ⟨r.buffer, r.count⟩ r.reader.cancelled r.reader.source := by
  rw [pending, if_neg hopen, Cutter.feed_of_not_mem _ h]
  rfl

/-- Behind such a buffer the bytes of the next chunk are fed to the open line. -/
theorem pending_append {r : LineReader} (hopen : ¬r.ended = true) (h : 10 ∉ r.buffer)
    (bs : List UInt8) (reader : Reader) :
    pending { r.looked with buffer := r.buffer ++ bs, reader } =
      (Cutter.feed ⟨r.buffer, r.count⟩ bs).1.map (⟨·, reader.cancelled⟩) ++
        cutFrom (Cutter.feed ⟨r.buffer, r.count⟩ bs).2 reader.cancelled reader.source := by
  have hfeed := Cutter.feed_append ⟨[], r.count⟩ r.buffer bs
  rw [Cutter.feed_of_not_mem _ h] at hfeed
  rw [pending, if_neg (by exact hopen)]
  simp [looked, hfeed]

/-- Where no line feed is left in the buffer, the items to come are those behind the next chunk, or
what the end or the failure makes of the open line. -/
theorem fill_pending {r : LineReader} (hopen : ¬r.ended = true) (h : 10 ∉ r.buffer) :
    match r.looked.fill with
    | (.ok true, r') => r'.Clean ∧ r.pending = r'.pending
    | (.ok false, r') =>
      r'.buffer = r.buffer ∧ r'.count = r.count ∧
        r.pending = (Cutter.finish ⟨r.buffer, r.count⟩).map (⟨·, r'.reader.cancelled⟩)
    | (.error e, r') => r'.Clean ∧ r.pending = [⟨.failed e, r'.reader.cancelled⟩] := by
  -- that all of the buffer was looked at is what keeps `Clean` for the longer buffer
  have hlooked : 10 ∉ r.buffer.take r.buffer.length := by rwa [List.take_length]
  have hcut := fill_cutFrom ⟨r.buffer, r.count⟩ r.looked
  rw [pending_of_not_mem hopen h]
  generalize r.looked.fill = filled at hcut ⊢
  rcases filled with ⟨e | goesOn, r'⟩
  · obtain ⟨hfilled, hcut⟩ := hcut
    refine ⟨?_, hcut⟩
    rw [hfilled]
    exact hlooked
  · cases goesOn with
    | false =>
      obtain ⟨hfilled, hcut⟩ := hcut
      refine ⟨?_, ?_, hcut⟩
      · rw [hfilled]
        rfl
      · rw [hfilled]
        rfl
    | true =>
      obtain ⟨bs, hfilled, hcut⟩ := hcut
      refine ⟨?_, ?_⟩
      · rw [hfilled]
        show 10 ∉ (r.buffer ++ bs).take r.buffer.length
        rwa [List.take_left' rfl]
      · rw [hfilled]
        exact hcut.trans (pending_append hopen h bs r'.reader).symm

/-- **A call gives the first of the items to come** and leaves the others, and the invariant holds
again; where there is none, the reader has ended. -/
theorem next_pending (r : LineReader) (hclean : r.Clean) :
    match r.next with
    | (none, r') => r.pending = [] ∧ r'.ended = true
    | (some item, r') =>
      r'.Clean ∧ r.pending = ⟨item, r'.reader.cancelled⟩ :: r'.pending := by
  -- the cases are the ways out of `next`; only the third one reads on
  fun_induction next r with
  | case1 r hended => exact ⟨by simp [pending, hended], hended⟩
  | case2 r hended place hplace item rest hsplit =>
    obtain ⟨hline, hbuffer⟩ := buffer_eq_of_find? hclean hplace
    have hfeed := Cutter.feed_line ⟨[], r.count⟩ (r.buffer.drop (place + 1)) hline
    rw [← hbuffer] at hfeed
    obtain ⟨rfl, rfl⟩ := Prod.mk.inj hsplit
    refine ⟨by simp [Clean], ?_⟩
    simp [pending, hended, hfeed, Cutter.item]
  | case3 r hended hplace filled hfill ih =>
    have hread := fill_pending hended (not_mem_of_find?_eq_none hclean hplace)
    rw [hfill] at hread
    obtain ⟨hclean', hpending⟩ := hread
    rw [hpending]
    exact ih hclean'
  | case4 r hended hplace filled hfill hempty =>
    have hread := fill_pending hended (not_mem_of_find?_eq_none hclean hplace)
    rw [hfill] at hread
    obtain ⟨hbuffer, -, hpending⟩ := hread
    rw [List.isEmpty_iff, hbuffer] at hempty
    refine ⟨?_, rfl⟩
    rw [hpending, Cutter.finish, if_pos hempty]
    rfl
  | case5 r hended hplace filled hfill hempty item rest hsplit =>
    have hread := fill_pending hended (not_mem_of_find?_eq_none hclean hplace)
    rw [hfill] at hread
    obtain ⟨hbuffer, hcount, hpending⟩ := hread
    rw [List.isEmpty_iff, hbuffer] at hempty
    obtain ⟨rfl, rfl⟩ := Prod.mk.inj hsplit
    refine ⟨by simp [Clean], ?_⟩
    rw [hpending, Cutter.finish, if_neg hempty]
    simp [Cutter.item, pending, stopped, hbuffer, hcount]
  | case6 r hended hplace e filled hfill =>
    have hread := fill_pending hended (not_mem_of_find?_eq_none hclean hplace)
    rw [hfill] at hread
    exact hread

/-! ### Runs -/

theorem deliveries_eq_pending (r : LineReader) (hclean : r.Clean) :
    r.deliveries = r.pending := by
  fun_induction deliveries r with
  | case1 r r' h =>
    have hnext := next_pending r hclean
    rw [h] at hnext
    exact hnext.1.symm
  | case2 r item r' h ih =>
    have hnext := next_pending r hclean
    rw [h] at hnext
    rw [ih hnext.1, hnext.2]

theorem next_of_ended {r : LineReader} (h : r.ended = true) : r.next = (none, r) := by
  rw [next, if_pos h]

theorem polls_of_ended (n : Nat) {r : LineReader} (h : r.ended = true) :
    r.polls n = List.replicate n none := by
  induction n with
  | zero => rfl
  | succ n ih => rw [polls, next_of_ended h, ih, List.replicate_succ]

/-- The items to come are given one by one, and behind them nothing more. -/
theorem polls_eq_pending (n : Nat) (r : LineReader) (hclean : r.Clean) :
    r.polls n = ((r.pending.map Delivery.item).map some ++ List.replicate n none).take n := by
  induction n generalizing r with
  | zero => rfl
  | succ n ih =>
    have hnext := next_pending r hclean
    rw [polls]
    generalize r.next = next at hnext ⊢
    obtain ⟨_ | item, r'⟩ := next
    · obtain ⟨hpending, hended⟩ := hnext
      rw [polls_of_ended n hended, hpending]
      simp [List.replicate_succ]
    · obtain ⟨hclean', hpending⟩ := hnext
      rw [ih r' hclean', hpending]
      have hle : n - (r'.pending.map Delivery.item).length ≤ n := Nat.sub_le _ _
      simp only [List.map_cons, List.cons_append, List.take_succ_cons, List.take_append,
        List.take_replicate, List.length_map] at hle ⊢
      rw [Nat.min_eq_left hle, Nat.min_eq_left (Nat.le_succ_of_le hle)]

theorem pending_start (chunk : Nat) (cancelled : Bool) (s : Source) :
    (start chunk cancelled s).pending = cutFrom ⟨[], 0⟩ cancelled s := rfl

/-- **The calls of `next` on every source.** The items that the delivered bytes and their end make,
which they do in one way, are given one by one, and then nothing more. So nothing tells in them of
the sizes of reads and chunks, of the interruptions and of cancellations. Finitely many calls make
finitely many reads, so a script tells all that they see. -/
theorem polls_start (s : Source) :
    ∃ items, (∀ items', Gives s.delivered.2 1 s.delivered.1 items' ↔ items' = items) ∧
      ∀ chunk cancelled n, (start chunk cancelled s).polls n =
        (items.map some ++ List.replicate n none).take n := by
  refine ⟨itemsOf s.delivered.1 s.delivered.2, fun _ => gives_iff, fun chunk cancelled n => ?_⟩
  rw [polls_eq_pending n _ (clean_start chunk cancelled s), pending_start,
    Source.item_cutFrom_start]

/-- A carriage return in another read than its line feed, and two of them in front of one. -/
def splitReads : Source := [.data [97, 13], .interrupted, .data [10, 98, 13, 13, 10, 99, 13]]

/-- The bytes behind the last line feed are a line at the end of the input, but not where the reads
fail. -/
theorem polls_start_splitReads :
    (start 1 false splitReads).polls 5 =
        [some (.line [97] 1), some (.line [98, 13] 2), some (.line [99] 3), none, none] ∧
      (start 4 false (splitReads ++ [.failed (.io .other), .data [10]])).polls 4 =
        [some (.line [97] 1), some (.line [98, 13] 2), some (.failed (.io .other)), none] := by
  have hlines : ∀ {failure? : Option ReadError} {items : List Item},
      Gives failure? 3 [99, 13] items →
        Gives failure? 1 [97, 13, 10, 98, 13, 13, 10, 99, 13]
          (.line [97] 1 :: .line [98, 13] 2 :: items) := fun h =>
    .line (by decide) (.returned [97]) (.line (by decide) (.returned [98, 13]) h)
  constructor
  · obtain ⟨items, hitems, hpolls⟩ := polls_start splitReads
    obtain rfl := (hitems _).1 (hlines (.last (by decide) (by decide) (.returned [99]) rfl))
    exact hpolls 1 false 5
  · obtain ⟨items, hitems, hpolls⟩ :=
      polls_start (splitReads ++ [.failed (.io .other), .data [10]])
    obtain rfl := (hitems _).1 (hlines (.failed (by decide) rfl))
    exact hpolls 4 false 4

end LineReader

/-- The deliveries of a source are those of cutting it byte by byte. -/
theorem Source.deliveries_eq_cutFrom (cancelled : Bool) (s : Source) :
    s.deliveries cancelled = cutFrom ⟨[], 0⟩ cancelled s :=
  LineReader.deliveries_eq_pending _ (LineReader.clean_start readerPiece cancelled s)

end JobLog
