import JobLog.Proofs.Source.Content
import JobLog.Source.Open

/-!
# Layers of a source

An opened source is read in layers: the first bytes are peeked at and put back, the pieces are cut
to a buffer, and the limit counts what passes. Each layer is told by what it does to the bytes that
the source delivers and to how they end.

* `Source.delivered_chop` and `Source.peek_eq`: neither changes anything.
* `Source.delivered_limited` and `Source.delivered_limited_over`: a limit changes nothing, or it
  ends a proper start of the bytes with its failure.
-/

namespace JobLog.Source

/-- Once a read has given nothing, all later ones do. -/
def EndsForGood : Source → Prop
  | [] => True
  | .endOfInput :: s => ∀ e ∈ s, e = .endOfInput ∨ e = .data []
  | _ :: s => EndsForGood s

theorem delivered_of_silent {s : Source} (h : ∀ e ∈ s, e = .endOfInput ∨ e = .data []) :
    s.delivered = ([], none) := by
  induction s with
  | nil => rfl
  | cons e s ih =>
    obtain ⟨he, hs⟩ := List.forall_mem_cons.1 h
    rcases he with rfl | rfl
    · rfl
    · rw [delivered, ih hs, List.nil_append]

theorem delivered_data_append (pieces : List (List UInt8)) (s : Source) :
    delivered (pieces.map ReadEvent.data ++ s) =
      (pieces.flatten ++ s.delivered.1, s.delivered.2) := by
  induction pieces with
  | nil => rfl
  | cons piece pieces ih =>
    rw [List.map_cons, List.cons_append, delivered, ih, List.flatten_cons, List.append_assoc]

theorem delivered_of_data {piece bytes : List UInt8} {s : Source}
    (h : delivered (.data piece :: s) = (bytes, none)) :
    ∃ rest, bytes = piece ++ rest ∧ delivered s = (rest, none) := by
  obtain ⟨rfl, hend⟩ := Prod.mk.inj h
  exact ⟨_, rfl, Prod.ext rfl hend⟩

/-- A source that fails does not end normally. -/
theorem delivered_failed_ne (e : ReadError) (final : e.kind ≠ .interrupted) (s : Source)
    (bytes : List UInt8) : delivered (.failed e final :: s) ≠ (bytes, none) := by
  simp [delivered]

/-! ### Pieces -/

theorem flatten_piecesIn {size : Nat} (hsize : 0 < size) (fuel : Nat) (bytes : List UInt8)
    (hfuel : bytes.length ≤ fuel) : (piecesIn size fuel bytes).flatten = bytes := by
  induction fuel generalizing bytes with
  | zero =>
    rw [List.eq_nil_of_length_eq_zero (Nat.le_zero.1 hfuel)]
    rfl
  | succ fuel ih =>
    rw [piecesIn]
    split
    case isTrue hempty =>
      rw [List.isEmpty_iff.1 hempty]
      rfl
    case isFalse hempty =>
      have hpos : 0 < bytes.length := List.length_pos_iff.2 (mt List.isEmpty_iff.2 hempty)
      have hrest : (bytes.drop size).length ≤ fuel := by
        rw [List.length_drop]
        omega
      rw [List.flatten_cons, ih _ hrest, List.take_append_drop]

theorem flatten_pieces (size : Nat) (bytes : List UInt8) : (pieces size bytes).flatten = bytes :=
  flatten_piecesIn (by omega) bytes.length bytes (Nat.le_refl _)

/-- A buffer changes nothing of what is delivered. -/
@[simp] theorem delivered_chop (size : Nat) (s : Source) :
    (s.chop size).delivered = s.delivered := by
  induction s with
  | nil => rfl
  | cons e s ih =>
    rw [chop, List.flatMap_cons, ← chop]
    cases e with
    | data bytes => rw [delivered_data_append, ih, flatten_pieces, delivered]
    | interrupted => exact ih
    | cancel => exact ih
    | endOfInput => rfl
    | failed e final => rfl

theorem cancel_not_mem_chop {s : Source} (h : .cancel ∉ s) (size : Nat) :
    .cancel ∉ s.chop size := by
  intro hmem
  obtain ⟨e, he, hpiece⟩ := List.mem_flatMap.1 hmem
  cases e with
  | data bytes => simp at hpiece
  | cancel => exact h he
  | interrupted => simp at hpiece
  | endOfInput => simp at hpiece
  | failed e final => simp at hpiece

/-! ### The limit -/

/-- A content within the limit passes as it is. -/
theorem delivered_limitedFrom {limit count : Nat} {s : Source} {bytes : List UInt8}
    (h : s.delivered = (bytes, none)) (hle : count + bytes.length ≤ limit) :
    (limitedFrom limit count s).delivered = (bytes, none) := by
  induction s generalizing count bytes with
  | nil => exact h
  | cons e s ih =>
    cases e with
    | data piece =>
      obtain ⟨rest, rfl, hs⟩ := delivered_of_data h
      rw [List.length_append] at hle
      have hwithin : ¬ limit < count + piece.length := by omega
      rw [limitedFrom, if_neg hwithin, delivered, ih hs (by omega)]
    | interrupted => exact ih h hle
    | cancel => exact ih h hle
    | endOfInput => exact h
    | failed e final => exact absurd h (delivered_failed_ne e final s bytes)

/-- A content over the limit ends with the failure of the limit, behind a start of it. -/
theorem delivered_limitedFrom_over {limit count : Nat} {s : Source} {bytes : List UInt8}
    (h : s.delivered = (bytes, none)) (hcount : count ≤ limit)
    (hover : limit < count + bytes.length) :
    ∃ start rest, bytes = start ++ rest ∧
      (limitedFrom limit count s).delivered = (start, some (.overLimit limit)) := by
  induction s generalizing count bytes with
  | nil =>
    obtain ⟨rfl, -⟩ := Prod.mk.inj h
    simp only [List.length_nil] at hover
    omega
  | cons e s ih =>
    cases e with
    | data piece =>
      obtain ⟨behind, rfl, hs⟩ := delivered_of_data h
      rw [List.length_append] at hover
      by_cases hpiece : limit < count + piece.length
      · exact ⟨[], _, rfl, by rw [limitedFrom, if_pos hpiece]; rfl⟩
      · have hwithin : count + piece.length ≤ limit := by omega
        obtain ⟨start, rest, rfl, hlimited⟩ := ih hs hwithin (by omega)
        refine ⟨piece ++ start, rest, (List.append_assoc _ _ _).symm, ?_⟩
        rw [limitedFrom, if_neg hpiece, delivered, hlimited]
    | interrupted => exact ih h hcount hover
    | cancel => exact ih h hcount hover
    | endOfInput =>
      obtain ⟨rfl, -⟩ := Prod.mk.inj h
      simp only [List.length_nil] at hover
      omega
    | failed e final => exact absurd h (delivered_failed_ne e final s bytes)

theorem delivered_limited {limit : Nat} {s : Source} {bytes : List UInt8}
    (h : s.delivered = (bytes, none)) (hle : bytes.length ≤ limit) :
    (s.limited limit).delivered = (bytes, none) :=
  delivered_limitedFrom h (by omega)

theorem delivered_limited_over {limit : Nat} {s : Source} {bytes : List UInt8}
    (h : s.delivered = (bytes, none)) (hover : limit < bytes.length) :
    ∃ start rest, bytes = start ++ rest ∧
      (s.limited limit).delivered = (start, some (.overLimit limit)) :=
  delivered_limitedFrom_over h (Nat.zero_le _) (by omega)

theorem cancel_not_mem_limited {s : Source} (h : .cancel ∉ s) (limit count : Nat) :
    .cancel ∉ limitedFrom limit count s := by
  induction s generalizing count with
  | nil => exact h
  | cons e s ih =>
    obtain ⟨he, hs⟩ := not_or.1 (mt List.mem_cons.2 h)
    cases e with
    | data piece =>
      rw [limitedFrom]
      split
      · simp
      · simpa using ih hs _
    | interrupted => simpa [limitedFrom] using ih hs count
    | cancel => exact absurd rfl he
    | endOfInput => simpa [limitedFrom] using ih hs count
    | failed e final => simpa [limitedFrom] using ih hs count

/-! ### The first bytes -/

/-- The head holds the first two bytes, however they are read, and the rest delivers the others. -/
theorem peek_eq {s : Source} {bytes : List UInt8} (head : List UInt8) (hhead : head.length < 2)
    (hcancel : .cancel ∉ s) (hend : s.EndsForGood) (h : s.delivered = (bytes, none)) :
    ∃ rest, peek false head s = .ok ⟨false, (head ++ bytes).take 2, rest⟩ ∧ .cancel ∉ rest ∧
      rest.delivered = ((head ++ bytes).drop 2, none) := by
  induction s generalizing head bytes with
  | nil =>
    obtain ⟨rfl, -⟩ := Prod.mk.inj h
    refine ⟨[], ?_, hcancel, ?_⟩
    · rw [List.append_nil, List.take_of_length_le (Nat.le_of_lt hhead), peek]
    · rw [List.append_nil, List.drop_of_length_le (Nat.le_of_lt hhead), delivered]
  | cons e s ih =>
    obtain ⟨he, hs⟩ := not_or.1 (mt List.mem_cons.2 hcancel)
    cases e with
    | endOfInput =>
      obtain ⟨rfl, -⟩ := Prod.mk.inj h
      refine ⟨s, ?_, hs, ?_⟩
      · rw [List.append_nil, List.take_of_length_le (Nat.le_of_lt hhead), peek]
      · rw [List.append_nil, List.drop_of_length_le (Nat.le_of_lt hhead)]
        exact delivered_of_silent hend
    | failed e final => exact absurd h (delivered_failed_ne e final s bytes)
    | interrupted => exact ih head hhead hs hend h
    | cancel => exact absurd rfl he
    | data piece =>
      obtain ⟨behind, rfl, hbehind⟩ := delivered_of_data h
      rw [← List.append_assoc, peek]
      split
      case isTrue hshort =>
        exact ih (head ++ piece) (by rwa [List.length_append]) hs hend hbehind
      case isFalse hlong =>
        have hmissing : 2 - head.length ≤ piece.length := by omega
        refine ⟨.data (piece.drop (2 - head.length)) :: s, ?_, by simpa using hs, ?_⟩
        · rw [List.append_assoc, List.take_append,
            List.take_of_length_le (Nat.le_of_lt hhead), List.take_append_of_le_length hmissing]
        · rw [List.append_assoc, List.drop_append, List.drop_of_length_le (Nat.le_of_lt hhead),
            List.drop_append_of_le_length hmissing, List.nil_append, delivered, hbehind]

end JobLog.Source
