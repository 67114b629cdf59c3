import JobLog.Proofs.Text.Last
import JobLog.Suggestion.Terms
import Mathlib.Data.List.TakeWhile

/-!
# Crash signatures

A crash signature stands in brackets behind a mark. It may hold brackets itself, a line may hold
several marks, and not every mark has a signature behind it.

* `ClosedSignature` is a text that a bracket closes before the end of the line or a bar,
  `ShortestSignature` the shortest one, and `closedSignature?_nil_eq_some_iff` says that it is
  found.
* `SignatureMark` is a mark with a signature behind it, `LastSignature` what stands behind the last
  one.
* `crashSignature?_of_lastSignature` is the result for all lines.
-/

namespace JobLog

open Text.Pattern (LastOccurrence lastBehind? lastBehind?_eq_some_iff lastBehind?_eq_none_iff)

variable {line sig s : List Char}

/-! ### Signatures -/

/-- The text closes a signature: a bracket with nothing or a bar behind it. -/
def Closing (s : List Char) : Prop :=
  ∃ rest, s = ']' :: rest ∧ (rest = [] ∨ " |".toList <+: rest)

/-- The text starts with the signature, which is not empty and is closed. -/
def ClosedSignature (s sig : List Char) : Prop :=
  sig ≠ [] ∧ ∃ rest, s = sig ++ rest ∧ Closing rest

/-- The shortest signature at the start of the text. -/
structure ShortestSignature (s sig : List Char) : Prop where
  closed : ClosedSignature s sig
  length_le : ∀ other, ClosedSignature s other → sig.length ≤ other.length

theorem ShortestSignature.unique {sig' : List Char} (h : ShortestSignature s sig)
    (h' : ShortestSignature s sig') : sig = sig' := by
  obtain ⟨-, rest, hrest, -⟩ := h.closed
  obtain ⟨-, rest', hrest', -⟩ := h'.closed
  exact (List.append_inj (hrest.symm.trans hrest')
    (Nat.le_antisymm (h.length_le sig' h'.closed) (h'.length_le sig h.closed))).1

theorem closedSignature_cons {c : Char} :
    ClosedSignature (c :: s) sig ↔
      sig = [c] ∧ Closing s ∨ ∃ sig', sig = c :: sig' ∧ ClosedSignature s sig' := by
  constructor
  · rintro ⟨hne, rest, heq, hclosing⟩
    match sig, hne with
    | d :: sig, _ =>
      obtain ⟨rfl, rfl⟩ := List.cons.inj heq
      by_cases hsig : sig = []
      · subst hsig
        exact .inl ⟨rfl, hclosing⟩
      · exact .inr ⟨sig, rfl, hsig, rest, rfl, hclosing⟩
  · rintro (⟨rfl, hclosing⟩ | ⟨sig', rfl, -, rest, rfl, hclosing⟩)
    · exact ⟨List.cons_ne_nil c [], s, rfl, hclosing⟩
    · exact ⟨List.cons_ne_nil c sig', rest, rfl, hclosing⟩

theorem shortestSignature_of_closing {c : Char} (h : Closing s) :
    ShortestSignature (c :: s) [c] where
  closed := closedSignature_cons.2 (.inl ⟨rfl, h⟩)
  length_le _ hother := List.length_pos_iff.2 hother.1

theorem shortestSignature_cons_iff {c : Char} (h : ¬ Closing s) :
    ShortestSignature (c :: s) sig ↔ ∃ sig', sig = c :: sig' ∧ ShortestSignature s sig' := by
  have hcons : ∀ other, ClosedSignature (c :: s) other ↔
      ∃ sig', other = c :: sig' ∧ ClosedSignature s sig' := fun other =>
    closedSignature_cons.trans (or_iff_right fun hother => h hother.2)
  constructor
  · rintro ⟨hclosed, hle⟩
    obtain ⟨sig', rfl, hclosed'⟩ := (hcons sig).1 hclosed
    refine ⟨sig', rfl, hclosed', fun other hother => ?_⟩
    exact Nat.le_of_succ_le_succ (hle (c :: other) ((hcons _).2 ⟨other, rfl, hother⟩))
  · rintro ⟨sig', rfl, hclosed, hle⟩
    refine ⟨(hcons _).2 ⟨sig', rfl, hclosed⟩, fun other hother => ?_⟩
    obtain ⟨other', rfl, hother'⟩ := (hcons other).1 hother
    exact Nat.succ_le_succ (hle other' hother')

theorem closedSignature?_of_closing {before : List Char} {c : Char} (h : Closing s) :
    closedSignature? before (c :: s) = some (c :: before).reverse := by
  obtain ⟨_, rfl, rfl | ⟨rest, rfl⟩⟩ := h <;> rfl

theorem closedSignature?_of_not_closing {before : List Char} {c : Char} (h : ¬ Closing s) :
    closedSignature? before (c :: s) = closedSignature? (c :: before) s := by
  rw [closedSignature?]
  · rintro rfl
    exact h ⟨[], rfl, .inl rfl⟩
  · rintro rest rfl
    exact h ⟨' ' :: '|' :: rest, rfl, .inr ⟨rest, rfl⟩⟩

/-- The search finds the shortest signature, behind what it has read before. -/
theorem closedSignature?_eq_some_iff {before : List Char} :
    closedSignature? before s = some sig ↔
      ∃ sig', sig = before.reverse ++ sig' ∧ ShortestSignature s sig' := by
  induction s generalizing before with
  | nil =>
    refine ⟨nofun, fun ⟨sig', _, hshortest⟩ => ?_⟩
    obtain ⟨hne, rest, heq, -⟩ := hshortest.closed
    exact absurd (List.append_eq_nil_iff.1 heq.symm).1 hne
  | cons c s ih =>
    by_cases hclosing : Closing s
    · rw [closedSignature?_of_closing hclosing, Option.some.injEq, List.reverse_cons]
      constructor
      · rintro rfl
        exact ⟨[c], rfl, shortestSignature_of_closing hclosing⟩
      · rintro ⟨sig', rfl, hshortest⟩
        rw [hshortest.unique (shortestSignature_of_closing hclosing)]
    · rw [closedSignature?_of_not_closing hclosing, ih]
      simp only [shortestSignature_cons_iff hclosing, List.reverse_cons, List.append_assoc,
        List.singleton_append]
      constructor
      · rintro ⟨sig', rfl, hshortest⟩
        exact ⟨c :: sig', rfl, sig', rfl, hshortest⟩
      · rintro ⟨_, rfl, sig', rfl, hshortest⟩
        exact ⟨sig', rfl, hshortest⟩

theorem closedSignature?_nil_eq_some_iff :
    closedSignature? [] s = some sig ↔ ShortestSignature s sig := by
  simp [closedSignature?_eq_some_iff]

/-- A text that starts with a signature starts with a shortest one. -/
theorem exists_shortestSignature (h : ClosedSignature s sig) :
    ∃ sig', ShortestSignature s sig' := by
  induction s generalizing sig with
  | nil =>
    obtain ⟨hne, rest, heq, -⟩ := h
    exact absurd (List.append_eq_nil_iff.1 heq.symm).1 hne
  | cons c s ih =>
    by_cases hclosing : Closing s
    · exact ⟨[c], shortestSignature_of_closing hclosing⟩
    · obtain ⟨-, hs⟩ | ⟨sig', -, hsig'⟩ := closedSignature_cons.1 h
      · exact absurd hs hclosing
      · obtain ⟨shortest, hshortest⟩ := ih hsig'
        exact ⟨c :: shortest, (shortestSignature_cons_iff hclosing).2 ⟨shortest, rfl, hshortest⟩⟩

/-- A signature in which no bracket stands in front of a bar is not cut short. -/
theorem shortestSignature_append {e : List Char} (hsig : sig ≠ []) (he : e = [] ∨ " |".toList <+: e)
    (hbar : ¬ "] |".toList <:+: sig) : ShortestSignature (sig ++ ']' :: e) sig where
  closed := ⟨hsig, ']' :: e, rfl, e, rfl, he⟩
  length_le other := by
    rintro ⟨-, _, heq, rest, rfl, hrest⟩
    refine Nat.le_of_not_lt fun hlt => ?_
    -- a shorter one would end inside of it, in front of one of its brackets
    obtain ⟨t, ht⟩ := List.prefix_of_prefix_length_le (List.prefix_append other (']' :: rest))
      (heq ▸ List.prefix_append sig (']' :: e)) (Nat.le_of_lt hlt)
    subst ht
    rw [List.append_assoc] at heq
    match t, List.append_cancel_left heq with
    | [], _ => simp at hlt
    | c :: t, hcons =>
      obtain ⟨rfl, htail⟩ := List.cons.inj hcons
      obtain rfl | ⟨r, hr⟩ := hrest
      · simp at htail
      · have hr : ' ' :: '|' :: r = rest := hr
        match t, htail.trans hr.symm with
        | [], h => simp at h
        | [_], h => simp at h
        | _ :: _ :: t, h =>
          obtain ⟨rfl, rfl, -⟩ : _ = ' ' ∧ _ = '|' ∧ _ := by simpa using h
          exact hbar ⟨other, t, by simp⟩

/-! ### Marks -/

/-- The mark of a crash that has something before it and a signature behind it. -/
structure SignatureMark (line before behind : List Char) : Prop where
  eq_append : line = before ++ crashMark ++ behind
  before_ne_nil : before ≠ []
  exists_closed : ∃ sig, ClosedSignature behind sig

/-- The shortest signature behind the last mark that has one. -/
def LastSignature (line sig : List Char) : Prop :=
  ∃ before behind, SignatureMark line before behind ∧
    (∀ u v, SignatureMark line u v → u.length ≤ before.length) ∧ ShortestSignature behind sig

theorem lastSignature?_eq_lastBehind? (s : List Char) :
    lastSignature? s = lastBehind? crashMark (closedSignature? []) s := by
  induction s with
  | nil => rfl
  | cons c s ih => rw [lastSignature?, lastBehind?, ih]

theorem exists_closedSignature?_iff :
    (∃ sig, closedSignature? [] s = some sig) ↔ ∃ sig, ClosedSignature s sig := by
  simp only [closedSignature?_nil_eq_some_iff]
  exact ⟨fun ⟨sig, h⟩ => ⟨sig, h.closed⟩, fun ⟨_, h⟩ => exists_shortestSignature h⟩

/-- The marks of a line stand behind its first character. -/
theorem signatureMark_cons_iff {c : Char} {before behind : List Char} :
    SignatureMark (c :: s) before behind ↔
      ∃ u, before = c :: u ∧ s = u ++ crashMark ++ behind ∧ ∃ sig, ClosedSignature behind sig := by
  constructor
  · rintro ⟨heq, hne, hsig⟩
    obtain ⟨d, u, rfl⟩ := List.exists_cons_of_ne_nil hne
    obtain ⟨rfl, hs⟩ := List.cons.inj heq
    exact ⟨u, rfl, hs, hsig⟩
  · rintro ⟨u, rfl, rfl, hsig⟩
    exact ⟨rfl, List.cons_ne_nil c u, hsig⟩

theorem not_signatureMark_nil {before behind : List Char} :
    ¬ SignatureMark [] before behind := fun hmark =>
  have hnil := List.append_eq_nil_iff.1 hmark.eq_append.symm
  hmark.before_ne_nil (List.append_eq_nil_iff.1 hnil.1).1

/-- Behind the first character of a line the search finds the last signature. -/
theorem lastSignature?_tail_eq_some_iff :
    lastSignature? line.tail = some sig ↔ LastSignature line sig := by
  cases line with
  | nil => exact ⟨nofun, fun ⟨_, _, hmark, _⟩ => absurd hmark not_signatureMark_nil⟩
  | cons c s =>
    rw [List.tail_cons, lastSignature?_eq_lastBehind?, lastBehind?_eq_some_iff (by decide)]
    constructor
    · rintro ⟨u, behind, ⟨heq, husable, hle⟩, hsig⟩
      refine ⟨c :: u, behind, signatureMark_cons_iff.2 ⟨u, rfl, heq, ?_⟩, fun u' v hmark => ?_,
        closedSignature?_nil_eq_some_iff.1 hsig⟩
      · exact exists_closedSignature?_iff.1 husable
      · obtain ⟨u', rfl, heq', hsig'⟩ := signatureMark_cons_iff.1 hmark
        exact Nat.succ_le_succ (hle u' v heq' (exists_closedSignature?_iff.2 hsig'))
    · rintro ⟨_, behind, hmark, hle, hsig⟩
      obtain ⟨u, rfl, heq, husable⟩ := signatureMark_cons_iff.1 hmark
      refine ⟨u, behind, ⟨heq, exists_closedSignature?_iff.2 husable, fun u' v heq' husable' => ?_⟩,
        closedSignature?_nil_eq_some_iff.2 hsig⟩
      have hmark' : SignatureMark (c :: s) (c :: u') v :=
        signatureMark_cons_iff.2 ⟨u', rfl, heq', exists_closedSignature?_iff.1 husable'⟩
      exact Nat.le_of_succ_le_succ (hle (c :: u') v hmark')

theorem lastSignature?_tail_eq_none_iff :
    lastSignature? line.tail = none ↔ ∀ before behind, ¬ SignatureMark line before behind := by
  cases line with
  | nil => exact ⟨fun _ _ _ => not_signatureMark_nil, fun _ => rfl⟩
  | cons c s =>
    have hclosed : ∀ behind,
        closedSignature? [] behind = none ↔ ¬ ∃ sig, ClosedSignature behind sig := fun behind => by
      rw [← exists_closedSignature?_iff, Option.eq_none_iff_forall_ne_some, not_exists]
    rw [List.tail_cons, lastSignature?_eq_lastBehind?, lastBehind?_eq_none_iff (by decide)]
    constructor
    · intro h before behind hmark
      obtain ⟨u, -, heq, hsig⟩ := signatureMark_cons_iff.1 hmark
      exact (hclosed behind).1 (h u behind heq) hsig
    · intro h u behind heq
      refine (hclosed behind).2 fun hsig => h (c :: u) behind ?_
      exact signatureMark_cons_iff.2 ⟨u, rfl, heq, hsig⟩

theorem lastLine_of_inLine (h : '\n' ∉ line) : lastLine line = line := by
  have hreverse : line.reverse.takeWhile (· ≠ '\n') = line.reverse := by
    refine List.takeWhile_eq_self_iff.2 fun c hc => ?_
    simpa using ne_of_mem_of_not_mem (List.mem_reverse.1 hc) h
  rw [lastLine, hreverse, List.reverse_reverse]

/-- **The signature of a crash.** It is the shortest one behind the last mark that has one, if it is
helpful, and there is none where no mark has one. A helpful signature behind the only mark of a line
is found as a whole, whatever brackets it holds, unless one of them stands in front of a bar. -/
theorem crashSignature?_of_lastSignature (hline : '\n' ∉ line) :
    ((∀ before behind, ¬ SignatureMark line before behind) → crashSignature? line = none) ∧
    ((∃ before behind, SignatureMark line before behind) → ∃ sig, LastSignature line sig) ∧
    (∀ sig, LastSignature line sig →
      crashSignature? line = if isHelpful sig = true then some sig else none) ∧
    ∀ before sig behind, line = before ++ crashMark ++ sig ++ "]".toList ++ behind →
      before ≠ [] → (behind = [] ∨ " |".toList <+: behind) → isHelpful sig = true →
      (∀ u v, line = u ++ crashMark ++ v → u = before) → ¬ "] |".toList <:+: sig →
      crashSignature? line = some sig := by
  have hcrash : crashSignature? line = (lastSignature? line.tail).filter isHelpful := by
    rw [crashSignature?, lastLine_of_inLine hline]
  have hlast : ∀ sig, LastSignature line sig →
      crashSignature? line = if isHelpful sig = true then some sig else none := fun sig h => by
    rw [hcrash, lastSignature?_tail_eq_some_iff.2 h, Option.filter_some]
  refine ⟨fun h => ?_, fun ⟨before, behind, hmark⟩ => ?_, hlast, ?_⟩
  · rw [hcrash, lastSignature?_tail_eq_none_iff.2 h]
    rfl
  · cases hsig : lastSignature? line.tail with
    | none => exact absurd hmark (lastSignature?_tail_eq_none_iff.1 hsig before behind)
    | some sig => exact ⟨sig, lastSignature?_tail_eq_some_iff.1 hsig⟩
  · intro before sig behind heq hbefore hbehind hhelpful honly hbar
    have hne : sig ≠ [] := fun h => absurd (h ▸ hhelpful) (by decide)
    have hshortest := shortestSignature_append hne hbehind hbar
    have hmark : SignatureMark line before (sig ++ ']' :: behind) :=
      ⟨by rw [heq]; simp, hbefore, sig, hshortest.closed⟩
    have hle : ∀ u v, SignatureMark line u v → u.length ≤ before.length := fun u v h =>
      Nat.le_of_eq (congrArg List.length (honly u v h.eq_append))
    rw [hlast sig ⟨before, _, hmark, hle, hshortest⟩, if_pos hhelpful]

/-- A line with brackets in its signature and others behind it. -/
def bracketedCrash : List Char :=
  "PROCESS-CRASH | a.js | application crashed [@ Foo[int]] | [x] |".toList

theorem crashMark_bracketedCrash {u v : List Char} (h : bracketedCrash = u ++ crashMark ++ v) :
    u = "PROCESS-CRASH | a.js |".toList := by
  have hplaces : ∀ i < bracketedCrash.length, crashMark.isPrefixOf (bracketedCrash.drop i) = true →
      bracketedCrash.take i = "PROCESS-CRASH | a.js |".toList := by decide +kernel
  rw [List.append_assoc] at h
  have hlt : u.length < bracketedCrash.length := by
    have hmark : 0 < crashMark.length := by decide
    rw [h, List.length_append, List.length_append]
    omega
  have hhere := hplaces u.length hlt
  rw [h, List.drop_left, List.take_left] at hhere
  exact hhere (List.isPrefixOf_iff_prefix.2 (List.prefix_append _ _))

/-- Its mark is the only one, and its signature is found as a whole. -/
theorem crashSignature?_of_lastSignature_brackets :
    '\n' ∉ bracketedCrash ∧
      (∀ u v, bracketedCrash = u ++ crashMark ++ v → u = "PROCESS-CRASH | a.js |".toList) ∧
      crashSignature? bracketedCrash = some "Foo[int]".toList := by
  have hline : '\n' ∉ bracketedCrash := by decide +kernel
  have heq : bracketedCrash = "PROCESS-CRASH | a.js |".toList ++ crashMark ++ "Foo[int]".toList ++
      "]".toList ++ " | [x] |".toList := by decide +kernel
  have honly : ∀ u v, bracketedCrash = u ++ crashMark ++ v →
      u = "PROCESS-CRASH | a.js |".toList := fun _ _ h => crashMark_bracketedCrash h
  refine ⟨hline, honly, ?_⟩
  exact (crashSignature?_of_lastSignature hline).2.2.2 _ _ _ heq (by decide +kernel)
    (.inr (by decide +kernel)) (by decide +kernel) honly (by decide +kernel)

end JobLog
