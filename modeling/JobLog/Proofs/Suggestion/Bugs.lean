import JobLog.Proofs.Bug.Merge
import JobLog.Proofs.Suggestion.Helpful
import Mathlib.Data.List.Perm.Subperm

/-!
# The bugs of a suggestion

The answers to the searches of an error are merged in the order of the searches; a search that
fails adds nothing, and neither does an answer that is remembered.

* `BugCache.answers` are the answers to searches for terms, `Summarizer.Gathered` says that the bugs
  at hand are these answers merged. Asking for a term keeps it.
* `Summarizer.lineTerms` are the terms of a line. They differ, and so each of them is searched for
  and its answer merged: `Summarizer.askAll_primaryTerms`.
* `Summarizer.suggest_complete` is the result for all errors and caches.
-/

namespace JobLog

variable {σ : Type}

/-! ### Answers -/

namespace BugCache

/-- The answers to the searches for terms that do not fail. -/
def answers (cache : BugCache σ) (state : σ) (terms : List String) : List Bugs :=
  (cache.searches state terms).filterMap Prod.snd

/-- One of the searches for terms has been for this one, and has not failed. -/
def hasAnswered (cache : BugCache σ) (state : σ) (terms : List String) (term : String) : Bool :=
  (cache.searches state terms).any fun x => x.1 = term && x.2.isSome

theorem hasAnswered_iff {cache : BugCache σ} {state : σ} {terms : List String} {term : String} :
    cache.hasAnswered state terms term = true ↔
      ∃ bugs, (term, some bugs) ∈ cache.searches state terms := by
  simp only [hasAnswered, List.any_eq_true, Bool.and_eq_true, decide_eq_true_eq,
    Option.isSome_iff_exists]
  constructor
  · rintro ⟨⟨_, _⟩, hx, rfl, bugs, rfl⟩
    exact ⟨bugs, hx⟩
  · rintro ⟨bugs, hx⟩
    exact ⟨_, hx, rfl, bugs, rfl⟩

end BugCache

namespace Summarizer

/-! ### The bugs at hand -/

/-- What has been gathered when `terms` were wanted: beside the trace, what is remembered is the
answer to a search, and the bugs at hand are all answers merged. -/
structure Gathered (cache : BugCache σ) (state : σ) (terms : List String) (m : Summarizer σ)
    (bugs : Bugs) : Prop extends Traced cache state terms m where
  known_mem : ∀ t a, m.known.lookup t = some a → (t, some a) ∈ cache.searches state m.asked
  bugs_eq : bugs = .mergeAll .empty (cache.answers state m.asked)

section Gathered

variable {cache : BugCache σ} {state : σ} {terms : List String} {m : Summarizer σ} {bugs : Bugs}

theorem gathered_start (cache : BugCache σ) (state : σ) :
    Gathered cache state [] (start state) .empty where
  toTraced := traced_start cache state
  known_mem _ _ h := nomatch h
  bugs_eq := rfl

theorem Traced.answers_eq (h : Traced cache state terms m) (term : String) :
    cache.answers state (m.asked ++ [term]) =
      cache.answers state m.asked ++ (cache.search m.state term).1.toList := by
  rw [BugCache.answers, h.searches_eq, List.filterMap_append]
  cases (cache.search m.state term).1 <;> rfl

/-- **Asking for a term merges its answer** with the bugs at hand, if the search does not fail. -/
theorem AskStep.gathered {term : String} {r : Bugs × Summarizer σ} (hstep : AskStep cache m term r)
    (h : Gathered cache state terms m bugs) :
    Gathered cache state (terms ++ [term]) r.2 (bugs.merge r.1) where
  toTraced := hstep.traced h.toTraced
  known_mem t a := by
    cases hstep with
    | recalled => exact h.known_mem t a
    | found found s hknown hsearch =>
      intro hlookup
      rw [Keyed.lookup_cons] at hlookup
      rw [h.searches_eq, hsearch, List.mem_append, List.mem_singleton]
      split at hlookup
      case isTrue hterm => exact .inr (by rw [hterm, ← hlookup])
      case isFalse => exact .inl (h.known_mem t a hlookup)
    | failed s hknown hsearch =>
      intro hlookup
      rw [h.searches_eq]
      exact List.mem_append_left _ (h.known_mem t a hlookup)
  bugs_eq := by
    rw [h.bugs_eq]
    cases hstep with
    | recalled a hknown =>
      -- what is remembered has been merged when it was found
      exact Bugs.merge_of_mem (List.mem_filterMap.2 ⟨_, h.known_mem term a hknown, rfl⟩)
    | found a s hknown hsearch =>
      rw [h.answers_eq, hsearch, Option.toList_some, Bugs.mergeAll_concat]
    | failed s hknown hsearch =>
      rw [h.answers_eq, hsearch, Option.toList_none, List.append_nil, Bugs.merge_empty]

theorem Gathered.askAll (h : Gathered cache state terms m bugs) (more : List String) :
    Gathered cache state (terms ++ more) (askAll cache bugs m more).2
      (askAll cache bugs m more).1 := by
  induction more generalizing m terms bugs with
  | nil => rwa [List.append_nil]
  | cons term more ih =>
    rw [List.append_cons]
    exact ih ((ask_step cache m term).gathered h)

end Gathered

/-! ### The terms of a line -/

/-- The terms of the line of an error, blank ones included. -/
def lineTerms (e : ErrorLine) : List String :=
  (SearchTerms.ofLine (cleanLine e.text.toList)).terms.map String.ofList

theorem nodup_ofTerm (base : List Char) : (SearchTerms.ofTerm base).Nodup := by
  unfold SearchTerms.ofTerm
  dsimp only
  split
  case isTrue h =>
    -- what stands before the question mark is shorter
    refine List.nodup_cons.2 ⟨fun hmem => ?_, List.nodup_singleton _⟩
    exact absurd (congrArg List.length (List.mem_singleton.1 hmem)) h.2.ne'
  case isFalse => exact List.nodup_singleton _

theorem nodup_lineTerms (e : ErrorLine) : (lineTerms e).Nodup := by
  refine List.Nodup.map (fun _ _ => String.ofList_injective) ?_
  rw [SearchTerms.terms_ofLine]
  cases SearchTerms.chosen? (cleanLine e.text.toList) with
  | none => exact .nil
  | some base => exact nodup_ofTerm base

theorem nodup_primaryTerms (e : ErrorLine) : (primaryTerms e).Nodup :=
  (nodup_lineTerms e).filter _

/-- The signature of a crash in the line of an error. -/
def signature? (e : ErrorLine) : Option String :=
  (crashSignature? (cleanLine e.text.toList)).map String.ofList

theorem extraTerms_mergeAll (e : ErrorLine) (answers : List Bugs) :
    extraTerms e (.mergeAll .empty answers) =
      (if answers.all Bugs.isEmpty then signature? e else none).toList := by
  rw [extraTerms, Bugs.isEmpty_mergeAll, signature?]
  split <;> rfl

/-! ### What is searched for -/

/-- Terms that differ are searched for as they are wanted. -/
theorem asked_after_of_nodup (cache : BugCache σ) (state : σ) {terms : List String}
    (h : terms.Nodup) : ((start state).after cache terms).asked = terms := by
  have htrace := (traced_start cache state).after terms
  obtain ⟨new, hasked, hnew⟩ := exists_asked_after cache (start state) terms
  rw [show (start state).asked = [] from rfl, List.nil_append] at hasked
  have hsubset : terms ⊆ new := fun t ht => hasked ▸ htrace.mem_asked_iff.2 ht
  rw [hasked]
  exact hnew.eq_of_length_le (List.subperm_of_subset h hsubset).length_le

/-- A term is searched for unless it was searched for without failure. -/
theorem Traced.asked_ask {cache : BugCache σ} {state : σ} {terms : List String} {m : Summarizer σ}
    (h : Traced cache state terms m) (term : String) :
    (m.ask cache term).2.asked =
      m.asked ++ [term].filter fun t => !cache.hasAnswered state m.asked t := by
  have hknown := (h.known_iff term).trans BugCache.hasAnswered_iff.symm
  generalize hr : m.ask cache term = r
  have hstep : AskStep cache m term r := hr ▸ ask_step cache m term
  cases hstep with
  | recalled a hlookup =>
    have hanswered := hknown.1 (by simp [hlookup])
    simp [hanswered]
  | found _ _ hlookup | failed _ hlookup =>
    have hnot : ¬ cache.hasAnswered state m.asked term = true := fun h => hknown.2 h hlookup
    simp [hnot]

theorem Traced.asked_after {cache : BugCache σ} {state : σ} {terms : List String}
    {m : Summarizer σ} (h : Traced cache state terms m) (term? : Option String) :
    (m.after cache term?.toList).asked =
      m.asked ++ term?.toList.filter fun t => !cache.hasAnswered state m.asked t := by
  cases term? with
  | none => exact (List.append_nil _).symm
  | some term => exact h.asked_ask term

/-- The first terms of an error are searched for, each once, and their answers are merged. -/
theorem askAll_primaryTerms (cache : BugCache σ) (state : σ) (e : ErrorLine) :
    (askAll cache .empty (start state) (primaryTerms e)).1 =
      .mergeAll .empty (cache.answers state (primaryTerms e)) := by
  have h := ((gathered_start cache state).askAll (primaryTerms e)).bugs_eq
  rwa [snd_askAll, asked_after_of_nodup cache state (nodup_primaryTerms e)] at h

/-! ### The terms of a suggestion -/

theorem unique_append (l l' : List String) :
    unique (l ++ l') = unique l ++ (unique l').filter (· ∉ l) := by
  induction l with
  | nil => simp [unique]
  | cons s l ih =>
    simp only [List.cons_append, unique, ih, List.filter_append, List.filter_filter]
    congr 2
    refine List.filter_congr fun t _ => ?_
    simp

theorem nodup_unique (l : List String) : (unique l).Nodup := by
  induction l with
  | nil => exact .nil
  | cons s l ih =>
    refine List.nodup_cons.2 ⟨fun hs => ?_, ih.filter _⟩
    simpa using (List.mem_filter.1 hs).2

theorem unique_of_nodup {l : List String} (h : l.Nodup) : unique l = l := by
  induction l with
  | nil => rfl
  | cons s l ih =>
    obtain ⟨hs, hl⟩ := List.nodup_cons.1 h
    rw [unique, ih hl, List.filter_eq_self.2]
    exact fun t ht => decide_eq_true (ne_of_mem_of_not_mem ht hs)

/-! ### Suggestions -/

theorem gathered_suggest (cache : BugCache σ) (state : σ) (e : ErrorLine) :
    Gathered cache state ((start state).wanted cache e) ((start state).suggest cache e).2
      ((start state).suggest cache e).1.bugs := by
  have hfirst := (gathered_start cache state).askAll (primaryTerms e)
  rw [List.nil_append] at hfirst
  simp only [suggest_eq, suggestion, wanted]
  exact hfirst.askAll _

/-- **What a new summarizer suggests for an error, whatever the cache answers.** The bugs are those
of all answers to its searches, the first one of each id in the list where it stood, and so no id
occurs twice. Wanted are the terms of the line that are not blank and, where the answers to them
have no bug, the signature of a crash if there is one. The cache is asked for these terms and for
nothing else, and for the signature unless it has answered a search for it before. The terms are
told each once, those of the line first and the signature last, if it is not one of them. The
cleaned line, its number and its path do not depend on the cache either. -/
theorem suggest_complete (cache : BugCache σ) (state : σ) (e : ErrorLine) :
    let s := ((start state).suggest cache e).1
    let m := ((start state).suggest cache e).2
    let answers := cache.answers state m.asked
    let extra? :=
      if (cache.answers state (primaryTerms e)).all Bugs.isEmpty then signature? e else none
    (s.bugs.all.map Bug.id).Nodup ∧
    (∀ id, id ∈ s.bugs.all.map Bug.id ↔ ∃ a ∈ answers, id ∈ a.all.map Bug.id) ∧
    (∀ x, x ∈ s.bugs.listed ↔
      (answers.flatMap Bugs.listed).find? (fun y => y.id = x.id) = some x) ∧
    m = (start state).after cache (primaryTerms e ++ extra?.toList) ∧
    m.state = cache.after state m.asked ∧
    m.asked =
      primaryTerms e ++
        extra?.toList.filter (fun t => !cache.hasAnswered state (primaryTerms e) t) ∧
    s.terms = lineTerms e ++ extra?.toList.filter (· ∉ lineTerms e) ∧
    s.terms.Nodup ∧
    ∀ (τ : Type) (other : BugCache τ) (there : τ),
      let s' := ((start there).suggest other e).1
      s'.search = s.search ∧ s'.line = s.line ∧ s'.pathEnd? = s.pathEnd? := by
  intro s m answers extra?
  have hall := gathered_suggest cache state e
  have hbugs : s.bugs = .mergeAll .empty answers := hall.bugs_eq
  have hextra : extraTerms e (askAll cache .empty (start state) (primaryTerms e)).1 =
      extra?.toList := by
    rw [askAll_primaryTerms, extraTerms_mergeAll]
  have hm : m = (start state).after cache (primaryTerms e ++ extra?.toList) := by
    rw [← hextra]
    exact snd_suggest cache (start state) e
  have hterms : s.terms = unique (lineTerms e ++ extra?.toList) := by
    rw [← hextra]
    simp only [s, suggest_eq, suggestion, lineTerms]
  refine ⟨?_, fun id => ?_, fun x => ?_, hm, hall.state_eq, ?_, ?_, ?_, ?_⟩
  · rw [hbugs, ← Bugs.map_id_listed]
    exact Bugs.nodup_mergeAll answers
  · simp only [Bugs.mem_ids_iff, hbugs, Bugs.hasId_mergeAll]
  · rw [hbugs]
    exact Bugs.mem_listed_mergeAll
  · have hasked := asked_after_of_nodup cache state (nodup_primaryTerms e)
    have htrace := (traced_start cache state).after (primaryTerms e)
    rw [hm, after_append, htrace.asked_after, hasked]
  · have hsingle : unique extra?.toList = extra?.toList := by
      cases extra? <;> rfl
    rw [hterms, unique_append, unique_of_nodup (nodup_lineTerms e), hsingle]
  · rw [hterms]
    exact nodup_unique _
  · intro τ other there s'
    simp only [s, s', suggest_eq, suggestion, and_self]

end Summarizer
end JobLog
