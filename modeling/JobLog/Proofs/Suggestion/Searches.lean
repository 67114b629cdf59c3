import JobLog.Proofs.Suggestion.Memory
import Mathlib.Data.List.Duplicate

/-!
# The searches of a summarizer

A term is looked up in the memory first, and the cache of bugs is searched only for a term that is
not there. Since failed searches are not remembered, their terms are searched for again each time
they are wanted; all other terms are searched for once.

* `BugCache.searches` are the searches for terms with their answers.
* `Summarizer.wantedAll` are the terms that are looked up for the errors of a log, and
  `Summarizer.snd_suggestAll` says that a summarizer does nothing but ask for them.
* `Summarizer.Traced` ties the searches, the memory and the terms that were wanted; asking for a
  term keeps it.
* `Summarizer.nodup_asked_iff` is the result for all caches and errors, and
  `Summarizer.asked_twice_while_down` a cache for which terms are searched for twice.
-/

namespace JobLog

variable {σ : Type}

/-! ### Searches -/

namespace BugCache

/-- The searches for terms one after the other, each with its answer. -/
def searches (cache : BugCache σ) (state : σ) : List String → List (String × Option Bugs)
  | [] => []
  | term :: terms =>
    (term, (cache.search state term).1) :: cache.searches (cache.search state term).2 terms

/-- The state of the cache behind the searches for terms. -/
def after (cache : BugCache σ) (state : σ) (terms : List String) : σ :=
  terms.foldl (fun state term => (cache.search state term).2) state

theorem searches_append (cache : BugCache σ) (state : σ) (ts us : List String) :
    cache.searches state (ts ++ us) =
      cache.searches state ts ++ cache.searches (cache.after state ts) us := by
  induction ts generalizing state with
  | nil => rfl
  | cons t ts ih => exact congrArg (_ :: ·) (ih _)

theorem after_append (cache : BugCache σ) (state : σ) (ts us : List String) :
    cache.after state (ts ++ us) = cache.after (cache.after state ts) us :=
  List.foldl_append

theorem map_fst_searches (cache : BugCache σ) (state : σ) (ts : List String) :
    (cache.searches state ts).map Prod.fst = ts := by
  induction ts generalizing state with
  | nil => rfl
  | cons t ts ih => exact congrArg (t :: ·) (ih _)

/-- The answers are those of searches for the terms. -/
theorem exists_search {cache : BugCache σ} {state : σ} {ts : List String}
    {x : String × Option Bugs} (h : x ∈ cache.searches state ts) :
    x.1 ∈ ts ∧ ∃ s, (cache.search s x.1).1 = x.2 := by
  induction ts generalizing state with
  | nil => exact nomatch h
  | cons t ts ih =>
    rcases List.mem_cons.1 h with rfl | h
    · exact ⟨List.mem_cons_self, state, rfl⟩
    · obtain ⟨hmem, hsearch⟩ := ih h
      exact ⟨List.mem_cons_of_mem t hmem, hsearch⟩

end BugCache

namespace Summarizer

/-! ### The terms that are wanted -/

/-- The terms that are looked up for an error. -/
def wanted (cache : BugCache σ) (m : Summarizer σ) (e : ErrorLine) : List String :=
  primaryTerms e ++ extraTerms e (askAll cache .empty m (primaryTerms e)).1

/-- The terms that are looked up for several errors. -/
def wantedAll (cache : BugCache σ) (m : Summarizer σ) : List ErrorLine → List String
  | [] => []
  | e :: es => m.wanted cache e ++ (m.suggest cache e).2.wantedAll cache es

/-- The summarizer that has asked for terms. -/
def after (cache : BugCache σ) (m : Summarizer σ) (terms : List String) : Summarizer σ :=
  terms.foldl (fun m term => (m.ask cache term).2) m

theorem after_append (cache : BugCache σ) (m : Summarizer σ) (ts us : List String) :
    m.after cache (ts ++ us) = (m.after cache ts).after cache us :=
  List.foldl_append

theorem snd_askAll (cache : BugCache σ) (bugs : Bugs) (m : Summarizer σ) (terms : List String) :
    (askAll cache bugs m terms).2 = m.after cache terms := by
  induction terms generalizing bugs m with
  | nil => rfl
  | cons term terms ih => exact ih _ _

theorem snd_suggest (cache : BugCache σ) (m : Summarizer σ) (e : ErrorLine) :
    (m.suggest cache e).2 = m.after cache (m.wanted cache e) := by
  simp only [suggest_eq, snd_askAll, wanted, after_append]

/-- **A summarizer asks for the terms that are wanted**, one after the other. -/
theorem snd_suggestAll (cache : BugCache σ) (m : Summarizer σ) (es : List ErrorLine) :
    (m.suggestAll cache es).2 = m.after cache (m.wantedAll cache es) := by
  induction es generalizing m with
  | nil => rfl
  | cons e es ih => rw [suggestAll_cons, wantedAll, after_append, ← snd_suggest, ih]

theorem AskStep.asked {cache : BugCache σ} {m : Summarizer σ} {term : String}
    {r : Bugs × Summarizer σ} (hstep : AskStep cache m term r) :
    r.2.asked = m.asked ∨ r.2.asked = m.asked ++ [term] := by
  cases hstep with
  | recalled => exact .inl rfl
  | found => exact .inr rfl
  | failed => exact .inr rfl

/-- Whatever is remembered, only the terms that are wanted are searched for. -/
theorem exists_asked_after (cache : BugCache σ) (m : Summarizer σ) (terms : List String) :
    ∃ new, (m.after cache terms).asked = m.asked ++ new ∧ new.Sublist terms := by
  induction terms generalizing m with
  | nil => exact ⟨[], (List.append_nil _).symm, .slnil⟩
  | cons term terms ih =>
    obtain ⟨new, hasked, hnew⟩ := ih (m.ask cache term).2
    have hafter : m.after cache (term :: terms) = (m.ask cache term).2.after cache terms := rfl
    rw [hafter, hasked]
    rcases (ask_step cache m term).asked with hsame | hmore
    · exact ⟨new, by rw [hsame], hnew.cons term⟩
    · exact ⟨term :: new, by rw [hmore, ← List.append_cons], hnew.cons_cons term⟩

/-- The terms that are looked up for an error where the answers are those of a function. -/
def wantedBy (find : String → Option Bugs) (e : ErrorLine) : List String :=
  primaryTerms e ++ extraTerms e (gather find .empty (primaryTerms e))

/-- Such terms do not depend on the memory. -/
theorem wantedAll_of_answers {cache : BugCache σ} {find : String → Option Bugs}
    (hcache : cache.Answers find) {m : Summarizer σ} (hm : m.Recalls find) (es : List ErrorLine) :
    m.wantedAll cache es = es.flatMap (wantedBy find) := by
  induction es generalizing m with
  | nil => rfl
  | cons e es ih =>
    have hwanted : m.wanted cache e = wantedBy find e := by
      rw [wanted, (askAll_recalls hcache hm .empty _).1, wantedBy]
    rw [wantedAll, hwanted, ih (suggest_recalls hcache hm e).2, List.flatMap_cons]

/-! ### The trace of a summarizer -/

/-- What a summarizer remembers and has searched for, when `terms` were wanted: the answers to its
searches are what it remembers, a term is searched for again only where the search has failed, and a
term that is not remembered was searched for each time it was wanted. -/
structure Traced (cache : BugCache σ) (state : σ) (terms : List String) (m : Summarizer σ) :
    Prop where
  state_eq : m.state = cache.after state m.asked
  known_iff : ∀ t, m.known.lookup t ≠ none ↔ ∃ bugs, (t, some bugs) ∈ cache.searches state m.asked
  again : (cache.searches state m.asked).Pairwise fun x y => x.1 = y.1 → x.2 = none
  count_le : ∀ t, m.asked.count t ≤ terms.count t
  count_eq : ∀ t, m.known.lookup t = none → m.asked.count t = terms.count t

section Traced

variable {cache : BugCache σ} {state : σ} {terms : List String} {m : Summarizer σ}

theorem traced_start (cache : BugCache σ) (state : σ) : Traced cache state [] (start state) where
  state_eq := rfl
  known_iff t := by simp [start, BugCache.searches]
  again := .nil
  count_le t := Nat.le_refl 0
  count_eq t _ := rfl

/-- The searches behind one more search. -/
theorem Traced.searches_eq (h : Traced cache state terms m) (term : String) :
    cache.searches state (m.asked ++ [term]) =
      cache.searches state m.asked ++ [(term, (cache.search m.state term).1)] := by
  rw [BugCache.searches_append, ← h.state_eq]
  rfl

/-- A term that is not remembered may be searched for, if its answer is remembered then. -/
theorem Traced.search (h : Traced cache state terms m) {term : String} {m' : Summarizer σ}
    (hknown : m.known.lookup term = none) (hstate : m'.state = (cache.search m.state term).2)
    (hasked : m'.asked = m.asked ++ [term])
    (hknown' : ∀ t, m'.known.lookup t ≠ none ↔
      m.known.lookup t ≠ none ∨ t = term ∧ (cache.search m.state term).1 ≠ none) :
    Traced cache state (terms ++ [term]) m' where
  state_eq := by
    rw [hasked, BugCache.after_append, ← h.state_eq, hstate]
    rfl
  known_iff t := by
    rw [hknown', h.known_iff, hasked, h.searches_eq]
    simp only [List.mem_append, List.mem_singleton, Prod.mk.injEq, exists_or, exists_and_left,
      Option.ne_none_iff_exists]
  again := by
    rw [hasked, h.searches_eq, List.pairwise_append]
    refine ⟨h.again, List.pairwise_singleton .., fun x hx y hy hxy => ?_⟩
    obtain rfl := List.mem_singleton.1 hy
    obtain ⟨t, answer⟩ := x
    obtain rfl : t = term := hxy
    cases answer with
    | none => rfl
    | some bugs => exact absurd hknown ((h.known_iff t).2 ⟨bugs, hx⟩)
  count_le t := by
    rw [hasked, List.count_append, List.count_append]
    exact Nat.add_le_add_right (h.count_le t) _
  count_eq t ht := by
    have hold : m.known.lookup t = none := by
      by_contra hold
      exact (hknown' t).2 (.inl hold) ht
    rw [hasked, List.count_append, List.count_append, h.count_eq t hold]

/-- **Asking for a term keeps the trace.** -/
theorem AskStep.traced {term : String} {r : Bugs × Summarizer σ} (hstep : AskStep cache m term r)
    (h : Traced cache state terms m) : Traced cache state (terms ++ [term]) r.2 := by
  cases hstep with
  | recalled bugs hknown =>
    refine ⟨h.state_eq, h.known_iff, h.again, fun t => ?_, fun t ht => ?_⟩
    · rw [List.count_append]
      exact Nat.le_add_right_of_le (h.count_le t)
    · have hne : term ≠ t := by
        rintro rfl
        exact nomatch hknown.symm.trans ht
      rw [List.count_append, List.count_singleton, if_neg (by simpa using hne)]
      exact h.count_eq t ht
  | found bugs state' hknown hsearch =>
    refine h.search hknown (by rw [hsearch]) rfl fun t => ?_
    rw [Keyed.lookup_cons, hsearch]
    by_cases hterm : t = term <;> simp [hterm]
  | failed state' hknown hsearch =>
    refine h.search hknown (by rw [hsearch]) rfl fun t => ?_
    simp [hsearch]

theorem Traced.after (h : Traced cache state terms m) (more : List String) :
    Traced cache state (terms ++ more) (m.after cache more) := by
  induction more generalizing m terms with
  | nil => rwa [List.append_nil]
  | cons term more ih =>
    rw [List.append_cons]
    exact ih ((ask_step cache m term).traced h)

/-- The terms that were searched for are those that were wanted. -/
theorem Traced.mem_asked_iff (h : Traced cache state terms m) {t : String} :
    t ∈ m.asked ↔ t ∈ terms := by
  rw [← List.count_pos_iff, ← List.count_pos_iff]
  constructor
  · exact fun hasked => hasked.trans_le (h.count_le t)
  · intro hwanted
    cases hknown : m.known.lookup t with
    | none => rwa [h.count_eq t hknown]
    | some _ =>
      obtain ⟨bugs, hanswered⟩ := (h.known_iff t).1 (by simp [hknown])
      exact List.count_pos_iff.2 (BugCache.exists_search hanswered).1

/-- **A term is searched for twice exactly where a failed search is wanted again.** -/
theorem Traced.nodup_iff (h : Traced cache state terms m) :
    m.asked.Nodup ↔ ∀ t, (t, none) ∈ cache.searches state m.asked → terms.count t ≤ 1 := by
  have hfst := cache.map_fst_searches state m.asked
  constructor
  · intro hnodup t hfailed
    cases hknown : m.known.lookup t with
    | none =>
      rw [← h.count_eq t hknown]
      exact List.nodup_iff_count_le_one.1 hnodup t
    | some _ =>
      obtain ⟨bugs, hanswered⟩ := (h.known_iff t).1 (by simp [hknown])
      have heq := List.inj_on_of_nodup_map (hfst.symm ▸ hnodup) hfailed hanswered rfl
      exact nomatch heq
  · intro honce
    by_contra hdup
    obtain ⟨t, ht⟩ := List.exists_duplicate_iff_not_nodup.2 hdup
    have htwice := (List.duplicate_iff_two_le_count.1 ht).trans (h.count_le t)
    -- the earlier one of two searches for the term has failed
    have hsub := List.duplicate_iff_sublist.1 ht
    rw [← hfst] at hsub
    obtain ⟨pair, hpair, hmap⟩ := List.sublist_map_iff.1 hsub
    match pair, hmap with
    | [(_, answer), (_, _)], rfl =>
      obtain rfl : answer = none := by simpa using h.again.sublist hpair
      have := honce t (hpair.subset List.mem_cons_self)
      omega

end Traced

/-- Where the answers are those of a function, the failed searches are for the terms that it gives
no answer for. -/
theorem Traced.forall_failed_iff {cache : BugCache σ} {state : σ} {terms : List String}
    {m : Summarizer σ} (h : Traced cache state terms m) {find : String → Option Bugs}
    (hcache : cache.Answers find) (hm : m.Recalls find) :
    (∀ t, (t, none) ∈ cache.searches state m.asked → terms.count t ≤ 1) ↔
      ∀ t, find t = none → terms.count t ≤ 1 := by
  refine ⟨fun honce t hfind => ?_, fun honce t hfailed => ?_⟩
  · by_cases hasked : t ∈ m.asked
    · rw [← cache.map_fst_searches state m.asked] at hasked
      obtain ⟨⟨_, answer⟩, hx, rfl⟩ := List.mem_map.1 hasked
      obtain ⟨-, s, hsearch⟩ := BugCache.exists_search hx
      rw [hcache, hfind] at hsearch
      exact honce _ (hsearch ▸ hx)
    · have hknown : m.known.lookup t = none := by
        by_contra hknown
        obtain ⟨bugs, hbugs⟩ := Option.ne_none_iff_exists'.1 hknown
        exact nomatch hfind.symm.trans (hm t bugs hbugs)
      rw [← h.count_eq t hknown, List.count_eq_zero_of_not_mem hasked]
      exact Nat.zero_le 1
  · obtain ⟨-, s, hsearch⟩ := BugCache.exists_search hfailed
    exact honce t ((hcache s t).symm.trans hsearch)

/-! ### The searches for a log -/

theorem traced_suggestAll (cache : BugCache σ) (state : σ) (errors : List ErrorLine) :
    Traced cache state ((start state).wantedAll cache errors)
      ((start state).suggestAll cache errors).2 := by
  have hafter := (traced_start cache state).after ((start state).wantedAll cache errors)
  rwa [List.nil_append, ← snd_suggestAll] at hafter

/-- **When each term is searched for once.** The cache has seen the searches that are recorded and
no others, and these are for the terms that are wanted. A term is searched for again only where the
search has failed; so the searches for the first `count` errors are for different terms exactly
where no term of a failed search is wanted again, and always if no search fails. Where the answers
do not depend on the state of the cache, the terms that are wanted depend on the errors alone. -/
theorem nodup_asked_iff (cache : BugCache σ) (state : σ) (count : Nat) (errors : List ErrorLine) :
    let m := ((start state).summarize cache count errors).2
    let searches := cache.searches state m.asked
    let wanted := (start state).wantedAll cache (errors.take count)
    m.state = cache.after state m.asked ∧
    (∀ term, term ∈ m.asked ↔ term ∈ wanted) ∧
    searches.Pairwise (fun x y => x.1 = y.1 → x.2 = none) ∧
    (m.asked.Nodup ↔ ∀ term, (term, none) ∈ searches → wanted.count term ≤ 1) ∧
    ((∀ s term, (cache.search s term).1 ≠ none) → m.asked.Nodup) ∧
    ∀ find, cache.Answers find →
      (m.asked.Nodup ↔ ∀ term, find term = none →
        ((errors.take count).flatMap (wantedBy find)).count term ≤ 1) := by
  intro m searches wanted
  have h : Traced cache state wanted m := traced_suggestAll cache state (errors.take count)
  refine ⟨h.state_eq, fun _ => h.mem_asked_iff, h.again, h.nodup_iff, fun hanswers => ?_,
    fun find hcache => ?_⟩
  · refine h.nodup_iff.2 fun term hfailed => ?_
    obtain ⟨-, s, hsearch⟩ := BugCache.exists_search hfailed
    exact absurd hsearch (hanswers s term)
  · have hrecalls := (suggestAll_recalls hcache (recalls_start find state) (errors.take count)).2
    rw [← wantedAll_of_answers hcache (recalls_start find state)]
    exact h.nodup_iff.trans (h.forall_failed_iff hcache hrecalls)

/-- A cache that is down. -/
def downBugs : BugCache Unit := .inMemory .empty fun _ => true

/-- Two failures of one test. -/
def brokenErrors : List ErrorLine := [
  ⟨1, "TEST-UNEXPECTED-FAIL | a/broken.js | timed out"⟩,
  ⟨2, "TEST-UNEXPECTED-FAIL | a/broken.js | leaked"⟩]

/-- While the cache is down, the name of the test is searched for with each failure. -/
theorem asked_twice_while_down :
    ((start ()).summarize downBugs 200 brokenErrors).2.asked = ["broken.js", "broken.js"] ∧
      ¬ ((start ()).summarize downBugs 200 brokenErrors).2.asked.Nodup := by
  have hasked : ((start ()).summarize downBugs 200 brokenErrors).2.asked =
      ["broken.js", "broken.js"] := by
    decide +kernel
  exact ⟨hasked, by rw [hasked]; decide⟩

end Summarizer
end JobLog
