import JobLog.Proofs.Json.Shape

/-!
# What the fields of an object hold

The fields of a record that is read, told by what their values stand for.

* `Reads` says that a reader finds in a value what it stands for.
* `Holds` is a field that must be there, `MayHold` one that may be missing or null.
  `Reads.bind_eq_some_iff` and `Reads.elim_eq_some_iff` say that the reader finds what they hold.
-/

namespace JobLog.Json

section

variable {α : Type} {read? : Json → Option α} {p : Json → α → Prop} {v? : Option Json}

/-- The reader finds in a value, once it is in order, what it stands for. -/
def Reads (read? : Json → Option α) (p : Json → α → Prop) : Prop :=
  ∀ v a, read? v.canonical = some a ↔ p v a

/-- The field is there, and its value stands for `a`. -/
def Holds (p : Json → α → Prop) (v? : Option Json) (a : α) : Prop := ∃ v, v? = some v ∧ p v a

/-- The field is missing or null, or its value stands for what it holds. -/
inductive MayHold (p : Json → α → Prop) (v? : Option Json) : Option α → Prop
  | void (h : IsVoid v?) : MayHold p v? none
  | value {v : Json} {a : α} (hv : v? = some v) (hne : v ≠ .null) (h : p v a) :
      MayHold p v? (some a)

theorem canonical_eq_null_iff {v : Json} : v.canonical = .null ↔ v = .null := by
  cases v with
  | arr | obj => exact ⟨nofun, nofun⟩
  | null | bool | num | str => exact Iff.rfl

theorem canonical_eq_str_iff {v : Json} {s : String} : v.canonical = .str s ↔ v = .str s := by
  cases v with
  | arr | obj => exact ⟨nofun, nofun⟩
  | null | bool | num | str => exact Iff.rfl

/-- A field that must be there can be read where it holds something. -/
theorem Reads.bind_eq_some_iff (h : Reads read? p) {a : α} :
    (v?.map canonical).bind read? = some a ↔ Holds p v? a := by
  cases v? with
  | none => exact ⟨nofun, fun ⟨_, hv, _⟩ => nomatch hv⟩
  | some v =>
    refine (h v a).trans ⟨fun hp => ⟨v, rfl, hp⟩, ?_⟩
    rintro ⟨w, hw, hp⟩
    obtain rfl := Option.some.inj hw
    exact hp

/-- A field that need not be there can be read where it is void or holds something. -/
theorem Reads.elim_eq_some_iff (h : Reads read? p) {a? : Option α} :
    (v?.map canonical).elim (some none) (nullable? read?) = some a? ↔ MayHold p v? a? := by
  cases v? with
  | none =>
    constructor
    · intro heq
      obtain rfl := Option.some.inj heq
      exact .void (.inl rfl)
    · rintro (⟨-⟩ | ⟨hv, -, -⟩)
      · rfl
      · exact nomatch hv
  | some v =>
    by_cases hnull : v = .null
    · subst hnull
      constructor
      · intro heq
        obtain rfl := Option.some.inj heq
        exact .void (.inr rfl)
      · rintro (⟨-⟩ | ⟨hv, hne, -⟩)
        · rfl
        · exact absurd (Option.some.inj hv).symm hne
    · rw [Option.map_some, Option.elim_some, nullable?_of_ne (mt canonical_eq_null_iff.1 hnull)]
      constructor
      · intro heq
        obtain ⟨a, ha, rfl⟩ := Option.map_eq_some_iff.1 heq
        exact .value rfl hnull ((h v a).1 ha)
      · rintro (⟨hvoid | hvoid⟩ | ⟨hv, -, hp⟩)
        · exact nomatch hvoid
        · exact absurd (Option.some.inj hvoid) hnull
        · obtain rfl := Option.some.inj hv
          rw [(h v _).2 hp]
          rfl

end

/-- The value is a text. -/
def IsText (v : Json) (s : String) : Prop := v = .str s

/-- The value, put in order. -/
def IsOrdered (v w : Json) : Prop := w = v.canonical

theorem reads_text? : Reads text? IsText := by
  intro v s
  refine Iff.trans ?_ canonical_eq_str_iff
  cases v.canonical with
  | str t =>
    exact ⟨fun h => congrArg Json.str (Option.some.inj h), fun h => congrArg some (Json.str.inj h)⟩
  | null | bool | num | arr | obj => exact ⟨nofun, nofun⟩

theorem reads_canonical : Reads (fun v => some v.canonical) IsOrdered := by
  intro v w
  show some v.canonical.canonical = some w ↔ _
  rw [isCanonical_canonical v, Option.some.injEq]
  exact eq_comm

end JobLog.Json
