import JobLog.Json.Written
import JobLog.Proofs.Json.Canonical

/-!
# What is read from a text

* `Written.Fits` holds of a written value whose whole numbers fit a word of 64 bits.
  `Reading.fits_of_after?` says that one token keeps it, `Written.fits_of_ofText?` that every text
  does, and `int_lt_of_ofTextIn?` what this means for the fields of an object.
* `ofText?_eq_map_canonical`: the value of a text is what is written there, put in order.
  `Fields.get?_canonical` says that of repeated keys the last one counts (`Fields.last?`).
-/

namespace JobLog

/-- A whole number fits a word of 64 bits. -/
def Number.Fits : Number → Prop
  | .int n => n < Text.wordBound
  | .float _ => True

namespace Json

/-! ### The numbers of a text -/

theorem Numeral.lt_of_integer? {u : Numeral} {n : Int} (h : u.integer? = some n) :
    n < Text.wordBound := by
  unfold Numeral.integer? at h
  have hpositive : (0 : Int) < Text.wordBound := by decide
  dsimp only at h
  split at h
  case isTrue => exact nomatch h
  case isFalse =>
    split at h
    case isTrue =>
      split at h
      case isTrue =>
        obtain rfl := Option.some.inj h
        omega
      case isFalse => exact nomatch h
    case isFalse =>
      split at h
      case isTrue hlt =>
        obtain rfl := Option.some.inj h
        exact_mod_cast hlt
      case isFalse => exact nomatch h

theorem Numeral.fits_of_value? {u : Numeral} {n : Number} (h : u.value? = some n) : n.Fits := by
  unfold Numeral.value? at h
  split at h
  case h_1 m hm =>
    obtain rfl := Option.some.inj h
    exact Numeral.lt_of_integer? hm
  case h_2 =>
    obtain ⟨x, -, rfl⟩ := Option.map_eq_some_iff.1 h
    trivial

/-- The number of the token, if it is one, fits. -/
def Token.Fits : Token → Prop
  | .num n? => ∀ n ∈ n?, n.Fits
  | _ => True

theorem Token.fits_of_ofMark? {c : Char} {t : Token} (h : Token.ofMark? c = some t) : t.Fits := by
  unfold Token.ofMark? at h
  split at h
  case h_7 => exact nomatch h
  all_goals
    obtain rfl := Option.some.inj h
    trivial

theorem Token.fits_of_ofWord? {w : List Char} {t : Token} (h : Token.ofWord? w = some t) :
    t.Fits := by
  unfold Token.ofWord? at h
  split_ifs at h
  · exact Option.some.inj h ▸ trivial
  · exact Option.some.inj h ▸ trivial
  · exact Option.some.inj h ▸ trivial
  · obtain ⟨u, -, rfl⟩ := Option.map_eq_some_iff.1 h
    exact fun n hn => Numeral.fits_of_value? hn

namespace Mode

theorem fits_of_begin? {c : Char} {ts : List Token} {m : Mode} (h : begin? c = some (ts, m)) :
    ∀ t ∈ ts, t.Fits := by
  unfold begin? at h
  split_ifs at h
  · obtain ⟨rfl, -⟩ := Prod.mk.inj (Option.some.inj h)
    exact List.forall_mem_nil _
  · obtain ⟨rfl, -⟩ := Prod.mk.inj (Option.some.inj h)
    exact List.forall_mem_nil _
  · split at h
    case h_1 t ht =>
      obtain ⟨rfl, -⟩ := Prod.mk.inj (Option.some.inj h)
      exact List.forall_mem_singleton.2 (Token.fits_of_ofMark? ht)
    case h_2 =>
      obtain ⟨rfl, -⟩ := Prod.mk.inj (Option.some.inj h)
      exact List.forall_mem_nil _

/-- The tokens that one character completes fit. -/
theorem fits_of_after? {m m' : Mode} {c : Char} {ts : List Token}
    (h : m.after? c = some (ts, m')) : ∀ t ∈ ts, t.Fits := by
  cases m with
  | between => exact fits_of_begin? h
  | word w =>
    rw [after?] at h
    split at h
    case isTrue =>
      obtain ⟨rfl, -⟩ := Prod.mk.inj (Option.some.inj h)
      exact List.forall_mem_nil _
    case isFalse =>
      obtain ⟨t, ht, h⟩ := Option.bind_eq_some_iff.1 h
      obtain ⟨⟨us, m⟩, hbegin, h⟩ := Option.bind_eq_some_iff.1 h
      obtain ⟨rfl, -⟩ := Prod.mk.inj (Option.some.inj h)
      exact List.forall_mem_cons.2 ⟨Token.fits_of_ofWord? ht, fits_of_begin? hbegin⟩
  | string s =>
    rw [after?] at h
    split at h
    case isTrue =>
      obtain ⟨rfl, -⟩ := Prod.mk.inj (Option.some.inj h)
      exact List.forall_mem_singleton.2 trivial
    case isFalse =>
      obtain ⟨s', -, heq⟩ := Option.map_eq_some_iff.1 h
      obtain ⟨rfl, -⟩ := Prod.mk.inj heq
      exact List.forall_mem_nil _

theorem fits_of_tokens? {m : Mode} {s : List Char} {ts : List Token} (h : m.tokens? s = some ts) :
    ∀ t ∈ ts, t.Fits := by
  induction s generalizing m ts with
  | nil =>
    cases m with
    | between =>
      obtain rfl := Option.some.inj h
      exact List.forall_mem_nil _
    | word w =>
      obtain ⟨t, ht, rfl⟩ := Option.map_eq_some_iff.1 h
      exact List.forall_mem_singleton.2 (Token.fits_of_ofWord? ht)
    | string s => exact nomatch h
  | cons c s ih =>
    obtain ⟨⟨us, m'⟩, hstep, h⟩ := Option.bind_eq_some_iff.1 h
    obtain ⟨rest, hrest, h⟩ := Option.bind_eq_some_iff.1 h
    obtain rfl := Option.some.inj h
    exact List.forall_mem_append.2 ⟨fits_of_after? hstep, ih hrest⟩

end Mode

/-! ### Values -/

/-- All whole numbers in the value fit. -/
inductive Written.Fits : Written → Prop
  | null : Fits .null
  | bool (b : Bool) : Fits (.bool b)
  | num {n? : Option Number} (h : ∀ n ∈ n?, n.Fits) : Fits (.num n?)
  | str (s? : Option String) : Fits (.str s?)
  | arr {items : List Written} (h : ∀ w ∈ items, Fits w) : Fits (.arr items)
  | obj {fields : List (Option String × Written)} (h : ∀ f ∈ fields, Fits f.2) : Fits (.obj fields)

/-- All whole numbers in the parts of the container fit. -/
def Frame.Fits : Frame → Prop
  | .list items => ∀ w ∈ items, w.Fits
  | .object fields _ => ∀ f ∈ fields, f.2.Fits

theorem Frame.fits_list_nil : Frame.Fits (.list []) := List.forall_mem_nil _

/-- All whole numbers that were read fit. -/
def Reading.Fits : Reading → Prop
  | .value frames | .firstItem frames | .firstKey frames => ∀ f ∈ frames, f.Fits
  | .key fields frames | .colon fields _ frames =>
    (∀ f ∈ fields, f.2.Fits) ∧ ∀ f ∈ frames, f.Fits
  | .behind v frames => v.Fits ∧ ∀ f ∈ frames, f.Fits

namespace Reading

theorem fits_start : Reading.Fits (.value []) := List.forall_mem_nil _

theorem fits_of_ofValue? {frames : List Frame} {t : Token} {r : Reading}
    (hframes : ∀ f ∈ frames, f.Fits) (ht : t.Fits) (h : ofValue? frames t = some r) : r.Fits := by
  cases t with
  | null => exact Option.some.inj h ▸ ⟨.null, hframes⟩
  | bool b => exact Option.some.inj h ▸ ⟨.bool b, hframes⟩
  | num n? => exact Option.some.inj h ▸ ⟨.num ht, hframes⟩
  | str s? => exact Option.some.inj h ▸ ⟨.str s?, hframes⟩
  | openList | openObject => exact Option.some.inj h ▸ hframes
  | closeList | closeObject | comma | colon => exact nomatch h

theorem fits_of_ofBehind? {v : Written} {frames : List Frame} {t : Token} {r : Reading}
    (hv : v.Fits) (hframes : ∀ f ∈ frames, f.Fits) (h : ofBehind? v frames t = some r) :
    r.Fits := by
  unfold ofBehind? at h
  split at h
  case h_1 items frames =>
    obtain ⟨hitems, hframes⟩ := List.forall_mem_cons.1 hframes
    exact Option.some.inj h ▸
      List.forall_mem_cons.2 ⟨List.forall_mem_cons.2 ⟨hv, hitems⟩, hframes⟩
  case h_2 items frames =>
    obtain ⟨hitems, hframes⟩ := List.forall_mem_cons.1 hframes
    refine Option.some.inj h ▸ ⟨.arr fun w hw => ?_, hframes⟩
    exact List.forall_mem_cons.2 ⟨hv, hitems⟩ w (List.mem_reverse.1 hw)
  case h_3 fields k frames =>
    obtain ⟨hfields, hframes⟩ := List.forall_mem_cons.1 hframes
    exact Option.some.inj h ▸ ⟨List.forall_mem_cons.2 ⟨hv, hfields⟩, hframes⟩
  case h_4 fields k frames =>
    obtain ⟨hfields, hframes⟩ := List.forall_mem_cons.1 hframes
    have hall : ∀ f ∈ (k, v) :: fields, f.2.Fits := List.forall_mem_cons.2 ⟨hv, hfields⟩
    exact Option.some.inj h ▸ ⟨.obj fun f hf => hall f (List.mem_reverse.1 hf), hframes⟩
  case h_5 => exact nomatch h

/-- One more token leaves the numbers that were read in their range. -/
theorem fits_of_after? {r r' : Reading} {t : Token} (hr : r.Fits) (ht : t.Fits)
    (h : r.after? t = some r') : r'.Fits := by
  unfold after? at h
  split at h
  case h_1 => exact fits_of_ofValue? hr ht h
  case h_2 => exact Option.some.inj h ▸ ⟨.arr (List.forall_mem_nil _), hr⟩
  case h_3 => exact fits_of_ofValue? (List.forall_mem_cons.2 ⟨Frame.fits_list_nil, hr⟩) ht h
  case h_4 => exact Option.some.inj h ▸ ⟨.obj (List.forall_mem_nil _), hr⟩
  case h_5 => exact Option.some.inj h ▸ ⟨List.forall_mem_nil _, hr⟩
  case h_6 => exact Option.some.inj h ▸ hr
  case h_7 => exact Option.some.inj h ▸ List.forall_mem_cons.2 hr
  case h_8 => exact fits_of_ofBehind? hr.1 hr.2 h
  case h_9 => exact nomatch h

theorem fits_of_value? {r : Reading} {ts : List Token} {w : Written} (hr : r.Fits)
    (hts : ∀ t ∈ ts, t.Fits) (h : r.value? ts = some w) : w.Fits := by
  induction ts generalizing r with
  | nil =>
    unfold value? at h
    split at h
    case h_1 => exact Option.some.inj h ▸ hr.1
    case h_2 => exact nomatch h
    case h_3 heq => exact nomatch heq
  | cons t ts ih =>
    obtain ⟨ht, hts⟩ := List.forall_mem_cons.1 hts
    rw [value?] at h
    obtain ⟨r', hstep, hrest⟩ := Option.bind_eq_some_iff.1 h
    exact ih (fits_of_after? hr ht hstep) hts hrest

end Reading

/-- **All whole numbers of a text fit a word.** -/
theorem Written.fits_of_ofText? {s : List Char} {w : Written} (h : Written.ofText? s = some w) :
    w.Fits := by
  obtain ⟨ts, hts, hw⟩ := Option.bind_eq_some_iff.1 h
  exact Reading.fits_of_value? Reading.fits_start (Mode.fits_of_tokens? hts) hw

/-- The fields of an object of a text are values of what is written there. -/
theorem exists_value?_of_mem {room : Nat} {written : List (Option String × Written)}
    {fields : Fields} (h : fieldValues? room written = some fields) {f : String × Json}
    (hf : f ∈ fields) : ∃ w, (some f.1, w) ∈ written ∧ w.value? room = some f.2 := by
  induction written generalizing fields with
  | nil =>
    obtain rfl := Option.some.inj h
    exact nomatch hf
  | cons head rest ih =>
    obtain ⟨k, w⟩ := head
    rw [fieldValues?] at h
    obtain ⟨key, hkey, h⟩ := Option.bind_eq_some_iff.1 h
    obtain ⟨v, hv, h⟩ := Option.bind_eq_some_iff.1 h
    obtain ⟨vs, hvs, h⟩ := Option.bind_eq_some_iff.1 h
    obtain rfl := Option.some.inj h
    rcases List.mem_cons.1 hf with rfl | hf
    · exact ⟨w, hkey ▸ List.mem_cons_self .., hv⟩
    · obtain ⟨x, hx, hvalue⟩ := ih hvs hf
      exact ⟨x, List.mem_cons_of_mem _ hx, hvalue⟩

theorem Written.shaped?_whole (room : Nat) (w : Written) :
    w.shaped? room .whole = w.value? room := by
  cases w <;> rfl

theorem Written.eq_num_of_value? {room : Nat} {w : Written} {n : Number}
    (h : w.value? room = some (.num n)) : w = .num (some n) := by
  cases w with
  | num n? =>
    obtain ⟨m, rfl, heq⟩ := Option.map_eq_some_iff.1 h
    rw [Json.num.inj heq]
  | null | bool => exact nomatch h
  | str s? =>
    obtain ⟨s, -, heq⟩ := Option.map_eq_some_iff.1 h
    exact nomatch heq
  | arr items | obj fields =>
    rw [value?, Option.ite_none_left_eq_some] at h
    obtain ⟨-, h⟩ := h
    obtain ⟨parts, -, heq⟩ := Option.map_eq_some_iff.1 h
    exact nomatch heq

theorem Written.eq_obj_of_value? {room : Nat} {w : Written} {fields : Fields}
    (h : w.value? room = some (.obj fields)) :
    ∃ written, w = .obj written ∧ fieldValues? (room - 1) written = some fields := by
  cases w with
  | obj written =>
    rw [value?, Option.ite_none_left_eq_some] at h
    obtain ⟨-, h⟩ := h
    obtain ⟨values, hvalues, heq⟩ := Option.map_eq_some_iff.1 h
    exact ⟨written, rfl, Json.obj.inj heq ▸ hvalues⟩
  | null | bool => exact nomatch h
  | num n? | str s? =>
    obtain ⟨x, -, heq⟩ := Option.map_eq_some_iff.1 h
    exact nomatch heq
  | arr items =>
    rw [value?, Option.ite_none_left_eq_some] at h
    obtain ⟨-, h⟩ := h
    obtain ⟨parts, -, heq⟩ := Option.map_eq_some_iff.1 h
    exact nomatch heq

/-- A whole number that is a field of an object of a text fits a word. -/
theorem int_lt_of_ofTextIn? {s key : String} {fields : Fields} {n : Int}
    (h : ofTextIn? .whole s = some (.obj fields)) (hmem : (key, .num (.int n)) ∈ fields) :
    n < Text.wordBound := by
  obtain ⟨w, hw, hvalue⟩ := Option.bind_eq_some_iff.1 h
  rw [Written.shaped?_whole] at hvalue
  obtain ⟨written, rfl, hfields⟩ := Written.eq_obj_of_value? hvalue
  obtain ⟨x, hx, hnumber⟩ := exists_value?_of_mem hfields hmem
  cases Written.eq_num_of_value? hnumber
  cases Written.fits_of_ofText? hw with
  | obj hall =>
    cases hall _ hx with
    | num hn => exact hn _ rfl

/-! ### Repeated keys -/

/-- The value of a text is what is written there, put in order. -/
theorem ofText?_eq_map_canonical (s : String) :
    ofText? s = (ofTextIn? .whole s).map canonical := by
  simp only [ofText?, ofTextIn?, Written.shaped?_whole]

/-- The last value of a key. -/
def Fields.last? (key : String) (fields : Fields) : Option Json :=
  Fields.get? key fields.reverse

theorem Fields.get?_ofList (key : String) (fields : Fields) :
    (ofList fields).get? key = fields.last? key := by
  rw [get?, ofList_eq_keyed, Keyed.lookup_insertAll, List.lookup_nil, Option.or_none]
  rfl

theorem Fields.get?_map (f : Json → Json) (key : String) (fields : Fields) :
    Fields.get? key (fields.map fun x => (x.1, f x.2)) = (fields.get? key).map f := by
  induction fields with
  | nil => rfl
  | cons x rest ih =>
    rw [List.map_cons, get?_cons, ih, ← Prod.mk.eta (p := x), get?_cons]
    split <;> rfl

/-- Of repeated keys the last one counts. -/
theorem Fields.get?_canonical (key : String) (fields : Fields) :
    (ofList (canonicalFields fields)).get? key = (fields.last? key).map canonical := by
  rw [get?_ofList, canonicalFields_eq_map, last?, ← List.map_reverse, get?_map]
  rfl

end Json
end JobLog
