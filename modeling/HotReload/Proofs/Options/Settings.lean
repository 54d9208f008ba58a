/-
# What the members of an object set

An option is set by a member with its key whose value writes a boolean or a
string, as the option asks for. What a list of members sets is told for every
option apart, by the values that are given for its key: none of them, or exactly
one. The order of the members and the members with other keys do not come into
it.

Key definitions: `OptionName.value?`, `Member`, `valuesOf`, `Gain`,
`Settings.Gains`.
Key theorems: `OptionName.readValue_append`, `Settings.gains_cons_iff`,
`Settings.gains_option_iff`.
-/
import HotReload.Options
import HotReload.Proofs.Json.Values

namespace HotReload

open Json

variable {text rest v : List Char}

/-! ### Booleans and strings -/

namespace Json

/-- Whether an option may have the value. -/
def Found.isOption : Found → Bool
  | .boolean _ => true
  | .string _ => true
  | _ => false

end Json

/-- A boolean or a string is read from what writes it. -/
theorem exists_of_readFound {found : Found} (h : readFound text = .ok (found, rest))
    (hfound : found.isOption = true) : ∃ v, Writes found v ∧ text = v ++ rest := by
  unfold readFound at h
  split at h
  · cases h
  · obtain ⟨_, -, heq⟩ := map_eq_ok_iff.mp h
    cases heq
    cases hfound
  · obtain ⟨_, hword, heq⟩ := map_eq_ok_iff.mp h
    cases heq
    exact ⟨_, .boolean true, (readWord_eq_ok_iff _).mp hword⟩
  · obtain ⟨_, hword, heq⟩ := map_eq_ok_iff.mp h
    cases heq
    exact ⟨_, .boolean false, (readWord_eq_ok_iff _).mp hword⟩
  · obtain ⟨⟨s, rest'⟩, hstring, heq⟩ := map_eq_ok_iff.mp h
    cases heq
    obtain ⟨body, hbody, rfl⟩ := readString_eq_ok_iff.mp hstring
    exact ⟨_, .string hbody, by simp⟩
  · cases h
    cases hfound
  · cases h
    cases hfound
  · split at h
    · have hnumber := readsNumber_readNumber
      rename_i c text _ _ _ _ _ _ _
      specialize hnumber (c :: text)
      rw [h] at hnumber
      cases hnumber <;> cases hfound
    · cases h

theorem Json.Writes.read {found : Found} (h : Writes found v) (rest : List Char) :
    readFound (v ++ rest) = .ok (found, rest) := by
  cases h with
  | boolean value => cases value <;> rfl
  | string h =>
    rw [List.cons_append, List.append_assoc, readFound]
    show (readString _).map _ = _
    rw [List.singleton_append, h.read]
    rfl

/-- Where a boolean or a string may stand, space may stand before it. -/
theorem readFound_skipBlanks_eq_ok_iff {found : Found} (hfound : found.isOption = true) :
    readFound (skipBlanks text) = .ok (found, rest) ↔
      ∃ gap v, IsSpace gap ∧ Writes found v ∧ text = gap ++ (v ++ rest) := by
  constructor
  · intro h
    obtain ⟨gap, hgap, htext⟩ := exists_space text
    obtain ⟨v, hv, hrest⟩ := exists_of_readFound h hfound
    exact ⟨gap, v, hgap, hv, by rw [← hrest]; exact htext⟩
  · rintro ⟨gap, v, hgap, hv, rfl⟩
    rw [skipBlanks_append hgap, (IsValue.scalar hv.isScalar).skipBlanks, hv.read]

theorem readBoolean_eq_ok_iff {value : Bool} :
    readBoolean text = .ok (value, rest) ↔
      readFound (skipBlanks text) = .ok (.boolean value, rest) := by
  rw [readBoolean]
  rcases readFound (skipBlanks text) with fault | ⟨found, rest'⟩
  · simp [Except.bind]
  · cases found <;> simp [Except.bind]

theorem readText_eq_ok_iff {value : String} :
    readText text = .ok (value, rest) ↔
      readFound (skipBlanks text) = .ok (.string value, rest) := by
  rw [readText]
  rcases readFound (skipBlanks text) with fault | ⟨found, rest'⟩
  · simp [Except.bind]
  · cases found <;> simp [Except.bind]

/-! ### Settings as values of the options -/

namespace OptionName

/-- The value that is set for an option. -/
def value? (s : Settings) : OptionName → Option Found
  | quiet => s.quiet.map .boolean
  | container => s.container.map .string
  | disableModel => s.disableModel.map .boolean

/-- The value of an option. -/
def valueIn (o : Options) : OptionName → Found
  | quiet => .boolean o.quiet
  | container => .string o.container
  | disableModel => .boolean o.disableModel

theorem value?_none (name : OptionName) : name.value? .none = none := by
  cases name <;> rfl

theorem isSet_eq (s : Settings) (name : OptionName) : name.isSet s = (name.value? s).isSome := by
  cases name <;> simp [isSet, value?]

/-- An option that is not set keeps its standard value. -/
theorem valueIn_apply (s : Settings) (name : OptionName) :
    name.valueIn s.apply = (name.value? s).getD (name.valueIn .standard) := by
  rcases s with ⟨quiet, container, disableModel⟩
  cases name with
  | quiet => cases quiet <;> rfl
  | container => cases container <;> rfl
  | disableModel => cases disableModel <;> rfl

theorem key_inj {name other : OptionName} : name.key = other.key ↔ name = other := by
  constructor
  · intro h
    cases name <;> cases other <;> first | rfl | exact absurd h (by decide)
  · rintro rfl
    rfl

theorem ofKey?_eq_some_iff {k : String} {name : OptionName} :
    ofKey? k = some name ↔ k = name.key := by
  constructor
  · intro h
    have hkey := List.find?_some h
    exact (beq_iff_eq.mp hkey).symm
  · rintro rfl
    cases name <;> decide

theorem ofKey?_eq_none_iff {k : String} : ofKey? k = none ↔ ∀ name : OptionName, k ≠ name.key := by
  constructor
  · intro h name hname
    rw [ofKey?_eq_some_iff.mpr hname] at h
    cases h
  · intro h
    rw [Option.eq_none_iff_forall_ne_some]
    intro name hname
    exact h name (ofKey?_eq_some_iff.mp hname)

end OptionName

theorem Settings.ext_value? {s s' : Settings}
    (h : ∀ name : OptionName, name.value? s = name.value? s') : s = s' := by
  rcases s with ⟨quiet, container, disableModel⟩
  rcases s' with ⟨quiet', container', disableModel'⟩
  have hquiet : quiet.map Found.boolean = quiet'.map Found.boolean := h .quiet
  have hcontainer : container.map Found.string = container'.map Found.string := h .container
  have hmodel : disableModel.map Found.boolean = disableModel'.map Found.boolean := h .disableModel
  have hboolean : Function.Injective Found.boolean := fun _ _ => Found.boolean.inj
  have hstring : Function.Injective Found.string := fun _ _ => Found.string.inj
  rw [Option.map_injective hboolean hquiet, Option.map_injective hstring hcontainer,
    Option.map_injective hboolean hmodel]

theorem Options.ext_valueIn {o o' : Options}
    (h : ∀ name : OptionName, name.valueIn o = name.valueIn o') : o = o' := by
  rcases o with ⟨quiet, container, disableModel⟩
  rcases o' with ⟨quiet', container', disableModel'⟩
  have hquiet := h .quiet
  have hcontainer := h .container
  have hmodel := h .disableModel
  simp only [OptionName.valueIn, Found.boolean.injEq, Found.string.injEq]
    at hquiet hcontainer hmodel
  rw [hquiet, hcontainer, hmodel]

/-- The settings that agree with the second ones on some options and with the
first ones on the others. -/
def Settings.merge (p : OptionName → Bool) (s s' : Settings) : Settings :=
  ⟨if p .quiet then s'.quiet else s.quiet, if p .container then s'.container else s.container,
    if p .disableModel then s'.disableModel else s.disableModel⟩

theorem Settings.value?_merge (p : OptionName → Bool) (s s' : Settings) (name : OptionName) :
    name.value? (merge p s s') = if p name then name.value? s' else name.value? s := by
  cases name with
  | quiet => cases h : p .quiet <;> simp [merge, OptionName.value?, h]
  | container => cases h : p .container <;> simp [merge, OptionName.value?, h]
  | disableModel => cases h : p .disableModel <;> simp [merge, OptionName.value?, h]

/-- The settings that set every option. -/
def Options.settings (o : Options) : Settings :=
  ⟨some o.quiet, some o.container, some o.disableModel⟩

theorem Options.value?_settings (o : Options) (name : OptionName) :
    name.value? o.settings = some (name.valueIn o) := by
  cases name <;> rfl

/-! ### Reading the value of an option -/

/-- The second settings differ from the first ones in that the option has the
value. -/
structure Settings.Sets (s : Settings) (name : OptionName) (found : Found) (s' : Settings) :
    Prop where
  value : name.value? s' = some found
  others : ∀ other : OptionName, other ≠ name → other.value? s' = other.value? s

theorem Settings.Sets.unique {s s₁ s₂ : Settings} {name : OptionName} {found : Found}
    (h₁ : s.Sets name found s₁) (h₂ : s.Sets name found s₂) : s₁ = s₂ := by
  apply Settings.ext_value?
  intro other
  by_cases hother : other = name
  · rw [hother, h₁.value, h₂.value]
  · rw [h₁.others other hother, h₂.others other hother]

/-- A value is read for an option if the option is then set to what is written;
`wrap` tells the kind of value, and `put` where it is kept. -/
theorem map_put_eq_ok_iff {α : Type} {read : List Char → Reading α} (wrap : α → Found)
    (put : α → Settings) {s s' : Settings} {name : OptionName}
    (hread : ∀ value, read text = .ok (value, rest) ↔
      readFound (skipBlanks text) = .ok (wrap value, rest))
    (hwrap : ∀ value, (wrap value).isOption = true)
    (hput : ∀ value, s.Sets name (wrap value) (put value))
    (hvalue : ∀ found, name.value? s' = some found → ∃ value, wrap value = found) :
    (read text).map (fun p => (put p.1, p.2)) = .ok (s', rest) ↔
      ∃ found gap v, IsSpace gap ∧ Writes found v ∧ text = gap ++ (v ++ rest) ∧
        s.Sets name found s' := by
  constructor
  · intro h
    obtain ⟨⟨value, rest'⟩, hok, heq⟩ := map_eq_ok_iff.mp h
    cases heq
    obtain ⟨gap, v, hgap, hv, htext⟩ :=
      (readFound_skipBlanks_eq_ok_iff (hwrap value)).mp ((hread value).mp hok)
    exact ⟨_, gap, v, hgap, hv, htext, hput value⟩
  · rintro ⟨found, gap, v, hgap, hv, htext, hsets⟩
    obtain ⟨value, rfl⟩ := hvalue found hsets.value
    have hfound : readFound (skipBlanks text) = .ok (wrap value, rest) :=
      (readFound_skipBlanks_eq_ok_iff (hwrap value)).mpr ⟨gap, v, hgap, hv, htext⟩
    rw [(hread value).mpr hfound, ← (hput value).unique hsets]
    rfl

theorem OptionName.readValue_eq_ok_iff {s s' : Settings} {name : OptionName} :
    name.readValue s text = .ok (s', rest) ↔
      ∃ found gap v, IsSpace gap ∧ Writes found v ∧ text = gap ++ (v ++ rest) ∧
        s.Sets name found s' := by
  cases name with
  | quiet =>
    refine map_put_eq_ok_iff Found.boolean (fun value => { s with quiet := some value })
      (fun _ => readBoolean_eq_ok_iff) (fun _ => rfl) (fun value => ⟨rfl, ?_⟩) ?_
    · rintro (_ | _ | _) hother <;> first | rfl | exact absurd rfl hother
    · intro found hfound
      obtain ⟨value, -, hvalue⟩ := Option.map_eq_some_iff.mp hfound
      exact ⟨value, hvalue⟩
  | container =>
    refine map_put_eq_ok_iff Found.string (fun value => { s with container := some value })
      (fun _ => readText_eq_ok_iff) (fun _ => rfl) (fun value => ⟨rfl, ?_⟩) ?_
    · rintro (_ | _ | _) hother <;> first | rfl | exact absurd rfl hother
    · intro found hfound
      obtain ⟨value, -, hvalue⟩ := Option.map_eq_some_iff.mp hfound
      exact ⟨value, hvalue⟩
  | disableModel =>
    refine map_put_eq_ok_iff Found.boolean (fun value => { s with disableModel := some value })
      (fun _ => readBoolean_eq_ok_iff) (fun _ => rfl) (fun value => ⟨rfl, ?_⟩) ?_
    · rintro (_ | _ | _) hother <;> first | rfl | exact absurd rfl hother
    · intro found hfound
      obtain ⟨value, -, hvalue⟩ := Option.map_eq_some_iff.mp hfound
      exact ⟨value, hvalue⟩

/-- Where a value stands, an option is read exactly if the value is one for it. -/
theorem OptionName.readValue_append {s s' : Settings} {name : OptionName} {gap rest' : List Char}
    (hgap : IsSpace gap) (hv : IsValue v) (hrest : Delimits rest) :
    name.readValue s (gap ++ (v ++ rest)) = .ok (s', rest') ↔
      rest' = rest ∧ ∃ found, Writes found v ∧ s.Sets name found s' := by
  rw [readValue_eq_ok_iff]
  constructor
  · rintro ⟨found, gap', v', hgap', hv', htext, hsets⟩
    have heq : v' ++ rest' = v ++ rest := by
      have hskip := congrArg skipBlanks htext
      rw [skipBlanks_append hgap, skipBlanks_append hgap', hv.skipBlanks,
        (IsValue.scalar hv'.isScalar).skipBlanks] at hskip
      exact hskip.symm
    obtain ⟨rfl, rfl⟩ := hv'.eq_of_append hv hrest heq
    exact ⟨rfl, found, hv', hsets⟩
  · rintro ⟨rfl, found, hfound, hsets⟩
    exact ⟨found, gap, v, hgap, hfound, rfl, hsets⟩

/-! ### What a list of members sets -/

/-- A member of an object: its key and the text of its value. -/
structure Member where
  key : String
  value : List Char
deriving DecidableEq

/-- The values that are given for an option. -/
def valuesOf (name : OptionName) (members : List Member) : List (List Char) :=
  (members.filter fun m => m.key == name.key).map Member.value

@[simp] theorem valuesOf_nil (name : OptionName) : valuesOf name [] = [] := rfl

theorem valuesOf_cons (name : OptionName) (m : Member) (members : List Member) :
    valuesOf name (m :: members) =
      if m.key = name.key then m.value :: valuesOf name members else valuesOf name members := by
  by_cases h : m.key = name.key <;> simp [valuesOf, h]

/-- What the values given for an option make of its setting: without one it stays,
and one sets what was not set. Two or more have no result. -/
inductive Gain : List (List Char) → Option Found → Option Found → Prop
  | keep (old : Option Found) : Gain [] old old
  | set {found : Found} {v : List Char} (h : Writes found v) : Gain [v] none (some found)

/-- The members turn the first settings into the second ones. -/
def Settings.Gains (s : Settings) (members : List Member) (s' : Settings) : Prop :=
  ∀ name : OptionName, Gain (valuesOf name members) (name.value? s) (name.value? s')

theorem gain_nil_iff {old new : Option Found} : Gain [] old new ↔ new = old := by
  constructor
  · rintro ⟨⟩
    rfl
  · rintro rfl
    exact .keep new

theorem Settings.gains_nil_iff {s s' : Settings} : s.Gains [] s' ↔ s' = s := by
  constructor
  · intro h
    exact Settings.ext_value? fun name => gain_nil_iff.mp (h name)
  · rintro rfl name
    exact .keep _

/-- A value that is given leaves room for no other one. -/
theorem gain_cons_iff {v : List Char} {values : List (List Char)} {old new : Option Found} :
    Gain (v :: values) old new ↔ values = [] ∧ Gain [v] old new := by
  constructor
  · rintro ⟨⟩
    exact ⟨rfl, .set ‹_›⟩
  · rintro ⟨rfl, h⟩
    exact h

/-- An option that is set gains nothing. -/
theorem gain_some_iff {values : List (List Char)} {found : Found} {new : Option Found} :
    Gain values (some found) new ↔ values = [] ∧ new = some found := by
  constructor
  · rintro ⟨⟩
    exact ⟨rfl, rfl⟩
  · rintro ⟨rfl, rfl⟩
    exact .keep _

/-- One value is a gain where nothing was set. -/
theorem gain_singleton_iff {v : List Char} {old new : Option Found} :
    Gain [v] old new ↔ old = none ∧ ∃ found, Writes found v ∧ new = some found := by
  constructor
  · rintro ⟨⟩
    exact ⟨rfl, _, ‹_›, rfl⟩
  · rintro ⟨rfl, found, h, rfl⟩
    exact .set h

/-- Members are taken one after the other. -/
theorem Settings.gains_cons_iff {s s' : Settings} {m : Member} {members : List Member} :
    s.Gains (m :: members) s' ↔ ∃ s₁, s.Gains [m] s₁ ∧ s₁.Gains members s' := by
  constructor
  · intro h
    -- in between, the option that the member names has its last value already
    refine ⟨merge (fun name => m.key == name.key) s s', ?_, ?_⟩
    · intro name
      have hname := h name
      rw [valuesOf_cons] at hname ⊢
      rw [value?_merge]
      by_cases hkey : m.key = name.key
      · simp only [hkey, beq_self_eq_true, if_true] at hname ⊢
        exact (gain_cons_iff.mp hname).2
      · simp only [hkey, beq_iff_eq, if_false]
        exact .keep _
    · intro name
      have hname := h name
      rw [valuesOf_cons] at hname
      rw [value?_merge]
      by_cases hkey : m.key = name.key
      · simp only [hkey, beq_self_eq_true, if_true] at hname ⊢
        rw [(gain_cons_iff.mp hname).1]
        exact .keep _
      · simpa only [hkey, beq_iff_eq, if_false] using hname
  · rintro ⟨s₁, hfirst, hothers⟩ name
    have hm := hfirst name
    have hmembers := hothers name
    rw [valuesOf_cons] at hm ⊢
    by_cases hkey : m.key = name.key
    · simp only [hkey, if_true, valuesOf_nil] at hm ⊢
      obtain ⟨-, found, -, hset⟩ := gain_singleton_iff.mp hm
      rw [hset, gain_some_iff] at hmembers
      rw [gain_cons_iff, hmembers.2, ← hset]
      exact ⟨hmembers.1, hm⟩
    · simp only [hkey, if_false, valuesOf_nil] at hm ⊢
      rw [gain_nil_iff.mp hm] at hmembers
      exact hmembers

/-- A member with another key sets nothing. -/
theorem Settings.gains_other_iff {s s' : Settings} {m : Member}
    (h : ∀ name : OptionName, m.key ≠ name.key) : s.Gains [m] s' ↔ s' = s := by
  rw [← gains_nil_iff]
  simp only [Gains, valuesOf_cons, h, if_false]

/-- A member with the key of an option sets it if it was not set and the value is
one for it. -/
theorem Settings.gains_option_iff {s s' : Settings} {m : Member} {name : OptionName}
    (h : m.key = name.key) :
    s.Gains [m] s' ↔
      name.value? s = Option.none ∧ ∃ found, Writes found m.value ∧ s.Sets name found s' := by
  have hkeys : ∀ other : OptionName, m.key = other.key ↔ other = name := by
    intro other
    rw [h, OptionName.key_inj, eq_comm]
  constructor
  · intro hgains
    have hname := hgains name
    rw [valuesOf_cons, if_pos h, valuesOf_nil, gain_singleton_iff] at hname
    obtain ⟨hnone, found, hfound, hset⟩ := hname
    refine ⟨hnone, found, hfound, hset, ?_⟩
    intro other hother
    have hkeep := hgains other
    rw [valuesOf_cons, if_neg (mt (hkeys other).mp hother), valuesOf_nil, gain_nil_iff] at hkeep
    exact hkeep
  · rintro ⟨hnone, found, hfound, hsets⟩ other
    rw [valuesOf_cons, valuesOf_nil]
    by_cases hother : other = name
    · rw [if_pos ((hkeys other).mpr hother), hother, hnone, hsets.value]
      exact .set hfound
    · rw [if_neg (mt (hkeys other).mp hother), hsets.others other hother]
      exact .keep _

end HotReload
