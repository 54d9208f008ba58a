/-
# Reading the members of an object and the entries of a list

A text that goes on as members and a closing brace is read up to that brace, and
the members set what they may set; it is read from no other text. The same holds
of the entries of a list, where the place of an entry tells its option.

Key definitions: `Member.IsWritten`, `AreMembers`, `AreEntries`, `inOrder`.
Key theorems: `exists_of_readObject`, `readObject_append`,
`exists_of_readEntries`, `readEntries_append`.
-/
import Mathlib.Data.List.Forall2
import HotReload.Proofs.Options.Settings

namespace HotReload

open Json

variable {text rest rest' inner : List Char} {s s' : Settings}

/-! ### What stands between brackets -/

/-- The parts spell the key of the member in full and write a value. -/
structure Member.IsWritten (m : Member) (p : Part) : Prop where
  spaced : p.IsSpaced
  key : Spells p.body m.key.toList
  value : p.value = m.value
  isValue : IsValue m.value

/-- A member may be written without space, its key as it is. -/
theorem Member.isWritten_self {m : Member} (hv : IsValue m.value)
    (h : m.key.toList.all isPlain = true) : m.IsWritten ⟨m.key.toList, [], [], m.value⟩ :=
  ⟨⟨isSpace_nil, isSpace_nil⟩, spells_self h, rfl, hv⟩

/-- The members stand in the text, behind an opening brace. -/
def AreMembers (first : Bool) (members : List Member) (inner : List Char) : Prop :=
  ∃ parts : List Part, Items first (parts.map Part.text) inner ∧
    List.Forall₂ Member.IsWritten members parts

/-- The entries stand in the text, behind an opening bracket. -/
def AreEntries (first : Bool) (values : List (List Char)) (inner : List Char) : Prop :=
  Items first values inner ∧ ∀ v ∈ values, IsValue v

/-! ### Members of an object -/

theorem readColon_append {gap : List Char} (hgap : IsSpace gap) (text : List Char) :
    readColon (gap ++ ':' :: text) = .ok text := by
  rw [readColon, skipBlanks_append hgap, skipBlanks_cons rfl]
  rfl

theorem exists_of_readColon (h : readColon text = .ok rest) :
    ∃ gap, IsSpace gap ∧ text = gap ++ ':' :: rest := by
  obtain ⟨gap, hgap, htext⟩ := exists_space text
  rw [readColon] at h
  split at h
  · cases h
  · rename_i heq
    cases h
    exact ⟨gap, hgap, by rw [← heq]; exact htext⟩
  · cases h

/-- A member is read exactly if it sets what it may set. -/
theorem readMember_append {m : Member} {p : Part} (hm : m.IsWritten p) (hrest : Delimits rest) :
    readMember s (p.text ++ rest) = .ok (s', rest') ↔ rest' = rest ∧ s.Gains [m] s' := by
  rw [p.text_append, readMember]
  show (readString _).bind _ = _ ↔ _
  rw [hm.key.read, Except.bind]
  dsimp only
  rw [String.ofList_toList, hm.value]
  cases hkey : OptionName.ofKey? m.key with
  | none =>
    rw [Settings.gains_other_iff (OptionName.ofKey?_eq_none_iff.mp hkey)]
    dsimp only
    rw [readColon_append hm.spaced.before]
    show (skipValue _ _).map _ = _ ↔ _
    rw [hm.isValue.skip hm.spaced.behind hrest]
    simp [Except.map, and_comm, eq_comm]
  | some name =>
    rw [Settings.gains_option_iff (OptionName.ofKey?_eq_some_iff.mp hkey)]
    dsimp only
    rw [OptionName.isSet_eq]
    cases hset : name.value? s with
    | some found => simp
    | none =>
      rw [Option.isSome_none, if_neg Bool.false_ne_true, readColon_append hm.spaced.before]
      show name.readValue s _ = _ ↔ _
      rw [OptionName.readValue_append hm.spaced.behind hm.isValue hrest, and_iff_right rfl]

/-- What is read as a member is one. -/
theorem exists_of_readMember (h : readMember s text = .ok (s', rest)) :
    ∃ m p, Member.IsWritten m p ∧ text = p.text ++ rest := by
  unfold readMember at h
  split at h
  · obtain ⟨⟨k, text'⟩, hkey, hvalue⟩ := bind_eq_ok_iff.mp h
    obtain ⟨body, hbody, rfl⟩ := readString_eq_ok_iff.mp hkey
    have hspells : Spells body (String.ofList k).toList := by rwa [String.toList_ofList]
    dsimp only at hvalue
    split at hvalue
    · obtain ⟨text₁, hcolon, hskip⟩ := bind_eq_ok_iff.mp hvalue
      obtain ⟨before, hbefore, rfl⟩ := exists_of_readColon hcolon
      obtain ⟨text₂, hskip, heq⟩ := map_eq_ok_iff.mp hskip
      cases heq
      obtain ⟨behind, v, hbehind, hv, rfl⟩ := exists_of_skipValue hskip
      refine ⟨⟨_, v⟩, ⟨body, before, behind, v⟩, ⟨⟨hbefore, hbehind⟩, hspells, rfl, hv⟩, ?_⟩
      simp [Part.text]
    · split at hvalue
      · cases hvalue
      · obtain ⟨text₁, hcolon, hoption⟩ := bind_eq_ok_iff.mp hvalue
        obtain ⟨before, hbefore, rfl⟩ := exists_of_readColon hcolon
        obtain ⟨found, behind, v, hbehind, hv, rfl, -⟩ := OptionName.readValue_eq_ok_iff.mp hoption
        refine ⟨⟨_, v⟩, ⟨body, before, behind, v⟩,
          ⟨⟨hbefore, hbehind⟩, hspells, rfl, .scalar hv.isScalar⟩, ?_⟩
        simp [Part.text]
  · cases h

/-- The comma before a member is taken off, except before the first one. -/
theorem exists_of_nextMember {first : Bool} (h : nextMember first text = .ok rest) :
    (first = true ∧ rest = text) ∨
      (first = false ∧ ∃ gap, IsSpace gap ∧ text = ',' :: (gap ++ rest)) := by
  unfold nextMember at h
  split at h
  · cases h
    exact .inl ⟨‹_›, rfl⟩
  · rename_i hfirst
    refine .inr ⟨eq_false_of_ne_true hfirst, ?_⟩
    split at h
    · rename_i text'
      obtain ⟨gap, hgap, htext⟩ := exists_space text'
      split at h
      · cases h
      · cases h
      · cases h
        exact ⟨gap, hgap, by rw [← htext]⟩
    · cases h

/-- What is read up to the end of an object are members. -/
theorem exists_of_readObject {fuel : Nat} {first : Bool}
    (h : readObject fuel first s text = .ok (s', rest)) :
    ∃ members inner, AreMembers first members inner ∧ text = inner ++ '\x7d' :: rest := by
  induction fuel generalizing first s text with
  | zero =>
    rw [readObject] at h
    cases h
  | succ fuel ih =>
    obtain ⟨gap, hgap, htext⟩ := exists_space text
    rw [readObject] at h
    split at h
    · cases h
    · rename_i heq
      cases h
      exact ⟨[], gap, ⟨[], .done hgap, .nil⟩, by rw [← heq]; exact htext⟩
    · obtain ⟨text₁, hnext, hmember⟩ := bind_eq_ok_iff.mp h
      obtain ⟨⟨s₁, text₂⟩, hmember, hothers⟩ := bind_eq_ok_iff.mp hmember
      obtain ⟨m, p, hm, rfl⟩ := exists_of_readMember hmember
      obtain ⟨members, tail, ⟨parts, hitems, hparts⟩, rfl⟩ := ih hothers
      rcases exists_of_nextMember hnext with ⟨rfl, hfirst⟩ | ⟨rfl, gap', hgap', hfirst⟩
      · refine ⟨m :: members, _, ⟨p :: parts, .first hgap hitems, .cons hm hparts⟩, ?_⟩
        rw [htext, ← hfirst]
        simp
      · refine ⟨m :: members, _, ⟨p :: parts, .next hgap hgap' hitems, .cons hm hparts⟩, ?_⟩
        rw [htext, hfirst]
        simp

theorem readObject_first {gap : List Char} (hgap : IsSpace gap) (fuel : Nat) (p : Part) :
    readObject (fuel + 1) true s (gap ++ (p.text ++ text)) =
      (readMember s (p.text ++ text)).bind fun q => readObject fuel false q.1 q.2 := by
  rw [readObject, skipBlanks_append hgap, p.text_append, skipBlanks_cons rfl]
  rfl

theorem readObject_next {before behind : List Char} (hbefore : IsSpace before)
    (hbehind : IsSpace behind) (fuel : Nat) (p : Part) :
    readObject (fuel + 1) false s (before ++ ',' :: (behind ++ (p.text ++ text))) =
      (readMember s (p.text ++ text)).bind fun q => readObject fuel false q.1 q.2 := by
  rw [readObject, skipBlanks_append hbefore, skipBlanks_cons rfl]
  show (nextMember false _).bind _ = _
  rw [nextMember, if_neg Bool.false_ne_true, skipBlanks_append hbehind, p.text_append,
    skipBlanks_cons rfl]
  rfl

/-- Members are read up to the end of their object exactly if they set what they
may set. -/
theorem readObject_append {first : Bool} {members : List Member}
    (h : AreMembers first members inner) {fuel : Nat}
    (hfuel : (inner ++ '\x7d' :: rest).length < fuel) :
    readObject fuel first s (inner ++ '\x7d' :: rest) = .ok (s', rest') ↔
      rest' = rest ∧ s.Gains members s' := by
  obtain ⟨parts, hitems, hparts⟩ := h
  induction hparts generalizing first s inner fuel with
  | nil =>
    obtain ⟨fuel, rfl⟩ := Nat.exists_eq_add_one_of_ne_zero (Nat.ne_zero_of_lt hfuel)
    cases hitems with
    | done hgap =>
      rw [readObject, skipBlanks_append hgap, skipBlanks_cons rfl, Settings.gains_nil_iff]
      simp [and_comm, eq_comm]
  | cons hm hparts ih =>
    rename_i m p members parts
    obtain ⟨fuel, rfl⟩ := Nat.exists_eq_add_one_of_ne_zero (Nat.ne_zero_of_lt hfuel)
    -- with a comma before it or without, the member is read and then the others
    have hstep : ∀ tail : List Char, Items false (parts.map Part.text) tail →
        (tail ++ '\x7d' :: rest).length < fuel →
        ((readMember s (p.text ++ (tail ++ '\x7d' :: rest))).bind
            (fun q => readObject fuel false q.1 q.2) = .ok (s', rest') ↔
          rest' = rest ∧ s.Gains (m :: members) s') := by
      intro tail htail hlength
      have hdelimits : Delimits (tail ++ '\x7d' :: rest) :=
        htail.delimits (delimits_brace rest)
      rw [bind_eq_ok_iff, Settings.gains_cons_iff]
      constructor
      · rintro ⟨⟨s₁, text₁⟩, hmember, hothers⟩
        obtain ⟨rfl, hgains⟩ := (readMember_append hm hdelimits).mp hmember
        obtain ⟨rfl, hgains'⟩ := (ih hlength htail).mp hothers
        exact ⟨rfl, s₁, hgains, hgains'⟩
      · rintro ⟨rfl, s₁, hgains, hgains'⟩
        exact ⟨(s₁, _), (readMember_append hm hdelimits).mpr ⟨rfl, hgains⟩,
          (ih hlength htail).mpr ⟨rfl, hgains'⟩⟩
    cases hitems with
    | first hgap htail =>
      simp only [List.append_assoc, List.length_append] at hfuel ⊢
      rw [readObject_first hgap]
      apply hstep _ htail
      simp only [Part.text, List.length_append, List.length_cons] at hfuel ⊢
      omega
    | next hbefore hbehind htail =>
      simp only [List.append_assoc, List.cons_append, List.length_append, List.length_cons]
        at hfuel ⊢
      rw [readObject_next hbefore hbehind]
      apply hstep _ htail
      simp only [List.length_append, List.length_cons]
      omega

/-! ### Entries of a list -/

/-- Reads the entries of a list for the given options. -/
def readEntries (first : Bool) (s : Settings) : List OptionName → List Char → Reading Settings
  | [], text => (readListEnd text).map (s, ·)
  | name :: names, text =>
    (readEntry first s name text).bind fun p => readEntries false p.1 names p.2

/-- The options in the order in which a list gives their values. -/
def OptionName.order : List OptionName := [quiet, container, disableModel]

theorem readList_eq (text : List Char) :
    readList text = readEntries true .none OptionName.order text := rfl

/-- Where a list ends, nothing more is set. -/
theorem readEntries_end {gap : List Char} (hgap : IsSpace gap) (first : Bool) (s : Settings)
    (names : List OptionName) (rest : List Char) :
    readEntries first s names (gap ++ ']' :: rest) = .ok (s, rest) := by
  induction names generalizing first gap with
  | nil =>
    rw [readEntries, readListEnd, skipBlanks_append hgap, skipBlanks_cons rfl]
    rfl
  | cons name names ih =>
    rw [readEntries, readEntry, skipBlanks_append hgap, skipBlanks_cons rfl]
    exact ih isSpace_nil false

theorem exists_of_readListEnd (h : readListEnd text = .ok rest) :
    ∃ gap, IsSpace gap ∧ text = gap ++ ']' :: rest := by
  obtain ⟨gap, hgap, htext⟩ := exists_space text
  unfold readListEnd at h
  split at h
  · cases h
  · rename_i heq
    cases h
    exact ⟨gap, hgap, by rw [← heq]; exact htext⟩
  · split at h <;> cases h
  · cases h

/-- What is read for an option is an entry with what stands before it, unless the
list ends. -/
theorem exists_of_readEntry {first : Bool} {name : OptionName}
    (h : readEntry first s name text = .ok (s', rest)) :
    (∃ gap tail, IsSpace gap ∧ text = gap ++ ']' :: tail ∧ rest = ']' :: tail) ∨
      ∃ front v, IsValue v ∧ text = front ++ (v ++ rest) ∧
        ∀ items tail, Items false items tail → Items first (v :: items) (front ++ (v ++ tail)) := by
  obtain ⟨gap, hgap, htext⟩ := exists_space text
  unfold readEntry at h
  split at h
  · cases h
  · rename_i heq
    cases h
    exact .inl ⟨gap, _, hgap, by rw [← heq]; exact htext, rfl⟩
  · right
    split at h
    · rename_i hfirst
      obtain ⟨found, gap', v, hgap', hv, hrest, -⟩ := OptionName.readValue_eq_ok_iff.mp h
      refine ⟨gap ++ gap', v, .scalar hv.isScalar, ?_, ?_⟩
      · rw [htext, hrest]
        simp
      · intro items tail htail
        rw [hfirst]
        exact .first (hgap.append hgap') htail
    · rename_i hfirst
      split at h
      · rename_i text' heq
        obtain ⟨behind, hbehind, htext'⟩ := exists_space text'
        split at h
        · cases h
        · cases h
        · obtain ⟨found, gap', v, hgap', hv, hrest, -⟩ := OptionName.readValue_eq_ok_iff.mp h
          refine ⟨gap ++ ',' :: (behind ++ gap'), v, .scalar hv.isScalar, ?_, ?_⟩
          · rw [htext, heq, htext', hrest]
            simp
          · intro items tail htail
            rw [eq_false_of_ne_true hfirst, List.append_assoc, List.cons_append]
            exact .next hgap (hbehind.append hgap') htail
      · cases h

/-- What is read up to the end of a list are entries. -/
theorem exists_of_readEntries {first : Bool} {names : List OptionName}
    (h : readEntries first s names text = .ok (s', rest)) :
    ∃ values inner, AreEntries first values inner ∧ text = inner ++ ']' :: rest := by
  induction names generalizing first s text with
  | nil =>
    obtain ⟨text₁, hend, heq⟩ := map_eq_ok_iff.mp h
    cases heq
    obtain ⟨gap, hgap, rfl⟩ := exists_of_readListEnd hend
    exact ⟨[], gap, ⟨.done hgap, by simp⟩, rfl⟩
  | cons name names ih =>
    obtain ⟨⟨s₁, text₁⟩, hentry, hothers⟩ := bind_eq_ok_iff.mp h
    rcases exists_of_readEntry hentry with ⟨gap, tail, hgap, rfl, rfl⟩ | ⟨front, v, hv, rfl, hitems⟩
    · have hend : readEntries false s₁ names (']' :: tail) = .ok (s₁, tail) :=
        readEntries_end isSpace_nil false s₁ names tail
      rw [hend] at hothers
      cases hothers
      exact ⟨[], gap, ⟨.done hgap, by simp⟩, rfl⟩
    · obtain ⟨values, tail, ⟨htail, hvalues⟩, rfl⟩ := ih hothers
      refine ⟨v :: values, _, ⟨hitems values tail htail, ?_⟩, ?_⟩
      · rintro w (_ | ⟨_, hw⟩)
        · exact hv
        · exact hvalues w hw
      · simp

/-- Where a value stands, a list neither ends nor is the text at its end. -/
theorem match_skipBlanks_value {α : Type} {gap : List Char} (hgap : IsSpace gap) (hv : IsValue v)
    (atEnd : α) (atBracket atValue : List Char → α) :
    (match skipBlanks (gap ++ (v ++ rest)) with
      | [] => atEnd
      | ']' :: text => atBracket text
      | text => atValue text) = atValue (v ++ rest) := by
  rw [skipBlanks_append hgap, hv.skipBlanks]
  obtain ⟨c, tail, rfl, hc⟩ := hv.starts
  split
  · rename_i heq
    cases heq
  · rename_i heq
    exact absurd (List.cons.inj heq).1 (ne_of_startsValue hc rfl)
  · rfl

theorem readEntry_first {gap : List Char} (hgap : IsSpace gap) (hv : IsValue v)
    (name : OptionName) :
    readEntry true s name (gap ++ (v ++ rest)) = name.readValue s (v ++ rest) := by
  rw [readEntry]
  exact match_skipBlanks_value hgap hv _ _ _

theorem readEntry_next {before behind : List Char} (hbefore : IsSpace before)
    (hbehind : IsSpace behind) (hv : IsValue v) (name : OptionName) :
    readEntry false s name (before ++ ',' :: (behind ++ (v ++ rest))) =
      name.readValue s (v ++ rest) := by
  rw [readEntry, skipBlanks_append hbefore, skipBlanks_cons rfl]
  exact match_skipBlanks_value hbehind hv _ _ (name.readValue s)

/-- An entry is read as a value with what stands before it. -/
theorem exists_readEntry_eq {first : Bool} {values : List (List Char)}
    (h : AreEntries first (v :: values) inner) :
    ∃ tail, AreEntries false values tail ∧ ∀ s name rest,
      readEntry first s name (inner ++ rest) = name.readValue s (v ++ (tail ++ rest)) := by
  obtain ⟨hitems, hvalues⟩ := h
  have hv := hvalues v List.mem_cons_self
  have hothers : ∀ w ∈ values, IsValue w := fun w hw => hvalues w (List.mem_cons_of_mem v hw)
  cases hitems with
  | first hgap htail =>
    refine ⟨_, ⟨htail, hothers⟩, fun s name rest => ?_⟩
    rw [List.append_assoc, List.append_assoc, readEntry_first hgap hv]
  | next hbefore hbehind htail =>
    refine ⟨_, ⟨htail, hothers⟩, fun s name rest => ?_⟩
    rw [List.append_assoc, List.cons_append, List.append_assoc, List.append_assoc,
      readEntry_next hbefore hbehind hv]

/-- The values of a list as members: each has the key of the option in its place. -/
def inOrder (names : List OptionName) (values : List (List Char)) : List Member :=
  List.zipWith (fun name v => ⟨name.key, v⟩) names values

/-- A list with an entry left does not end. -/
theorem readListEnd_ne_ok {first : Bool} {values : List (List Char)}
    (h : AreEntries first (v :: values) inner) :
    readListEnd (inner ++ ']' :: rest) ≠ .ok rest' := by
  obtain ⟨hitems, hvalues⟩ := h
  intro hend
  obtain ⟨gap, hgap, htext⟩ := exists_of_readListEnd hend
  have hskip := congrArg skipBlanks htext
  rw [skipBlanks_append hgap, skipBlanks_cons rfl] at hskip
  cases hitems with
  | first hgap' htail =>
    have hv := hvalues v List.mem_cons_self
    rw [List.append_assoc, List.append_assoc, skipBlanks_append hgap', hv.skipBlanks] at hskip
    obtain ⟨c, tail, rfl, hc⟩ := hv.starts
    exact absurd (List.cons.inj hskip).1 (ne_of_startsValue hc rfl)
  | next hbefore hbehind htail =>
    rw [List.append_assoc, List.cons_append, skipBlanks_append hbefore, skipBlanks_cons rfl]
      at hskip
    exact absurd (List.cons.inj hskip).1 (by decide)

/-- Entries are read up to the end of their list exactly if there are no more of
them than options and they set these. -/
theorem readEntries_append {first : Bool} {values : List (List Char)} {names : List OptionName}
    (h : AreEntries first values inner) (hnames : names.Nodup)
    (hnone : ∀ name ∈ names, name.value? s = none) :
    readEntries first s names (inner ++ ']' :: rest) = .ok (s', rest') ↔
      rest' = rest ∧ values.length ≤ names.length ∧ s.Gains (inOrder names values) s' := by
  induction names generalizing first s values inner with
  | nil =>
    cases values with
    | nil =>
      obtain ⟨⟨hgap⟩, -⟩ := h
      rw [readEntries_end hgap, inOrder, List.zipWith_nil_left, Settings.gains_nil_iff]
      simp [and_comm, eq_comm]
    | cons v values =>
      have hend : ∀ rest', readListEnd (inner ++ ']' :: rest) ≠ .ok rest' :=
        fun _ => readListEnd_ne_ok h
      simp only [readEntries, map_eq_ok_iff, List.length_cons, List.length_nil]
      constructor
      · rintro ⟨text₁, htext₁, -⟩
        exact absurd htext₁ (hend text₁)
      · rintro ⟨-, hlength, -⟩
        omega
  | cons name names ih =>
    cases values with
    | nil =>
      obtain ⟨⟨hgap⟩, -⟩ := h
      rw [readEntries_end hgap, inOrder, List.zipWith_nil_right, Settings.gains_nil_iff]
      simp [and_comm, eq_comm]
    | cons v values =>
      have hv : IsValue v := h.2 v List.mem_cons_self
      obtain ⟨tail, htail, hentry⟩ := exists_readEntry_eq h
      have hdelimits : Delimits (tail ++ ']' :: rest) :=
        htail.1.delimits (delimits_bracket rest)
      obtain ⟨hname, hnames⟩ := List.nodup_cons.mp hnames
      have hread : ∀ s₁ text₁, name.readValue s (v ++ (tail ++ ']' :: rest)) = .ok (s₁, text₁) ↔
          text₁ = tail ++ ']' :: rest ∧ s.Gains [⟨name.key, v⟩] s₁ := by
        intro s₁ text₁
        rw [Settings.gains_option_iff rfl, and_iff_right (hnone name List.mem_cons_self)]
        exact OptionName.readValue_append isSpace_nil hv hdelimits
      -- the options that are left are not set by this entry
      have hleft : ∀ s₁, s.Gains [⟨name.key, v⟩] s₁ → ∀ other ∈ names, other.value? s₁ = none := by
        intro s₁ hgains other hother
        obtain ⟨-, found, -, hsets⟩ := (Settings.gains_option_iff rfl).mp hgains
        have hne : other ≠ name := by
          rintro rfl
          exact hname hother
        rw [hsets.others other hne]
        exact hnone other (List.mem_cons_of_mem _ hother)
      rw [readEntries, hentry, bind_eq_ok_iff, inOrder, List.zipWith_cons_cons,
        Settings.gains_cons_iff, List.length_cons, List.length_cons, Nat.succ_le_succ_iff]
      constructor
      · rintro ⟨⟨s₁, text₁⟩, hvalue, hothers⟩
        obtain ⟨rfl, hgains⟩ := (hread s₁ text₁).mp hvalue
        obtain ⟨rfl, hlength, hgains'⟩ := (ih htail hnames (hleft s₁ hgains)).mp hothers
        exact ⟨rfl, hlength, s₁, hgains, hgains'⟩
      · rintro ⟨rfl, hlength, s₁, hgains, hgains'⟩
        exact ⟨(s₁, _), (hread s₁ _).mpr ⟨rfl, hgains⟩,
          (ih htail hnames (hleft s₁ hgains)).mpr ⟨rfl, hlength, hgains'⟩⟩

end HotReload
