/-
# The values of JSON text

Which texts are values, at any depth, and that passing over a value takes off
exactly one of them. Where a number ends is told by what follows it, so a value
is passed over where the text behind it could not belong to a number; in a list
or an object it never could.

Key definitions: `Json.Items`, `Json.Part`, `Json.IsValue`.
Key theorems: `Json.exists_of_skipValue`, `Json.IsValue.skip`.
-/
import HotReload.Proofs.Json.Scalar

namespace HotReload

namespace Json

/-! ### The grammar -/

/-- Items with a comma before each and space around them, as they stand behind an
opening bracket. There is no comma before the first one if the flag says so. -/
inductive Items : Bool → List (List Char) → List Char → Prop
  | done {first : Bool} {gap : List Char} (hgap : IsSpace gap) : Items first [] gap
  | first {gap item tail : List Char} {items : List (List Char)} (hgap : IsSpace gap)
      (h : Items false items tail) : Items true (item :: items) (gap ++ (item ++ tail))
  | next {before behind item tail : List Char} {items : List (List Char)}
      (hbefore : IsSpace before) (hbehind : IsSpace behind) (h : Items false items tail) :
      Items false (item :: items) (before ++ ',' :: (behind ++ (item ++ tail)))

/-- The parts of a member of an object: what stands between the quotation marks
of its key, the space around the colon, and the value. -/
structure Part where
  body : List Char
  before : List Char
  behind : List Char
  value : List Char

namespace Part

/-- The text of a member. -/
def text (p : Part) : List Char :=
  '\x22' :: (p.body ++ '\x22' :: (p.before ++ ':' :: (p.behind ++ p.value)))

theorem text_append (p : Part) (rest : List Char) :
    p.text ++ rest =
      '\x22' :: (p.body ++ '\x22' :: (p.before ++ ':' :: (p.behind ++ (p.value ++ rest)))) := by
  simp [text]

/-- Nothing but space stands around the colon. -/
structure IsSpaced (p : Part) : Prop where
  before : IsSpace p.before
  behind : IsSpace p.behind

end Part

/-- The text is a value. -/
inductive IsValue : List Char → Prop
  | scalar {v : List Char} (h : IsScalar v) : IsValue v
  | list {items : List (List Char)} {inner : List Char} (hitems : Items true items inner)
      (h : ∀ item ∈ items, IsValue item) : IsValue ('[' :: (inner ++ [']']))
  | object {parts : List Part} {inner : List Char}
      (hitems : Items true (parts.map Part.text) inner)
      (hparts : ∀ p ∈ parts, p.IsSpaced ∧ IsStringBody p.body)
      (h : ∀ p ∈ parts, IsValue p.value) : IsValue ('\x7b' :: (inner ++ ['\x7d']))

variable {text rest v : List Char}

/-- A member of an object that is passed over: its key is a string, however it is
spelled. -/
def Part.IsMember (p : Part) : Prop := (p.IsSpaced ∧ IsStringBody p.body) ∧ IsValue p.value

/-- Passes over the members of an object after one of them, up to its end. -/
def skipMembers (fuel : Nat) (text : List Char) : Except Fault (List Char) :=
  match skipBlanks text with
  | [] => .error (Problem.endOfObject.next [])
  | '\x7d' :: text => .ok text
  | ',' :: text => skipMember fuel text
  | text => .error (Problem.noObjectEnd.next text)

/-! ### Where a value begins and ends -/

/-- Whether a value may begin with the character. -/
def startsValue (c : Char) : Bool := startsScalar c || c == '[' || c == '\x7b'

theorem IsValue.starts (h : IsValue v) : ∃ c tail, v = c :: tail ∧ startsValue c = true := by
  cases h with
  | scalar h =>
    obtain ⟨c, tail, rfl, hc⟩ := h.starts
    exact ⟨c, tail, rfl, by rw [startsValue, hc]; rfl⟩
  | list => exact ⟨_, _, rfl, rfl⟩
  | object => exact ⟨_, _, rfl, rfl⟩

theorem ne_of_startsValue {c d : Char} (hc : startsValue c = true) (hd : startsValue d = false) :
    c ≠ d := by
  rintro rfl
  rw [hc] at hd
  cases hd

theorem isSpace_of_startsValue {c : Char} (hc : startsValue c = true) : isSpace c = false := by
  rw [Bool.eq_false_iff]
  intro hspace
  simp only [isSpace, Bool.or_eq_true, beq_iff_eq] at hspace
  rcases hspace with ((rfl | rfl) | rfl) | rfl <;> cases hc

/-- No space is skipped where a value begins. -/
theorem IsValue.skipBlanks (h : IsValue v) (rest : List Char) :
    skipBlanks (v ++ rest) = v ++ rest := by
  obtain ⟨c, tail, rfl, hc⟩ := h.starts
  exact skipBlanks_cons (isSpace_of_startsValue hc) (tail ++ rest)

theorem delimits_cons {c : Char} (hdigit : c.isDigit = false) (hc : c ≠ '.' ∧ c ≠ 'e' ∧ c ≠ 'E')
    (rest : List Char) : Delimits (c :: rest) := by
  rintro _ ⟨⟩
  exact ⟨hdigit, hc⟩

theorem isSpace_nil : IsSpace [] := by
  intro c hc
  cases hc

theorem IsSpace.append {gap gap' : List Char} (h : IsSpace gap) (h' : IsSpace gap') :
    IsSpace (gap ++ gap') := by
  intro c hc
  rcases List.mem_append.mp hc with hc | hc
  · exact h c hc
  · exact h' c hc

theorem delimits_bracket (rest : List Char) : Delimits (']' :: rest) :=
  delimits_cons rfl (by decide) rest

theorem delimits_brace (rest : List Char) : Delimits ('\x7d' :: rest) :=
  delimits_cons rfl (by decide) rest

/-- Space delimits a number. -/
theorem IsSpace.delimits {gap : List Char} (hgap : IsSpace gap) (hrest : Delimits rest) :
    Delimits (gap ++ rest) := by
  rcases gap with _ | ⟨c, gap⟩
  · exact hrest
  · have hc := hgap c List.mem_cons_self
    simp only [isSpace, Bool.or_eq_true, beq_iff_eq] at hc
    rcases hc with ((rfl | rfl) | rfl) | rfl <;> exact delimits_cons rfl (by decide) _

/-- The text behind an item delimits it. -/
theorem Items.delimits {items : List (List Char)} {tail : List Char} (h : Items false items tail)
    (hrest : Delimits rest) : Delimits (tail ++ rest) := by
  cases h with
  | done hgap => exact hgap.delimits hrest
  | next hbefore hbehind h =>
    rw [List.append_assoc]
    exact hbefore.delimits (delimits_cons rfl (by decide) _)

/-- Items that follow a comma follow an item. -/
theorem Items.comma {item gap tail : List Char} {items : List (List Char)}
    (h : Items true (item :: items) tail) (hgap : IsSpace gap) :
    Items false (item :: items) (gap ++ ',' :: tail) := by
  cases h with
  | first hbehind h => exact .next hgap hbehind h

/-- Space may stand before the first item. -/
theorem Items.space {items : List (List Char)} {gap tail : List Char} (h : Items true items tail)
    (hgap : IsSpace gap) : Items true items (gap ++ tail) := by
  cases h with
  | done hgap' => exact .done (hgap.append hgap')
  | first hgap' h =>
    rw [← List.append_assoc]
    exact .first (hgap.append hgap') h

/-! ### What is passed over is a value -/

/-- What the three readers take off, up to a given depth. -/
structure TakesOff (fuel : Nat) : Prop where
  value {text rest : List Char} (h : skipValue fuel text = .ok rest) :
    ∃ gap v, IsSpace gap ∧ IsValue v ∧ text = gap ++ (v ++ rest)
  entries {text rest : List Char} (h : skipEntries fuel text = .ok rest) :
    ∃ items tail, Items false items tail ∧ (∀ v ∈ items, IsValue v) ∧ text = tail ++ ']' :: rest
  member {text rest : List Char} (h : skipMember fuel text = .ok rest) :
    ∃ p parts inner, Items true ((p :: parts).map Part.text) inner ∧
      (∀ q ∈ p :: parts, q.IsMember) ∧ text = inner ++ '\x7d' :: rest

/-- A list or an object is taken off if its entries or members are. -/
theorem exists_of_skipValue_succ {fuel : Nat} (ih : TakesOff fuel)
    (h : skipValue (fuel + 1) text = .ok rest) :
    ∃ gap v, IsSpace gap ∧ IsValue v ∧ text = gap ++ (v ++ rest) := by
  obtain ⟨gap, hgap, htext⟩ := exists_space text
  rw [skipValue] at h
  split at h
  · rename_i inner heq
    obtain ⟨gap', hgap', hinner⟩ := exists_space inner
    split at h
    · rename_i rest' heq'
      cases h
      refine ⟨gap, _, hgap, .list (.done hgap') (by simp), ?_⟩
      rw [htext, heq, hinner, heq']
      simp
    · cases h
    · obtain ⟨text', hvalue, hentries⟩ := bind_eq_ok_iff.mp h
      obtain ⟨gap'', v, hgap'', hv, hitem⟩ := ih.value hvalue
      obtain ⟨items, tail, hitems, hvalues, rfl⟩ := ih.entries hentries
      have hall : Items true (v :: items) (gap' ++ (gap'' ++ (v ++ tail))) :=
        (Items.first hgap'' hitems).space hgap'
      refine ⟨gap, _, hgap, .list hall ?_, ?_⟩
      · rintro item (_ | ⟨_, hmem⟩)
        · exact hv
        · exact hvalues item hmem
      · rw [htext, heq, hinner, hitem]
        simp
  · rename_i inner heq
    obtain ⟨gap', hgap', hinner⟩ := exists_space inner
    split at h
    · rename_i rest' heq'
      cases h
      refine ⟨gap, _, hgap, @IsValue.object [] _ (.done hgap') (by simp) (by simp), ?_⟩
      rw [htext, heq, hinner, heq']
      simp
    · obtain ⟨p, parts, inner', hitems, hparts, hmembers⟩ := ih.member h
      refine ⟨gap, _, hgap, .object (hitems.space hgap') (fun q hq => (hparts q hq).1)
        (fun q hq => (hparts q hq).2), ?_⟩
      rw [htext, heq, hinner, hmembers]
      simp
  · obtain ⟨v, hv, hrest⟩ := exists_of_skipScalar h
    exact ⟨gap, v, hgap, .scalar hv, by rw [← hrest]; exact htext⟩

/-- The entries behind an entry are taken off one by one. -/
theorem exists_of_skipEntries_succ {fuel : Nat} (ih : TakesOff fuel)
    (h : skipEntries (fuel + 1) text = .ok rest) :
    ∃ items tail, Items false items tail ∧ (∀ v ∈ items, IsValue v) ∧
      text = tail ++ ']' :: rest := by
  obtain ⟨gap, hgap, htext⟩ := exists_space text
  rw [skipEntries] at h
  split at h
  · cases h
  · rename_i heq
    cases h
    exact ⟨[], gap, .done hgap, by simp, by rw [htext, heq]⟩
  · rename_i text' heq
    obtain ⟨text'', hvalue, hentries⟩ := bind_eq_ok_iff.mp h
    obtain ⟨gap', v, hgap', hv, rfl⟩ := ih.value hvalue
    obtain ⟨items, tail, hitems, hvalues, rfl⟩ := ih.entries hentries
    have hall : Items false (v :: items) (gap ++ ',' :: (gap' ++ (v ++ tail))) :=
      .next hgap hgap' hitems
    refine ⟨_, _, hall, ?_, ?_⟩
    · rintro item (_ | ⟨_, hmem⟩)
      · exact hv
      · exact hvalues item hmem
    · rw [htext, heq]
      simp
  · cases h

/-- The members behind a member are taken off if what follows the comma is. -/
theorem exists_of_skipMembers {fuel : Nat} (ih : TakesOff fuel)
    (h : skipMembers fuel text = .ok rest) :
    ∃ (parts : List Part) (tail : List Char), Items false (parts.map Part.text) tail ∧
      (∀ q ∈ parts, q.IsMember) ∧ text = tail ++ '\x7d' :: rest := by
  obtain ⟨gap, hgap, htext⟩ := exists_space text
  rw [skipMembers] at h
  split at h
  · cases h
  · rename_i heq
    cases h
    exact ⟨[], gap, .done hgap, by simp, by rw [htext, heq]⟩
  · rename_i text' heq
    obtain ⟨p, parts, inner, hitems, hparts, rfl⟩ := ih.member h
    refine ⟨p :: parts, _, hitems.comma hgap, hparts, ?_⟩
    rw [htext, heq]
    simp
  · cases h

/-- A member is taken off with all that follow it. -/
theorem exists_of_skipMember_succ {fuel : Nat} (ih : TakesOff fuel)
    (h : skipMember (fuel + 1) text = .ok rest) :
    ∃ p parts inner, Items true ((p :: parts).map Part.text) inner ∧
      (∀ q ∈ p :: parts, q.IsMember) ∧ text = inner ++ '\x7d' :: rest := by
  obtain ⟨gap, hgap, htext⟩ := exists_space text
  rw [skipMember] at h
  split at h
  · cases h
  · rename_i text' heq
    obtain ⟨text'', hkey, hcolon⟩ := bind_eq_ok_iff.mp h
    obtain ⟨body, hbody, rfl⟩ := skipString_eq_ok_iff.mp hkey
    obtain ⟨before, hbefore, htext''⟩ := exists_space text''
    split at hcolon
    · cases hcolon
    · rename_i heq'
      obtain ⟨text₄, hvalue, hend⟩ := bind_eq_ok_iff.mp hcolon
      obtain ⟨behind, v, hbehind, hv, rfl⟩ := ih.value hvalue
      obtain ⟨parts, tail, hitems, hparts, rfl⟩ := exists_of_skipMembers ih hend
      refine ⟨⟨body, before, behind, v⟩, parts, _, .first hgap hitems, ?_, ?_⟩
      · rintro q (_ | ⟨_, hmem⟩)
        · exact ⟨⟨⟨hbefore, hbehind⟩, hbody⟩, hv⟩
        · exact hparts q hmem
      · rw [htext, heq, htext'', heq']
        simp [Part.text]
    · cases hcolon
  · cases h

theorem takesOff (fuel : Nat) : TakesOff fuel := by
  -- each reader calls the others with one less, so the three facts go together
  induction fuel with
  | zero =>
    refine ⟨?_, ?_, ?_⟩
    · intro text rest h
      rw [skipValue] at h
      cases h
    · intro text rest h
      rw [skipEntries] at h
      cases h
    · intro text rest h
      rw [skipMember] at h
      cases h
  | succ fuel ih =>
    exact ⟨exists_of_skipValue_succ ih, exists_of_skipEntries_succ ih, exists_of_skipMember_succ ih⟩

/-- What is passed over is a value. -/
theorem exists_of_skipValue {fuel : Nat} (h : skipValue fuel text = .ok rest) :
    ∃ gap v, IsSpace gap ∧ IsValue v ∧ text = gap ++ (v ++ rest) :=
  (takesOff fuel).value h

/-! ### A value is passed over -/

/-- The text is passed over as a value, whatever may follow it. -/
def IsTaken (v : List Char) : Prop :=
  ∀ gap rest fuel, IsSpace gap → Delimits rest → (gap ++ (v ++ rest)).length < fuel →
    skipValue fuel (gap ++ (v ++ rest)) = .ok rest

theorem IsScalar.skipValue {gap : List Char} (h : IsScalar v) (hgap : IsSpace gap) (fuel : Nat)
    (rest : List Char) : skipValue (fuel + 1) (gap ++ (v ++ rest)) = skipScalar (v ++ rest) := by
  rw [Json.skipValue, skipBlanks_append hgap, (IsValue.scalar h).skipBlanks]
  obtain ⟨c, tail, rfl, hc⟩ := h.starts
  split
  · rename_i heq
    exact absurd (List.cons.inj heq).1 (ne_of_startsScalar hc rfl)
  · rename_i heq
    exact absurd (List.cons.inj heq).1 (ne_of_startsScalar hc rfl)
  · rfl

theorem IsScalar.isTaken (h : IsScalar v) : IsTaken v := by
  intro gap rest fuel hgap hrest hfuel
  obtain ⟨fuel, rfl⟩ := Nat.exists_eq_add_one_of_ne_zero (Nat.ne_zero_of_lt hfuel)
  rw [h.skipValue hgap, h.skip hrest]

/-- The entries behind an entry are passed over if each of them is. -/
theorem skipEntries_append {items : List (List Char)} {tail : List Char}
    (h : Items false items tail) (hitems : ∀ item ∈ items, IsTaken item) (rest : List Char)
    (fuel : Nat) (hfuel : (tail ++ ']' :: rest).length < fuel) :
    skipEntries fuel (tail ++ ']' :: rest) = .ok rest := by
  induction items generalizing tail fuel with
  | nil =>
    obtain ⟨fuel, rfl⟩ := Nat.exists_eq_add_one_of_ne_zero (Nat.ne_zero_of_lt hfuel)
    cases h with
    | done hgap =>
      rw [skipEntries, skipBlanks_append hgap, skipBlanks_cons rfl]
      rfl
  | cons item items ih =>
    obtain ⟨fuel, rfl⟩ := Nat.exists_eq_add_one_of_ne_zero (Nat.ne_zero_of_lt hfuel)
    cases h with
    | next hbefore hbehind h =>
      rename_i before behind tail
      simp only [List.append_assoc, List.cons_append, List.length_append, List.length_cons]
        at hfuel ⊢
      have htail : Delimits (tail ++ ']' :: rest) := h.delimits (delimits_bracket rest)
      have hitem : skipValue fuel (behind ++ (item ++ (tail ++ ']' :: rest))) =
          .ok (tail ++ ']' :: rest) := by
        apply hitems item List.mem_cons_self behind _ fuel hbehind htail
        simp only [List.length_append, List.length_cons]
        omega
      rw [skipEntries, skipBlanks_append hbefore, skipBlanks_cons rfl]
      show (skipValue fuel _).bind (skipEntries fuel) = _
      rw [hitem]
      apply ih h (fun v hv => hitems v (List.mem_cons_of_mem _ hv))
      simp only [List.length_append, List.length_cons]
      omega

/-- A member is passed over before those that follow it. -/
theorem skipMember_append {p : Part} {gap : List Char} (hgap : IsSpace gap)
    (hp : p.IsSpaced ∧ IsStringBody p.body) (hvalue : IsTaken p.value) (hrest : Delimits rest)
    {fuel : Nat} (hfuel : (gap ++ (p.text ++ rest)).length < fuel + 1) :
    skipMember (fuel + 1) (gap ++ (p.text ++ rest)) = skipMembers fuel rest := by
  obtain ⟨⟨hbefore, hbehind⟩, hbody⟩ := hp
  have hlength : (p.behind ++ (p.value ++ rest)).length < fuel := by
    simp only [Part.text, List.length_append, List.length_cons] at hfuel ⊢
    omega
  rw [skipMember, skipBlanks_append hgap, p.text_append, skipBlanks_cons rfl]
  show (skipString _).bind _ = _
  rw [hbody.skip, Except.bind, skipBlanks_append hbefore, skipBlanks_cons rfl]
  show (skipValue fuel _).bind _ = _
  rw [hvalue p.behind rest fuel hbehind hrest hlength]
  rfl

/-- The members behind a member are passed over if the value of each is. -/
theorem skipMembers_append {parts : List Part} {tail : List Char}
    (h : Items false (parts.map Part.text) tail)
    (hparts : ∀ p ∈ parts, p.IsSpaced ∧ IsStringBody p.body)
    (hvalues : ∀ p ∈ parts, IsTaken p.value) (rest : List Char) (fuel : Nat)
    (hfuel : (tail ++ '\x7d' :: rest).length < fuel) :
    skipMembers fuel (tail ++ '\x7d' :: rest) = .ok rest := by
  induction parts generalizing tail fuel with
  | nil =>
    cases h with
    | done hgap =>
      rw [skipMembers, skipBlanks_append hgap, skipBlanks_cons rfl]
      rfl
  | cons p parts ih =>
    obtain ⟨fuel, rfl⟩ := Nat.exists_eq_add_one_of_ne_zero (Nat.ne_zero_of_lt hfuel)
    cases h with
    | next hbefore hbehind h =>
      rename_i before behind tail
      simp only [List.append_assoc, List.cons_append, List.length_append, List.length_cons]
        at hfuel ⊢
      have htail : Delimits (tail ++ '\x7d' :: rest) := h.delimits (delimits_brace rest)
      rw [skipMembers, skipBlanks_append hbefore, skipBlanks_cons rfl]
      show skipMember (fuel + 1) _ = _
      have hlength : (behind ++ (p.text ++ (tail ++ '\x7d' :: rest))).length < fuel + 1 := by
        simp only [List.length_append, List.length_cons]
        omega
      rw [skipMember_append hbehind (hparts p List.mem_cons_self)
        (hvalues p List.mem_cons_self) htail hlength]
      apply ih h (fun q hq => hparts q (List.mem_cons_of_mem _ hq))
        (fun q hq => hvalues q (List.mem_cons_of_mem _ hq))
      simp only [List.length_append, List.length_cons]
      omega

theorem skipValue_list {gap : List Char} (hgap : IsSpace gap) (fuel : Nat) (text : List Char) :
    skipValue (fuel + 1) (gap ++ '[' :: text) =
      match skipBlanks text with
      | ']' :: text => .ok text
      | [] => .error (Problem.endOfList.next [])
      | text => (skipValue fuel text).bind (skipEntries fuel) := by
  rw [skipValue, skipBlanks_append hgap, skipBlanks_cons rfl]
  rfl

theorem skipValue_object {gap : List Char} (hgap : IsSpace gap) (fuel : Nat) (text : List Char) :
    skipValue (fuel + 1) (gap ++ '\x7b' :: text) =
      match skipBlanks text with
      | '\x7d' :: text => .ok text
      | text => skipMember fuel text := by
  rw [skipValue, skipBlanks_append hgap, skipBlanks_cons rfl]
  rfl

theorem IsTaken.list {items : List (List Char)} {inner : List Char}
    (hitems : Items true items inner) (hvalues : ∀ item ∈ items, IsValue item)
    (h : ∀ item ∈ items, IsTaken item) : IsTaken ('[' :: (inner ++ [']'])) := by
  intro gap rest fuel hgap hrest hfuel
  obtain ⟨fuel, rfl⟩ := Nat.exists_eq_add_one_of_ne_zero (Nat.ne_zero_of_lt hfuel)
  simp only [List.append_assoc, List.cons_append, List.nil_append, List.length_append,
    List.length_cons] at hfuel ⊢
  rw [skipValue_list hgap]
  cases hitems with
  | done hinner =>
    rw [skipBlanks_append hinner, skipBlanks_cons rfl]
    rfl
  | first hfirst htail =>
    rename_i first item tail items
    simp only [List.append_assoc, List.length_append] at hfuel ⊢
    have hdelimits : Delimits (tail ++ ']' :: rest) := htail.delimits (delimits_bracket rest)
    have hitem : skipValue fuel (item ++ (tail ++ ']' :: rest)) = .ok (tail ++ ']' :: rest) := by
      apply h item List.mem_cons_self [] _ fuel isSpace_nil hdelimits
      simp only [List.nil_append, List.length_append, List.length_cons]
      omega
    have hentries : skipEntries fuel (tail ++ ']' :: rest) = .ok rest := by
      apply skipEntries_append htail (fun v hv => h v (List.mem_cons_of_mem _ hv))
      simp only [List.length_append, List.length_cons]
      omega
    rw [skipBlanks_append hfirst, (hvalues item List.mem_cons_self).skipBlanks]
    obtain ⟨c, item, rfl, hc⟩ := (hvalues item List.mem_cons_self).starts
    split
    · rename_i heq
      exact absurd (List.cons.inj heq).1 (ne_of_startsValue hc rfl)
    · rename_i heq
      cases heq
    · rw [hitem]
      exact hentries

theorem IsTaken.object {parts : List Part} {inner : List Char}
    (hitems : Items true (parts.map Part.text) inner)
    (hparts : ∀ p ∈ parts, p.IsSpaced ∧ IsStringBody p.body)
    (h : ∀ p ∈ parts, IsTaken p.value) : IsTaken ('\x7b' :: (inner ++ ['\x7d'])) := by
  intro gap rest fuel hgap hrest hfuel
  obtain ⟨fuel, rfl⟩ := Nat.exists_eq_add_one_of_ne_zero (Nat.ne_zero_of_lt hfuel)
  simp only [List.append_assoc, List.cons_append, List.nil_append, List.length_append,
    List.length_cons] at hfuel ⊢
  rw [skipValue_object hgap]
  cases parts with
  | nil =>
    cases hitems with
    | done hinner =>
      rw [skipBlanks_append hinner, skipBlanks_cons rfl]
      rfl
  | cons p parts =>
    cases hitems with
    | first hfirst htail =>
      rename_i first tail
      simp only [List.append_assoc, List.length_append] at hfuel ⊢
      have hdelimits : Delimits (tail ++ '\x7d' :: rest) := htail.delimits (delimits_brace rest)
      have hlength : (p.text ++ (tail ++ '\x7d' :: rest)).length < fuel := by
        simp only [List.length_append, List.length_cons]
        omega
      obtain ⟨fuel, rfl⟩ := Nat.exists_eq_add_one_of_ne_zero (Nat.ne_zero_of_lt hlength)
      have hmember : skipMember (fuel + 1) (p.text ++ (tail ++ '\x7d' :: rest)) = .ok rest := by
        rw [← List.nil_append (p.text ++ _), skipMember_append isSpace_nil
          (hparts p List.mem_cons_self) (h p List.mem_cons_self) hdelimits
          (by rw [List.nil_append]; omega)]
        apply skipMembers_append htail (fun q hq => hparts q (List.mem_cons_of_mem _ hq))
          (fun q hq => h q (List.mem_cons_of_mem _ hq))
        simp only [Part.text, List.length_append, List.length_cons] at hlength ⊢
        omega
      rw [skipBlanks_append hfirst, ← hmember]
      rfl

theorem IsValue.isTaken (h : IsValue v) : IsTaken v := by
  induction h with
  | scalar h => exact h.isTaken
  | list hitems hvalues ih => exact .list hitems hvalues ih
  | object hitems hparts _ ih => exact .object hitems hparts ih

/-- A value is passed over up to where it ends. -/
theorem IsValue.skip {gap : List Char} (h : IsValue v) (hgap : IsSpace gap)
    (hrest : Delimits rest) :
    skipValue ((gap ++ (v ++ rest)).length + 1) (gap ++ (v ++ rest)) = .ok rest :=
  h.isTaken gap rest _ hgap hrest (Nat.lt_succ_self _)

/-- A text has only one value at its front: where a boolean or a string is written,
no other value stands. -/
theorem Writes.eq_of_append {found : Found} {v' rest' : List Char} (h : Writes found v)
    (h' : IsValue v') (hrest' : Delimits rest') (heq : v ++ rest = v' ++ rest') :
    v = v' ∧ rest = rest' := by
  -- both values end where passing over the common text stops
  have hskip : Json.skipValue ((v' ++ rest').length + 1) (v' ++ rest') = .ok rest' :=
    h'.skip isSpace_nil hrest'
  have hskip' : Json.skipValue ((v' ++ rest').length + 1) (v' ++ rest') = .ok rest := by
    rw [← heq, ← h.skip rest]
    exact h.isScalar.skipValue isSpace_nil _ rest
  obtain rfl : rest' = rest := by
    rw [hskip] at hskip'
    exact Except.ok.inj hskip'
  exact ⟨List.append_cancel_right heq, rfl⟩

end Json

end HotReload
