/-
# Which texts are options, and which options they are

Without white space around it the text of a host is empty or an object or a list.
An object gives an option by a member with its key, a list by an entry in its
place; an option that is not given keeps its standard value. The order of the
members and the members with other keys, whatever their values, do not count. Any
other text is malformed: an option of another kind or given twice, an entry too
many, text behind the end. Nothing of it is taken over.

Key definitions: `IsObject`, `IsList`, `MembersGive`, `Options.Gives`,
`Options.characters`.
Key theorems: `Options.read_of_isObject`, `Options.read_of_isList`,
`Options.ofText_eq_ok_iff_gives`, `Options.ofText_of_blank`,
`Options.ofText_allOrNothing`.
-/
import HotReload.Proofs.Options.Reading
import HotReload.Report

namespace HotReload

open Json

variable {text : List Char}

/-! ### Objects and lists -/

/-- The text is an object with the members. -/
def IsObject (members : List Member) (text : List Char) : Prop :=
  ∃ before inner behind, IsSpace before ∧ IsSpace behind ∧ AreMembers true members inner ∧
    text = before ++ '\x7b' :: (inner ++ '\x7d' :: behind)

/-- The text is a list with the entries. -/
def IsList (values : List (List Char)) (text : List Char) : Prop :=
  ∃ before inner behind, IsSpace before ∧ IsSpace behind ∧ AreEntries true values inner ∧
    text = before ++ '[' :: (inner ++ ']' :: behind)

theorem IsObject.ne_nil {members : List Member} (h : IsObject members text) : text ≠ [] := by
  obtain ⟨before, inner, behind, -, -, -, rfl⟩ := h
  simp

theorem IsList.ne_nil {values : List (List Char)} (h : IsList values text) : text ≠ [] := by
  obtain ⟨before, inner, behind, -, -, -, rfl⟩ := h
  simp

/-! ### What members give -/

/-- The members give the options: each option is given at most once, it has the
value that is given for it, and its standard value if there is none. -/
structure MembersGive (members : List Member) (o : Options) : Prop where
  once : ∀ name : OptionName, (valuesOf name members).length ≤ 1
  given : ∀ name : OptionName, ∀ v ∈ valuesOf name members, Writes (name.valueIn o) v
  missing : ∀ name : OptionName, valuesOf name members = [] →
    name.valueIn o = name.valueIn .standard

/-- What is given for one option is what its setting gains from nothing. -/
theorem gain_none_iff {values : List (List Char)} {new : Option Found} :
    Gain values none new ↔ values.length ≤ 1 ∧ (values = [] → new = none) ∧
      ∀ v ∈ values, ∃ found, Writes found v ∧ new = some found := by
  constructor
  · rintro ⟨⟩
    · simp
    · rename_i found v h
      simpa using h
  · rintro ⟨hlength, hnone, hsome⟩
    rcases values with _ | ⟨v, _ | ⟨w, values⟩⟩
    · rw [hnone rfl]
      exact .keep none
    · obtain ⟨found, hfound, rfl⟩ := hsome v List.mem_cons_self
      exact .set hfound
    · simp at hlength

/-- What the members set from nothing are the options that they give. -/
theorem membersGive_iff {members : List Member} {o : Options} :
    MembersGive members o ↔ ∃ s, Settings.none.Gains members s ∧ s.apply = o := by
  constructor
  · rintro ⟨honce, hgiven, hmissing⟩
    -- exactly the options with a value are set
    let given : OptionName → Bool := fun name => !(valuesOf name members).isEmpty
    have hset : ∀ name : OptionName, name.value? (.merge given .none o.settings) =
        if given name then some (name.valueIn o) else none := by
      intro name
      rw [Settings.value?_merge, OptionName.value?_none, Options.value?_settings]
    refine ⟨.merge given .none o.settings, fun name => ?_, Options.ext_valueIn fun name => ?_⟩
    · rw [hset, OptionName.value?_none, gain_none_iff]
      refine ⟨honce name, fun hvalues => ?_, fun v hv => ⟨_, hgiven name v hv, ?_⟩⟩
      · simp [given, hvalues]
      · simp [given, List.ne_nil_of_mem hv]
    · rw [OptionName.valueIn_apply, hset]
      by_cases hname : given name = true
      · rw [if_pos hname, Option.getD_some]
      · rw [if_neg hname, Option.getD_none]
        exact (hmissing name (by simpa [given] using hname)).symm
  · rintro ⟨s, hgains, rfl⟩
    have hname : ∀ name : OptionName, Gain (valuesOf name members) none (name.value? s) := by
      intro name
      rw [← OptionName.value?_none name]
      exact hgains name
    refine ⟨fun name => ?_, fun name v hv => ?_, fun name hvalues => ?_⟩
    · exact (gain_none_iff.mp (hname name)).1
    · obtain ⟨found, hfound, hset⟩ := (gain_none_iff.mp (hname name)).2.2 v hv
      rw [OptionName.valueIn_apply, hset]
      exact hfound
    · rw [OptionName.valueIn_apply, (gain_none_iff.mp (hname name)).2.1 hvalues]
      rfl

/-- Whether the member has the key of an option. -/
def Member.isOption (m : Member) : Bool := (OptionName.ofKey? m.key).isSome

/-- The values given for an option stand in members with the key of one. -/
theorem valuesOf_filter (name : OptionName) (members : List Member) :
    valuesOf name (members.filter Member.isOption) = valuesOf name members := by
  have hkey : ∀ m : Member, (m.key == name.key && m.isOption) = (m.key == name.key) := by
    intro m
    by_cases h : m.key = name.key
    · rw [Member.isOption, OptionName.ofKey?_eq_some_iff.mpr h, Option.isSome_some, Bool.and_true]
    · rw [beq_eq_false_iff_ne.mpr h, Bool.false_and]
  simp only [valuesOf, List.filter_filter, hkey]

/-- Neither the order of the members nor the members with other keys come into
what is given. -/
theorem MembersGive.of_perm {members members' : List Member} {o : Options}
    (hperm : (members.filter Member.isOption).Perm (members'.filter Member.isOption))
    (h : MembersGive members o) : MembersGive members' o := by
  have hvalues : ∀ name : OptionName, (valuesOf name members).Perm (valuesOf name members') := by
    intro name
    rw [← valuesOf_filter name members, ← valuesOf_filter name members']
    exact (hperm.filter _).map Member.value
  refine ⟨fun name => ?_, fun name v hv => ?_, fun name hnil => ?_⟩
  · rw [← (hvalues name).length_eq]
    exact h.once name
  · exact h.given name v ((hvalues name).mem_iff.mpr hv)
  · apply h.missing name
    have hperm' := hvalues name
    rw [hnil] at hperm'
    exact hperm'.eq_nil

/-! ### The options of a text -/

namespace Options

theorem read_eq_ok_iff {o : Options} :
    read text = .ok o ↔
      ∃ s rest, readSettings text = .ok (s, rest) ∧ IsSpace rest ∧ s.apply = o := by
  rw [read, bind_eq_ok_iff]
  constructor
  · rintro ⟨⟨s, rest⟩, hsettings, hend⟩
    dsimp only at hend
    split at hend
    · rename_i heq
      cases hend
      exact ⟨s, rest, hsettings, skipBlanks_eq_nil_iff.mp heq, rfl⟩
    · cases hend
  · rintro ⟨s, rest, hsettings, hrest, rfl⟩
    refine ⟨(s, rest), hsettings, ?_⟩
    dsimp only
    rw [skipBlanks_eq_nil_iff.mpr hrest]

/-- An object gives the options that its members give. -/
theorem read_of_isObject {members : List Member} (h : IsObject members text) (o : Options) :
    read text = .ok o ↔ MembersGive members o := by
  obtain ⟨before, inner, behind, hbefore, hbehind, hmembers, rfl⟩ := h
  have hread : ∀ s rest,
      readSettings (before ++ '\x7b' :: (inner ++ '\x7d' :: behind)) = .ok (s, rest) ↔
      rest = behind ∧ Settings.none.Gains members s := by
    intro s rest
    rw [readSettings, skipBlanks_append hbefore, skipBlanks_cons rfl]
    exact readObject_append hmembers (Nat.lt_succ_self _)
  rw [read_eq_ok_iff, membersGive_iff]
  constructor
  · rintro ⟨s, rest, hs, -, ho⟩
    exact ⟨s, ((hread s rest).mp hs).2, ho⟩
  · rintro ⟨s, hs, ho⟩
    exact ⟨s, behind, (hread s behind).mpr ⟨rfl, hs⟩, hbehind, ho⟩

/-- A list gives the options that its entries give in their order. -/
theorem read_of_isList {values : List (List Char)} (h : IsList values text) (o : Options) :
    read text = .ok o ↔ values.length ≤ 3 ∧ MembersGive (inOrder OptionName.order values) o := by
  obtain ⟨before, inner, behind, hbefore, hbehind, hentries, rfl⟩ := h
  have hread : ∀ s rest, readSettings (before ++ '[' :: (inner ++ ']' :: behind)) = .ok (s, rest) ↔
      rest = behind ∧ values.length ≤ 3 ∧
        Settings.none.Gains (inOrder OptionName.order values) s := by
    intro s rest
    have horder : OptionName.order.Nodup := by decide
    rw [readSettings, skipBlanks_append hbefore, skipBlanks_cons rfl]
    exact readEntries_append hentries horder fun name _ => OptionName.value?_none name
  rw [read_eq_ok_iff, membersGive_iff]
  constructor
  · rintro ⟨s, rest, hs, -, ho⟩
    obtain ⟨-, hlength, hgains⟩ := (hread s rest).mp hs
    exact ⟨hlength, s, hgains, ho⟩
  · rintro ⟨hlength, s, hgains, ho⟩
    exact ⟨s, behind, (hread s behind).mpr ⟨rfl, hlength, hgains⟩, hbehind, ho⟩

/-- Nothing but an object or a list gives options. -/
theorem exists_of_read {o : Options} (h : read text = .ok o) :
    (∃ members, IsObject members text) ∨ ∃ values, IsList values text := by
  obtain ⟨s, behind, hsettings, hbehind, -⟩ := read_eq_ok_iff.mp h
  obtain ⟨before, hbefore, htext⟩ := exists_space text
  rw [readSettings] at hsettings
  split at hsettings
  · rename_i heq
    obtain ⟨members, inner, hmembers, rfl⟩ := exists_of_readObject hsettings
    refine .inl ⟨members, before, inner, behind, hbefore, hbehind, hmembers, ?_⟩
    rw [← heq]
    exact htext
  · rename_i heq
    rw [readList_eq] at hsettings
    obtain ⟨values, inner, hentries, rfl⟩ := exists_of_readEntries hsettings
    refine .inr ⟨values, before, inner, behind, hbefore, hbehind, hentries, ?_⟩
    rw [← heq]
    exact htext
  · obtain ⟨_, -, hfault⟩ := bind_eq_ok_iff.mp hsettings
    cases hfault

/-- The options that a text without white space around it gives. -/
inductive Gives : List Char → Options → Prop
  | nothing : Gives [] standard
  | object {members : List Member} {text : List Char} {o : Options} (h : IsObject members text)
      (ho : MembersGive members o) : Gives text o
  | list {values : List (List Char)} {text : List Char} {o : Options} (h : IsList values text)
      (hlength : values.length ≤ 3) (ho : MembersGive (inOrder OptionName.order values) o) :
      Gives text o

/-- The characters that a host gives; without a text there are none. -/
def characters (raw : Option String) : List Char := (raw.getD "").toList

section Trimmed

variable {raw : Option String} (h : IsTrimmed (characters raw) text)

include h

theorem ofText_of_eq_nil (hnil : text = []) : ofText raw = .ok standard := by
  have htrim : trimBlanks (raw.getD "").toList = text := trimBlanks_eq_iff.mpr h
  unfold ofText
  rw [htrim, hnil]

theorem ofText_of_ne_nil (hne : text ≠ []) :
    ofText raw = (read text).mapError fun fault => .malformedOptions (fault.message text) := by
  have htrim : trimBlanks (raw.getD "").toList = text := trimBlanks_eq_iff.mpr h
  unfold ofText
  rw [htrim]
  split
  · contradiction
  · rfl

theorem ofText_eq_ok_iff (hne : text ≠ []) {o : Options} :
    ofText raw = .ok o ↔ read text = .ok o := by
  rw [ofText_of_ne_nil h hne]
  cases read text <;> simp [Except.mapError]

/-- Options are read exactly from the texts that give them. -/
theorem ofText_eq_ok_iff_gives (o : Options) : ofText raw = .ok o ↔ Gives text o := by
  constructor
  · intro hread
    by_cases hnil : text = []
    · rw [ofText_of_eq_nil h hnil] at hread
      cases hread
      rw [hnil]
      exact .nothing
    · rw [ofText_eq_ok_iff h hnil] at hread
      rcases exists_of_read hread with ⟨members, hobject⟩ | ⟨values, hlist⟩
      · exact .object hobject ((read_of_isObject hobject o).mp hread)
      · obtain ⟨hlength, ho⟩ := (read_of_isList hlist o).mp hread
        exact .list hlist hlength ho
  · intro hgives
    cases hgives with
    | nothing => exact ofText_of_eq_nil h rfl
    | object hobject ho =>
      rw [ofText_eq_ok_iff h hobject.ne_nil]
      exact (read_of_isObject hobject o).mpr ho
    | list hlist hlength ho =>
      rw [ofText_eq_ok_iff h hlist.ne_nil]
      exact (read_of_isList hlist o).mpr ⟨hlength, ho⟩

theorem ofText_of_isObject {members : List Member} (hobject : IsObject members text)
    (o : Options) : ofText raw = .ok o ↔ MembersGive members o := by
  rw [ofText_eq_ok_iff h hobject.ne_nil, read_of_isObject hobject]

/-- The only failure is that the text is malformed. -/
theorem exists_of_ofText_eq_error {f : Failure} (herror : ofText raw = .error f) :
    ∃ reason, f = .malformedOptions reason := by
  by_cases hnil : text = []
  · rw [ofText_of_eq_nil h hnil] at herror
    cases herror
  · rw [ofText_of_ne_nil h hnil] at herror
    cases hread : read text with
    | error fault =>
      rw [hread] at herror
      cases herror
      exact ⟨_, rfl⟩
    | ok o =>
      rw [hread] at herror
      cases herror

end Trimmed

/-- White space sets nothing. -/
theorem ofText_of_blank {raw : Option String} (h : ∀ c ∈ characters raw, IsWhiteSpace c) :
    ofText raw = .ok standard := by
  have htrimmed : IsTrimmed (characters raw) [] :=
    ⟨⟨characters raw, [], h, by simp, by simp⟩, by simp, by simp⟩
  exact ofText_of_eq_nil htrimmed rfl

/-- Of a text that is malformed nothing is taken over: the program is rewritten as
without a text. -/
theorem process_of_error {raw : Option String} {f : Failure} (h : ofText raw = .error f)
    (name directory : Option String) (program : Tree Node) (sessions : Sessions) :
    (process raw name directory program sessions).1 =
        (process none name directory program sessions).1 ∧
      (process raw name directory program sessions).2.2 =
        (process none name directory program sessions).2.2 := by
  have hnone : ofText none = .ok standard := ofText_of_blank (by simp [characters])
  unfold process
  rw [h, hnone]
  exact ⟨rfl, rfl⟩

/-- **Reading options is all or nothing and does not depend on the order of the
members.** Without a text, or from white space alone, the standard options are read.
Any other text is taken without the white space around it. Options are read from it
exactly if it gives them; this is so for whichever members or entries it is taken to
have. Two objects that have the same members with the keys of options give the same,
whatever other members they have and whatever the order. Everything else is
malformed, and then the program is rewritten as without a text. -/
theorem ofText_allOrNothing (raw : Option String) :
    ((∀ c ∈ characters raw, IsWhiteSpace c) → ofText raw = .ok standard) ∧
    (∃ text, IsTrimmed (characters raw) text) ∧
    ∀ text, IsTrimmed (characters raw) text →
      (∀ o, ofText raw = .ok o ↔ Gives text o) ∧
      (∀ members, IsObject members text → ∀ o, ofText raw = .ok o ↔ MembersGive members o) ∧
      (∀ values, IsList values text → ∀ o, ofText raw = .ok o ↔
        values.length ≤ 3 ∧ MembersGive (inOrder OptionName.order values) o) ∧
      (∀ raw' text' members members', IsTrimmed (characters raw') text' →
        IsObject members text → IsObject members' text' →
        (members.filter Member.isOption).Perm (members'.filter Member.isOption) →
        ∀ o, ofText raw = .ok o ↔ ofText raw' = .ok o) ∧
      ((∀ o, ¬ Gives text o) → ∃ reason, ofText raw = .error (.malformedOptions reason) ∧
        ∀ name directory program sessions,
          (process raw name directory program sessions).1 =
            (process none name directory program sessions).1 ∧
          (process raw name directory program sessions).2.2 =
            (process none name directory program sessions).2.2) := by
  refine ⟨ofText_of_blank, ⟨_, trimBlanks_eq_iff.mp rfl⟩, fun text h => ?_⟩
  refine ⟨ofText_eq_ok_iff_gives h, fun members => ofText_of_isObject h, ?_, ?_, ?_⟩
  · intro values hlist o
    rw [ofText_eq_ok_iff h hlist.ne_nil, read_of_isList hlist]
  · intro raw' text' members members' h' hobject hobject' hperm o
    rw [ofText_of_isObject h hobject, ofText_of_isObject h' hobject']
    exact ⟨.of_perm hperm, .of_perm hperm.symm⟩
  · intro hnone
    cases herror : ofText raw with
    | ok o => exact absurd ((ofText_eq_ok_iff_gives h o).mp herror) (hnone o)
    | error f =>
      obtain ⟨reason, rfl⟩ := exists_of_ofText_eq_error h herror
      exact ⟨reason, rfl, process_of_error herror⟩

/-- An unknown member before the only option does not count, and neither does white
space around the object; a list gives the same option by its place, and a word gives
nothing. -/
theorem ofText_other_member_ignored :
    IsTrimmed (characters (some "\u00a0\x7b\"other\":1,\"quiet\":true\x7d\n"))
        "\x7b\"other\":1,\"quiet\":true\x7d".toList ∧
      IsObject [⟨"other", ['1']⟩, ⟨"quiet", booleanWord true⟩]
        "\x7b\"other\":1,\"quiet\":true\x7d".toList ∧
      IsTrimmed (characters (some "\x7b\"quiet\":true\x7d")) "\x7b\"quiet\":true\x7d".toList ∧
      IsObject [⟨"quiet", booleanWord true⟩] "\x7b\"quiet\":true\x7d".toList ∧
      (∀ o, ofText (some "\u00a0\x7b\"other\":1,\"quiet\":true\x7d\n") = .ok o ↔
        ofText (some "\x7b\"quiet\":true\x7d") = .ok o) ∧
      ofText (some "\x7b\"quiet\":true\x7d") = .ok ⟨true, "#root", false⟩ ∧
      ofText (some "\u3000[true]") = .ok ⟨true, "#root", false⟩ ∧
      ofText (some " \u3000\n") = .ok standard ∧
      ∃ reason, ofText (some "null") = .error (.malformedOptions reason) := by
  have hnil := isSpace_nil
  have hwhole : IsWhole ['1'] := ⟨⟨by simp, by simp⟩, by simp⟩
  have hone : IsValue ['1'] := .scalar (.positive (.parts hwhole .none .none))
  have hword : IsValue (booleanWord true) := .scalar (.boolean true)
  have hother : Member.IsWritten ⟨"other", ['1']⟩ ⟨"other".toList, [], [], ['1']⟩ :=
    Member.isWritten_self hone (by decide)
  have hquiet : Member.IsWritten ⟨"quiet", booleanWord true⟩
      ⟨"quiet".toList, [], [], booleanWord true⟩ :=
    Member.isWritten_self hword (by decide)
  have hobject : IsObject [⟨"quiet", booleanWord true⟩] "\x7b\"quiet\":true\x7d".toList := by
    refine ⟨[], "\"quiet\":true".toList, [], hnil, hnil, ⟨[_], ?_, .cons hquiet .nil⟩, by decide⟩
    exact .first hnil (.done hnil)
  have hobject' : IsObject [⟨"other", ['1']⟩, ⟨"quiet", booleanWord true⟩]
      "\x7b\"other\":1,\"quiet\":true\x7d".toList := by
    refine ⟨[], "\"other\":1,\"quiet\":true".toList, [], hnil, hnil,
      ⟨[_, _], ?_, .cons hother (.cons hquiet .nil)⟩, by decide⟩
    exact .first hnil (.next hnil hnil (.done hnil))
  have hlist : IsList [booleanWord true] "[true]".toList :=
    ⟨[], "true".toList, [], hnil, hnil, ⟨.first hnil (.done hnil), by simpa using hword⟩, by decide⟩
  have hgives : MembersGive [⟨"quiet", booleanWord true⟩] ⟨true, "#root", false⟩ := by
    refine ⟨by rintro (_ | _ | _) <;> decide, ?_, by rintro (_ | _ | _) <;> decide⟩
    rintro (_ | _ | _) v hv
    · obtain rfl := List.mem_singleton.mp hv
      exact .boolean true
    · cases hv
    · cases hv
  have hnull : ∀ o, ¬ Gives "null".toList o := by
    intro o h
    have htext : "null".toList = ['n', 'u', 'l', 'l'] := by decide
    rw [htext] at h
    cases h with
    | object hobject ho =>
      obtain ⟨before, inner, behind, -, -, -, heq⟩ := hobject
      exact absurd (heq ▸ by simp : '\x7b' ∈ ['n', 'u', 'l', 'l']) (by decide)
    | list hlist hlength ho =>
      obtain ⟨before, inner, behind, -, -, -, heq⟩ := hlist
      exact absurd (heq ▸ by simp : '[' ∈ ['n', 'u', 'l', 'l']) (by decide)
  have htrimmed : IsTrimmed (characters (some "\x7b\"quiet\":true\x7d"))
      "\x7b\"quiet\":true\x7d".toList := trimBlanks_eq_iff.mp (by decide)
  have htrimmed' : IsTrimmed (characters (some "\u00a0\x7b\"other\":1,\"quiet\":true\x7d\n"))
      "\x7b\"other\":1,\"quiet\":true\x7d".toList := trimBlanks_eq_iff.mp (by decide)
  have htrimmedList : IsTrimmed (characters (some "\u3000[true]")) "[true]".toList :=
    trimBlanks_eq_iff.mp (by decide)
  have htrimmedNull : IsTrimmed (characters (some "null")) "null".toList :=
    trimBlanks_eq_iff.mp (by decide)
  refine ⟨htrimmed', hobject', htrimmed, hobject, ?_, ?_, ?_, ?_, ?_⟩
  · have hsame := ((ofText_allOrNothing _).2.2 _ htrimmed').2.2.2.1
    exact hsame _ _ _ _ htrimmed hobject' hobject (by decide)
  · have hmembers := ((ofText_allOrNothing _).2.2 _ htrimmed).2.1
    exact (hmembers _ hobject _).mpr hgives
  · have hentries := ((ofText_allOrNothing _).2.2 _ htrimmedList).2.2.1
    exact (hentries _ hlist _).mpr ⟨by decide, hgives⟩
  · have hblank : (characters (some " \u3000\n")).all isBlank = true := by decide
    exact (ofText_allOrNothing _).1 fun c hc => isBlank_iff.mp (List.all_eq_true.mp hblank c hc)
  · have hmalformed := ((ofText_allOrNothing _).2.2 _ htrimmedNull).2.2.2.2
    obtain ⟨reason, h, -⟩ := hmalformed hnull
    exact ⟨reason, h⟩

end Options

end HotReload
