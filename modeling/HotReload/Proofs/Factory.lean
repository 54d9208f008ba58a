/-
# The two readings of a factory call

Whether a call creates an application is asked twice: of the call itself, by the
role that it has, and of the name that is declared with the call for its
initializer, by the look-up of the name. For a name that is declared once outside of
imports the two answers are the same, whatever the initializer is, but for calls of
the name `require`. Such a call is taken for the loading of a module where it declares
a name, whatever `require` is; as a call it creates an application if `require`
comes from the framework package. A name that is declared inside imports only is no
application, since a look-up does not find it. Where nothing is declared inside an
import, the two readings agree on every name that is declared once in the program
(`factory_readings_agree`, `factory_calls_read_apart`).

Key definitions: `Introductions.Only`, `Tree.ReadsFactoriesAlike`.
Key theorems: `Scope.callRole_eq_factory_iff`, `Introductions.Only.get?_eq`,
`factory_readings_agree`, `factory_calls_read_apart`.
-/
import HotReload.Proofs.Recognition

namespace HotReload

/-- The identifier `id` is introduced once, by `i`. A parameter, a function or a class
introduces nothing that a look-up finds. -/
def Introductions.Only (known : Introductions) (id : Ident) (i : Introduction) : Prop :=
  ∃ before after, known = before ++ (id, i) :: after ∧ ∀ other ∈ before ++ after, other.1 ≠ id

theorem Introductions.Only.last {known : Introductions} {id : Ident} {i : Introduction}
    (h : known.Only id i) : known.Last id i := by
  obtain ⟨before, after, hsplit, hother⟩ := h
  exact ⟨before, after, hsplit, fun later hlater => hother later (List.mem_append_right _ hlater)⟩

/-- A name that is introduced once outside of imports has the value that its introduction
says. -/
theorem Introductions.Only.get?_eq {program : Tree Node} {id : Ident} {i : Introduction}
    (h : program.toForest.introductions.Only id i) :
    (Scope.ofProgram program).get? id = some i.definition :=
  Scope.get?_eq_some_iff.mpr ⟨i, h.last, rfl⟩

/-- A name that is introduced nowhere outside of imports is no application. -/
theorem Scope.isApplication_eq_false {program : Tree Node} {x : Ident}
    (h : ∀ i, (x, i) ∉ program.toForest.introductions) :
    (ofProgram program).isApplication x = false := by
  rw [← Bool.not_eq_true, isApplication_iff]
  rintro ⟨initializer, f, ⟨before, after, hsplit, -⟩, -⟩
  apply h (.declarator (some initializer))
  rw [hsplit]
  simp

/-- A call creates an application exactly if it calls a name that comes from the
framework package. -/
theorem Scope.callRole_eq_factory_iff {s : Scope} {call : Tree Node} (hcall : call.label = .call) :
    s.callRole call = .factory ↔ ∃ f, call.Calls f ∧ s.isFactory f = true := by
  constructor
  · intro h
    unfold callRole at h
    split at h
    · rename_i callee hcallee
      split at h
      · rename_i name hlabel
        by_cases hfactory : s.isFactory ⟨name, callee.root.context⟩ = true
        · have hident : callee.ident? = some ⟨name, callee.root.context⟩ := by
            have hroot : callee.root.label = .identifier name := hlabel
            unfold Tree.ident? Node.ident?
            rw [hroot]
          exact ⟨_, ⟨hcall, callee, hcallee, hident⟩, hfactory⟩
        · rw [if_neg hfactory] at h
          cases h
      · -- the method of an application creates none
        unfold memberRole at h
        split at h
        · split at h
          · split at h
            · cases h
            · split at h <;> cases h
          · cases h
        · cases h
      · cases h
    · cases h
  · rintro ⟨f, ⟨-, callee, hcallee, hident⟩, hfactory⟩
    unfold callRole
    rw [hcallee]
    obtain ⟨⟨field, label, context, span⟩, kids⟩ := callee
    cases label with
    | identifier name =>
      obtain rfl : (⟨name, context⟩ : Ident) = f := by
        simpa [Tree.ident?, Node.ident?] using hident
      exact if_pos hfactory
    | _ => cases hident

/-- By the introductions `known`, the two readings of a factory call agree. A name that is
introduced once, by a declarator, is an application exactly if its initializer is a call
that creates an application and does not call the name `require`. Where no `require`
comes from the framework package, it is one exactly if its initializer creates an
application. -/
structure Tree.ReadsFactoriesAlike (program : Tree Node) (known : Introductions) : Prop where
  otherNames : ∀ x initializer, known.Only x (.declarator initializer) →
    ((Scope.ofProgram program).isApplication x = true ↔
      ∃ call, initializer = some call ∧ call.label = .call ∧
        (Scope.ofProgram program).callRole call = .factory ∧
        ∀ context, ¬ call.Calls ⟨requireName, context⟩)
  allNames : (∀ context, ¬ known.FromFramework ⟨requireName, context⟩) →
    ∀ x initializer, known.Only x (.declarator initializer) →
      ((Scope.ofProgram program).isApplication x = true ↔
        ∃ call, initializer = some call ∧ call.label = .call ∧
          (Scope.ofProgram program).callRole call = .factory)

section Readings

variable {program : Tree Node} {x : Ident} {initializer : Option (Tree Node)}

theorem isApplication_iff_of_only
    (h : program.toForest.introductions.Only x (.declarator initializer)) :
    (Scope.ofProgram program).isApplication x = true ↔
      ∃ call, initializer = some call ∧ call.label = .call ∧
        (Scope.ofProgram program).callRole call = .factory ∧
        ∀ context, ¬ call.Calls ⟨requireName, context⟩ := by
  rw [Scope.isApplication_eq_true_iff, h.get?_eq]
  constructor
  · rintro ⟨f, hcalled, hfactory⟩
    cases initializer with
    | none => cases hcalled
    | some call =>
      have hdefinition : Definition.ofInitializer call = .called f := Option.some.inj hcalled
      obtain ⟨hcalls, hname⟩ := Definition.ofInitializer_eq_called_iff.mp hdefinition
      have hrole := (Scope.callRole_eq_factory_iff hcalls.1).mpr ⟨f, hcalls, hfactory⟩
      refine ⟨call, rfl, hcalls.1, hrole, fun context hrequire => hname ?_⟩
      rw [hcalls.unique hrequire]
  · rintro ⟨call, rfl, hcall, hrole, hrequire⟩
    obtain ⟨f, hcalls, hfactory⟩ := (Scope.callRole_eq_factory_iff hcall).mp hrole
    have hname : f.name ≠ requireName := by
      intro hname
      apply hrequire f.context
      rw [← hname]
      exact hcalls
    have hdefinition := Definition.ofInitializer_eq_called_iff.mpr ⟨hcalls, hname⟩
    exact ⟨f, congrArg some hdefinition, hfactory⟩

/-- A call that creates an application calls no `require`, if none comes from the framework
package. -/
theorem not_calls_require {call : Tree Node}
    (hframework : ∀ context,
      ¬ program.toForest.introductions.FromFramework ⟨requireName, context⟩)
    (hcall : call.label = .call) (hrole : (Scope.ofProgram program).callRole call = .factory)
    (context : Nat) : ¬ call.Calls ⟨requireName, context⟩ := by
  intro hrequire
  obtain ⟨f, hcalls, hfactory⟩ := (Scope.callRole_eq_factory_iff hcall).mp hrole
  apply hframework context
  rw [← hcalls.unique hrequire]
  exact Scope.isFactory_iff.mp hfactory

end Readings

/-- **The two readings of a factory call agree** by the introductions outside of imports.
What is introduced inside imports only is no application. If nothing is introduced inside
an import, the readings agree by all introductions of the program. -/
theorem factory_readings_agree (program : Tree Node) :
    program.ReadsFactoriesAlike program.toForest.introductions ∧
      (∀ x, (∀ i, (x, i) ∉ program.toForest.introductions) →
        (Scope.ofProgram program).isApplication x = false) ∧
      (program.NothingInImports → program.ReadsFactoriesAlike program.allIntroductions) := by
  have houter : program.ReadsFactoriesAlike program.toForest.introductions := by
    refine ⟨fun x initializer => isApplication_iff_of_only, fun hframework x initializer h => ?_⟩
    rw [isApplication_iff_of_only h]
    constructor
    · rintro ⟨call, hinitializer, hcall, hrole, -⟩
      exact ⟨call, hinitializer, hcall, hrole⟩
    · rintro ⟨call, hinitializer, hcall, hrole⟩
      exact ⟨call, hinitializer, hcall, hrole, not_calls_require hframework hcall hrole⟩
  refine ⟨houter, fun x => Scope.isApplication_eq_false, fun hnothing => ?_⟩
  rw [← Tree.allIntroductions_eq hnothing]
  exact houter

/-! ### Factories under the name of the loader and in an attribute -/

open Script HotUnit

/-- The program that imports the factory under the given name and declares `app` with a
call of it. -/
def factoryNamed (name : String) : Tree Node :=
  .ofLabel (.moduleRoot none) (childrenOf
    [importNode ⟨name, 2⟩ frameworkPackage [],
      constantsNode [(⟨"app", 2⟩, invocationNode (namedNode ⟨name, 2⟩) [])]] .statements)

/-- The initializer of `app` in that program. -/
def callOfNamed (name : String) : Tree Node :=
  (invocationNode (namedNode ⟨name, 2⟩) []).fill .initializer

theorem only_factoryNamed (name : String) (hname : name ≠ "app") :
    (factoryNamed name).allIntroductions.Only ⟨"app", 2⟩
      (.declarator (some (callOfNamed name))) := by
  refine ⟨[(⟨name, 2⟩, .specifier frameworkPackage)], [], rfl, fun other hother => ?_⟩
  obtain rfl : other = _ := by simpa using hother
  simpa using hname

/-- Under its usual name the factory is read alike. -/
theorem factoryNamed_dva_agrees :
    (factoryNamed "dva").NothingInImports ∧
    (factoryNamed "dva").allIntroductions.Only ⟨"app", 2⟩
      (.declarator (some (callOfNamed "dva"))) ∧
    (Scope.ofProgram (factoryNamed "dva")).callRole (callOfNamed "dva") = .factory ∧
    (Scope.ofProgram (factoryNamed "dva")).isApplication ⟨"app", 2⟩ = true := by
  have honly := only_factoryNamed "dva" (by decide)
  have hnothing : (factoryNamed "dva").NothingInImports := by decide
  have hrole : (Scope.ofProgram (factoryNamed "dva")).callRole (callOfNamed "dva") = .factory := rfl
  have hcalls : (callOfNamed "dva").Calls ⟨"dva", 2⟩ := ⟨rfl, _, rfl, rfl⟩
  have hrequire : ∀ context, ¬ (callOfNamed "dva").Calls ⟨requireName, context⟩ := by
    intro context hrequire
    have hname : "dva" = requireName := congrArg Ident.name (hcalls.unique hrequire)
    exact absurd hname (by decide)
  have hreadings := ((factory_readings_agree (factoryNamed "dva")).2.2 hnothing).otherNames _ _ honly
  exact ⟨hnothing, honly, hrole, hreadings.mpr ⟨_, rfl, rfl, hrole, hrequire⟩⟩

/-- The module that imports the factory with an attribute in whose value `app` is declared
with a call of it. -/
def attributeCreating : Tree Node :=
  attributeProgram ⟨"dva", 2⟩ frameworkPackage [constantsNode [(⟨"app", 3⟩, factoryNode)]]

/-- A factory that is imported under the name `require`, and a factory that is called in
the value of an attribute of an import: each call creates an application, and the only name
that is declared with it is none. -/
theorem factory_calls_read_apart :
    ((factoryNamed "require").IsSyntax ∧
      (factoryNamed "require").allIntroductions.Only ⟨"app", 2⟩
        (.declarator (some (callOfNamed "require"))) ∧
      (callOfNamed "require").label = .call ∧
      (Scope.ofProgram (factoryNamed "require")).callRole (callOfNamed "require") = .factory ∧
      (Scope.ofProgram (factoryNamed "require")).isApplication ⟨"app", 2⟩ = false) ∧
    attributeCreating.IsSyntax ∧
      attributeCreating.allIntroductions.Only ⟨"app", 3⟩
        (.declarator (some (factoryNode.fill .initializer))) ∧
      (factoryNode.fill .initializer).label = .call ∧
      (Scope.ofProgram attributeCreating).callRole (factoryNode.fill .initializer) = .factory ∧
      (Scope.ofProgram attributeCreating).isApplication ⟨"app", 3⟩ = false := by
  have honly : attributeCreating.allIntroductions.Only ⟨"app", 3⟩
      (.declarator (some (factoryNode.fill .initializer))) :=
    ⟨[(⟨"dva", 2⟩, .specifier frameworkPackage)], [], rfl, by simp⟩
  exact ⟨⟨by decide, only_factoryNamed "require" (by decide), rfl, rfl, rfl⟩,
    by decide, honly, rfl, rfl, rfl⟩

end HotReload
