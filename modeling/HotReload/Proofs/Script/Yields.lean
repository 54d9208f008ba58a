/-
# What a reader gives is in no scope

A script is read without the program that it is put into, so no node of what
comes out has a scope number. The readers are taken one by one: if the readers
one level further in give trees in no scope, so does this one. Patterns,
functions and classes are treated here.

Key definitions: `Forest.Unscoped`, `Tree.Unscoped`, `AllUnscoped`,
`Script.Yields`.
Key theorems: `Script.Yields.bind`, `Script.yields_bindingTarget`,
`Script.yields_functionPart`, `Script.yields_classTail`.
-/
import HotReload.Script.Reader

namespace HotReload

/-- No node of the forest belongs to a scope. -/
def Forest.Unscoped : Forest Node → Prop
  | .nil => True
  | .cons n kids rest => n.context = 0 ∧ kids.Unscoped ∧ rest.Unscoped

/-- No node of the tree belongs to a scope. -/
def Tree.Unscoped (t : Tree Node) : Prop := t.root.context = 0 ∧ t.children.Unscoped

/-- No node of the trees belongs to a scope. -/
def AllUnscoped (ts : List (Tree Node)) : Prop := ∀ t ∈ ts, t.Unscoped

section Trees

variable {t : Tree Node} {ts us : List (Tree Node)}

@[simp] theorem allUnscoped_nil : AllUnscoped [] := by
  intro t ht
  cases ht

@[simp] theorem allUnscoped_cons : AllUnscoped (t :: ts) ↔ t.Unscoped ∧ AllUnscoped ts := by
  simp [AllUnscoped]

@[simp] theorem allUnscoped_append : AllUnscoped (ts ++ us) ↔ AllUnscoped ts ∧ AllUnscoped us := by
  simp [AllUnscoped, or_imp, forall_and]

@[simp] theorem Tree.unscoped_fill (f : Field) : (t.fill f).Unscoped ↔ t.Unscoped := Iff.rfl

theorem Forest.unscoped_ofList : (Forest.ofList ts).Unscoped ↔ AllUnscoped ts := by
  induction ts with
  | nil => simp [Forest.ofList, Forest.Unscoped]
  | cons t ts ih =>
    rw [allUnscoped_cons, ← ih, Tree.Unscoped, and_assoc]
    rfl

/-- A fresh node belongs to no scope. -/
@[simp] theorem Tree.unscoped_ofLabel (l : Label) :
    (Tree.ofLabel l ts).Unscoped ↔ AllUnscoped ts := by
  rw [← Forest.unscoped_ofList]
  exact ⟨fun h => h.2, fun h => ⟨rfl, h⟩⟩

end Trees

namespace Script

@[simp] theorem allUnscoped_childrenOf (ts : List (Tree Node)) (f : Field) :
    AllUnscoped (childrenOf ts f) ↔ AllUnscoped ts := by
  simp [AllUnscoped, childrenOf]

@[simp] theorem allUnscoped_optionalChild (t : Option (Tree Node)) (f : Field) :
    AllUnscoped (optionalChild t f) ↔ ∀ s ∈ t, s.Unscoped := by
  cases t <;> simp [optionalChild]

@[simp] theorem allUnscoped_parameterNodes (ts : List (Tree Node)) :
    AllUnscoped (parameterNodes ts) ↔ AllUnscoped ts := by
  simp [AllUnscoped, parameterNodes]

@[simp] theorem unscoped_identifierNode (name : String) : (identifierNode name).Unscoped := by
  simp [identifierNode]

/-- Whenever the reader gives something, `P` holds of it. -/
def Yields {α : Type} (P : α → Prop) (m : Parse α) : Prop :=
  ∀ tokens a rest, m tokens = .ok (a, rest) → P a

namespace Yields

variable {α β : Type} {P : α → Prop} {Q : β → Prop}

theorem pure {a : α} (h : P a) : Yields P (pure a) := by
  intro tokens b rest hb
  cases hb
  exact h

theorem throw (fault : Fault) : Yields P (throw fault) := by
  intro tokens a rest ha
  cases ha

theorem bind {m : Parse α} {f : α → Parse β} (hm : Yields P m) (hf : ∀ a, P a → Yields Q (f a)) :
    Yields Q (m >>= f) := by
  intro tokens b rest hb
  replace hb : Except.bind (m tokens) (fun r => f r.1 r.2) = .ok (b, rest) := hb
  cases hread : m tokens with
  | error fault =>
    rw [hread] at hb
    cases hb
  | ok r =>
    rw [hread] at hb
    exact hf r.1 (hm tokens r.1 r.2 hread) r.2 b rest hb

/-- Nothing comes after a failure. -/
theorem fail {m : Parse α} {f : α → Parse β} (hm : Yields (fun _ => False) m) :
    Yields Q (m >>= f) :=
  hm.bind fun _ h => h.elim

/-- What tells nothing about trees is passed over. -/
theorem skip {m : Parse α} {f : α → Parse β} (hf : ∀ a, Yields Q (f a)) : Yields Q (m >>= f) :=
  bind (P := fun _ => True) (fun _ _ _ _ => trivial) fun a _ => hf a

theorem ite {c : Prop} [Decidable c] {m n : Parse α} (hm : Yields P m) (hn : Yields P n) :
    Yields P (if c then m else n) := by
  split
  · exact hm
  · exact hn

theorem map {m : Parse α} {f : α → β} (hm : Yields P m) (hf : ∀ a, P a → Q (f a)) :
    Yields Q (f <$> m) := by
  intro tokens b rest hb
  replace hb : Except.map (fun r : α × List Lexeme => (f r.1, r.2)) (m tokens) = .ok (b, rest) := hb
  cases hread : m tokens with
  | error fault =>
    rw [hread] at hb
    cases hb
  | ok r =>
    rw [hread] at hb
    cases hb
    exact hf r.1 (hm tokens r.1 r.2 hread)

theorem some {m : Parse α} (hm : Yields P m) : Yields (fun o => ∀ a ∈ o, P a) (some <$> m) :=
  hm.map fun a ha b hb => by cases hb; exact ha

theorem unexpected (what : String) : Yields P (unexpected what) := by
  unfold Script.unexpected
  refine skip fun t => ?_
  split <;> exact throw _

theorem lift {x : Except Fault α} (h : ∀ a, x = .ok a → P a) : Yields P (monadLift x) := by
  intro tokens a rest ha
  replace ha : Except.bind x (fun a => .ok (a, tokens)) = .ok (a, rest) := ha
  cases x with
  | error fault => cases ha
  | ok b =>
    obtain rfl : b = a := by cases ha; rfl
    exact h b rfl

theorem untilMark {m : Parse (Tree Node)} (hm : Yields Tree.Unscoped m) (close : Mark)
    (fuel : Nat) : Yields AllUnscoped (untilMark close m fuel) := by
  induction fuel with
  | zero => exact throw _
  | succ fuel ih =>
    unfold Script.untilMark
    refine skip fun closed => ?_
    split
    · exact pure (by simp)
    · exact hm.bind fun t ht => ih.bind fun rest hrest => pure (by simp [ht, hrest])

theorem listUntil {m : Parse (Tree Node)} (hm : Yields Tree.Unscoped m) (close : Mark)
    (fuel : Nat) : Yields AllUnscoped (listUntil close m fuel) := by
  induction fuel with
  | zero => exact throw _
  | succ fuel ih =>
    unfold Script.listUntil
    refine skip fun closed => ?_
    split
    · exact pure (by simp)
    · refine hm.bind fun t ht => skip fun closed => ?_
      split
      · exact pure (by simpa using ht)
      · exact skip fun _ => ih.bind fun rest hrest => pure (by simp [ht, hrest])

end Yields

section Readers

variable {nested : Nested} (h : ∀ goal p, Yields Tree.Unscoped (nested goal p))

include h

/-! ### Patterns -/

omit h in
theorem unscoped_of_literalNode? {p : Place} {token : Token} {x : Except Fault (Tree Node)}
    {t : Tree Node} (hx : literalNode? p token = some x) (ht : x = .ok t) : t.Unscoped := by
  unfold literalNode? at hx
  split at hx
  · cases hx
    split at ht <;> cases ht
    simp
  · cases hx
    split at ht <;> cases ht
    simp
  · cases hx
    cases ht
    simp
  · cases hx

theorem yields_propertyKey (p : Place) : Yields Tree.Unscoped (propertyKey nested p) := by
  unfold propertyKey
  refine .skip fun computed => ?_
  split
  · exact (h _ _).bind fun e he => .skip fun _ => .pure (by simpa using he)
  · refine .skip fun t => ?_
    split
    · split
      · exact .skip fun _ => .pure (by simp)
      · rename_i hr
        exact .skip fun _ => .lift fun a => unscoped_of_literalNode? hr
      · exact .unexpected _
    · exact .unexpected _

theorem yields_patternElement (leaf : Goal) (p : Place) :
    Yields Tree.Unscoped (patternElement nested leaf p) := by
  unfold patternElement
  refine (h _ _).bind fun left hleft => .skip fun initialized => ?_
  split
  · exact (h _ _).bind fun right hright => .pure (by simp [hleft, hright])
  · exact .pure hleft

theorem yields_restElement (leaf : Goal) (p : Place) (close : Mark) :
    Yields Tree.Unscoped (restElement nested leaf p close) := by
  unfold restElement
  exact (h _ _).bind fun e he => .skip fun _ => .pure (by simpa using he)

theorem yields_arrayPatternElements (leaf : Goal) (p : Place) (fuel : Nat) :
    Yields AllUnscoped (arrayPatternElements nested leaf p fuel) := by
  induction fuel with
  | zero => exact .throw _
  | succ fuel ih =>
    unfold arrayPatternElements
    refine .skip fun closed => ?_
    split
    · exact .pure (by simp)
    refine .skip fun hole => ?_
    split
    · exact ih.bind fun rest hrest => .pure (by simpa using hrest)
    refine .skip fun dots => ?_
    split
    · exact (yields_restElement h leaf p _).bind fun e he => .pure (by simpa using he)
    refine (yields_patternElement h leaf p).bind fun e he => .skip fun closed => ?_
    split
    · exact .pure (by simpa using he)
    · exact .skip fun _ => ih.bind fun rest hrest => .pure (by simp [he, hrest])

theorem yields_arrayPattern (leaf : Goal) (p : Place) :
    Yields Tree.Unscoped (arrayPattern nested leaf p) := by
  unfold arrayPattern
  refine .skip fun _ => .skip fun fuel => ?_
  exact (yields_arrayPatternElements h leaf p fuel).bind fun ts hts => .pure (by simpa using hts)

theorem yields_patternProperty (leaf : Goal) (p : Place) :
    Yields Tree.Unscoped (patternProperty nested leaf p) := by
  unfold patternProperty
  refine .skip fun t => (yields_propertyKey h p).bind fun key hkey => .skip fun colon => ?_
  split
  · exact (yields_patternElement h leaf p).bind fun value hvalue => .pure (by simp [hkey, hvalue])
  · split
    · split
      · exact .throw _
      · refine .skip fun initialized => ?_
        split
        · exact (h _ _).some.bind fun value hvalue => .pure (by simpa using hvalue)
        · exact .pure (by simp)
    · exact .unexpected _

theorem yields_objectPatternProperties (leaf : Goal) (p : Place) (fuel : Nat) :
    Yields AllUnscoped (objectPatternProperties nested leaf p fuel) := by
  induction fuel with
  | zero => exact .throw _
  | succ fuel ih =>
    unfold objectPatternProperties
    refine .skip fun closed => ?_
    split
    · exact .pure (by simp)
    refine .skip fun dots => ?_
    split
    · exact (yields_restElement h leaf p _).bind fun e he => .pure (by simpa using he)
    refine (yields_patternProperty h leaf p).bind fun e he => .skip fun closed => ?_
    split
    · exact .pure (by simpa using he)
    · exact .skip fun _ => ih.bind fun rest hrest => .pure (by simp [he, hrest])

theorem yields_objectPattern (leaf : Goal) (p : Place) :
    Yields Tree.Unscoped (objectPattern nested leaf p) := by
  unfold objectPattern
  refine .skip fun _ => .skip fun fuel => ?_
  exact (yields_objectPatternProperties h leaf p fuel).bind fun ts hts => .pure (by simpa using hts)

theorem yields_bindingTarget (p : Place) : Yields Tree.Unscoped (bindingTarget nested p) := by
  unfold bindingTarget
  refine .skip fun t => ?_
  split
  · exact yields_arrayPattern h _ p
  · exact yields_objectPattern h _ p
  · exact .skip fun name => .pure (by simp)

theorem yields_targetPattern (p : Place) : Yields Tree.Unscoped (targetPattern nested p) := by
  unfold targetPattern
  refine .skip fun bracket => ?_
  split
  · exact yields_arrayPattern h _ p
  · exact yields_objectPattern h _ p

/-! ### Functions and classes -/

theorem yields_bodyStatements (close : Option Mark) (simple : Bool) (fuel : Nat) (leading : Bool)
    (p : Place) : Yields AllUnscoped (bodyStatements nested close simple fuel leading p) := by
  induction fuel generalizing leading p with
  | zero => exact .throw _
  | succ fuel ih =>
    unfold bodyStatements
    extract_lets body
    have hbody : ∀ closed, Yields AllUnscoped (body closed) := by
      intro closed
      dsimp only [body]
      split
      · exact .pure (by simp)
      · refine (h _ _).bind fun s hs => ?_
        exact .ite (.fail (.throw _)) ((ih _ _).bind fun rest hrest => .pure (by simp [hs, hrest]))
    split
    · exact .skip hbody
    · exact .skip fun _ => .skip hbody

theorem yields_functionBody (p : Place) (simple : Bool) :
    Yields Tree.Unscoped (functionBody nested p simple) := by
  unfold functionBody
  refine .skip fun _ => .skip fun fuel => ?_
  exact (yields_bodyStatements h _ _ _ _ _).bind fun body hbody => .pure (by simpa using hbody)

theorem yields_parameterList (p : Place) (fuel : Nat) :
    Yields AllUnscoped (parameterList nested p fuel) := by
  induction fuel with
  | zero => exact .throw _
  | succ fuel ih =>
    unfold parameterList
    refine .skip fun closed => ?_
    split
    · exact .pure (by simp)
    refine .skip fun dots => ?_
    split
    · exact (yields_restElement h _ p _).bind fun e he => .pure (by simpa using he)
    refine (yields_patternElement h _ p).bind fun e he => .skip fun closed => ?_
    split
    · exact .pure (by simpa using he)
    · exact .skip fun _ => ih.bind fun rest hrest => .pure (by simp [he, hrest])

theorem yields_functionPart (p : Place) : Yields Tree.Unscoped (functionPart nested p) := by
  unfold functionPart
  refine .skip fun _ => .skip fun fuel => ?_
  refine (yields_parameterList h p fuel).bind fun parameters hparameters => ?_
  exact (yields_functionBody h p _).bind fun body hbody => .pure (by simp [hparameters, hbody])

theorem yields_arrowFunction (p : Place) (async : Bool) :
    Yields Tree.Unscoped (arrowFunction nested p async) := by
  unfold arrowFunction
  extract_lets inner outside place finish start
  have hfinish : ∀ parameters, AllUnscoped parameters →
      Yields Tree.Unscoped (finish parameters) := by
    intro parameters hparameters
    refine .skip fun _ => .skip fun braces => ?_
    split
    · exact (yields_functionBody h _ _).bind fun body hbody => .pure (by simp [hparameters, hbody])
    · exact (h _ _).bind fun body hbody => .pure (by simp [hparameters, hbody])
  have hstart : Yields Tree.Unscoped (start ()) := by
    refine .skip fun parentheses => ?_
    split
    · exact .skip fun fuel => (yields_parameterList h _ _).bind hfinish
    · exact .skip fun name => hfinish _ (by simp)
  split
  · exact .skip fun _ => hstart
  · exact hstart

theorem yields_functionExpression (p : Place) (async : Bool) :
    Yields Tree.Unscoped (functionExpression nested p async) := by
  unfold functionExpression
  refine .skip fun _ => .skip fun generator => ?_
  extract_lets inner finish
  have hfinish : ∀ name, (∀ t ∈ name, t.Unscoped) → Yields Tree.Unscoped (finish name) :=
    fun name hname => (yields_functionPart h _).bind fun part hpart =>
      .pure (by simpa [hpart] using hname)
  refine .skip fun anonymous => .ite (hfinish none (by simp)) ?_
  exact .skip fun name => hfinish _ (by simp)

theorem yields_functionDeclaration (p : Place) (async : Bool) :
    Yields Tree.Unscoped (functionDeclaration nested p async) := by
  unfold functionDeclaration
  refine .skip fun _ => .skip fun generator => .skip fun name => ?_
  exact (yields_functionPart h _).bind fun part hpart => .pure (by simpa using hpart)

theorem yields_setterPart (p : Place) :
    Yields (fun r => r.1.Unscoped ∧ r.2.Unscoped) (setterPart nested p) := by
  unfold setterPart
  refine .skip fun _ => .skip fun empty => .ite (.fail (.throw _)) ?_
  refine .skip fun dots => .ite (.fail (.throw _)) ?_
  refine (yields_patternElement h _ p).bind fun t ht => ?_
  refine .skip fun comma => .ite (.fail (.throw _)) ?_
  refine .skip fun _ => (yields_functionBody h _ _).bind fun body hbody => ?_
  exact .pure ⟨ht, hbody⟩

theorem yields_getterPart (p : Place) : Yields Tree.Unscoped (getterPart nested p) := by
  unfold getterPart
  refine .skip fun _ => .skip fun empty => ?_
  exact .ite (.skip fun _ => yields_functionBody h _ _) (.fail (.throw _))

theorem yields_memberKey (p : Place) :
    Yields (fun r => r.1.Unscoped) (memberKey nested p) := by
  unfold memberKey
  refine .skip fun t => ?_
  split
  · exact .skip fun _ => .pure (by simp)
  · exact (yields_propertyKey h p).bind fun key hkey => .pure hkey

theorem yields_methodPart (p : Place) (m : Modifiers) :
    Yields Tree.Unscoped (methodPart nested p m) := by
  unfold methodPart
  split
  · exact yields_functionPart h _
  · exact (yields_getterPart h _).bind fun body hbody => .pure (by simpa using hbody)
  · exact (yields_setterPart h _).bind fun r hr => .pure (by simpa using hr)

theorem yields_classMember (p : Place) (derived : Bool) :
    Yields Tree.Unscoped (classMember nested p derived) := by
  unfold classMember
  refine .skip fun semicolon => .ite (.pure (by simp)) (.skip fun word => .skip fun brace => ?_)
  refine .ite ?_ ?_
  · refine .skip fun _ => .skip fun _ => .skip fun fuel => ?_
    exact (yields_bodyStatements h _ _ _ _ _).bind fun body hbody => .pure (by simpa using hbody)
  refine .skip fun static => .skip fun m => (yields_memberKey h p).bind fun key hkey => ?_
  refine .skip fun parenthesis => .ite ?_ ?_
  · refine .ite (.ite (.fail (.throw _)) ?_) ?_
    · refine .skip fun _ => .skip fun fuel => ?_
      refine (yields_parameterList h _ _).bind fun parameters hparameters => ?_
      exact (yields_functionBody h _ _).bind fun body hbody =>
        .pure (by simp [hkey, hparameters, hbody])
    · exact (yields_methodPart h p m).bind fun part hpart => .pure (by simp [hkey, hpart])
  · refine .ite (.fail (.unexpected _)) (.ite (.fail (.throw _)) ?_)
    extract_lets finish
    have hfinish : ∀ value, (∀ t ∈ value, t.Unscoped) → Yields Tree.Unscoped (finish value) :=
      fun value hvalue => .skip fun _ => .pure (by simpa [hkey] using hvalue)
    refine .skip fun initialized => .ite ((h _ _).some.bind hfinish) (hfinish none (by simp))

theorem yields_classTail (label : Label) {name : Option (Tree Node)} (p : Place)
    (hname : ∀ t ∈ name, t.Unscoped) : Yields Tree.Unscoped (classTail nested label name p) := by
  unfold classTail
  extract_lets place finish
  have hfinish : ∀ heritage, (∀ t ∈ heritage, t.Unscoped) →
      Yields Tree.Unscoped (finish heritage) := by
    intro heritage hheritage
    refine .skip fun _ => .skip fun fuel => ?_
    refine ((yields_classMember h _ _).untilMark _ _).bind fun members hmembers => ?_
    refine .ite (.fail (.throw _)) ?_
    refine .pure ?_
    simpa using ⟨hname, hmembers, hheritage⟩
  refine .skip fun derived => .ite ((h _ _).some.bind hfinish) (hfinish none (by simp))

end Readers

end Script

end HotReload
