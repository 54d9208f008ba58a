/-
# A script is in no scope

The readers of expressions and statements give trees in no scope if those one
level further in do; by induction on the depth of nesting so does the grammar,
and with it the reader of scripts.

Key theorems: `Script.yields_level`, `Script.yields_grammar`,
`Script.unscoped_of_readStatement`.
-/
import HotReload.Proofs.Script.Yields

namespace HotReload

namespace Script

section Readers

variable {nested : Nested} (h : ∀ goal p, Yields Tree.Unscoped (nested goal p))

include h

/-! ### Expressions -/

theorem yields_templateParts (p : Place) (tagged : Bool) (fuel : Nat) :
    Yields (fun r => AllUnscoped r.1 ∧ AllUnscoped r.2) (templateParts nested p tagged fuel) := by
  induction fuel with
  | zero => exact .throw _
  | succ fuel ih =>
    unfold templateParts
    extract_lets part
    have hpart : ∀ text, Yields (fun r => AllUnscoped r.1 ∧ AllUnscoped r.2) (part text) := by
      intro text
      refine .ite (.fail (.throw _)) (.skip fun closed => ?_)
      refine .ite (.pure (by simp)) (.skip fun _ => ?_)
      refine (h _ _).bind fun e he => .skip fun _ => ih.bind fun r hr => .pure ?_
      simpa [he] using hr
    refine .skip fun t => ?_
    split
    · exact .skip fun _ => .skip hpart
    · exact .skip hpart

theorem yields_template (p : Place) (tagged : Bool) :
    Yields Tree.Unscoped (template nested p tagged) := by
  unfold template
  refine .skip fun fuel => (yields_templateParts h p tagged fuel).bind fun r hr => ?_
  exact .pure (by simpa using hr)

theorem yields_argumentNode (p : Place) : Yields Tree.Unscoped (argumentNode nested p) := by
  unfold argumentNode
  refine .skip fun dots => ?_
  exact (h _ _).bind fun e he => .pure (by simpa using he)

theorem yields_arrayElements (p : Place) (fuel : Nat) :
    Yields AllUnscoped (arrayElements nested p fuel) := by
  induction fuel with
  | zero => exact .throw _
  | succ fuel ih =>
    unfold arrayElements
    refine .skip fun closed => .ite (.pure (by simp)) (.skip fun hole => .ite ?_ ?_)
    · exact ih.bind fun rest hrest => .pure (by simpa using hrest)
    · refine (yields_argumentNode h p).bind fun e he => .skip fun closed => ?_
      refine .ite (.pure (by simpa using he)) ?_
      exact .skip fun _ => ih.bind fun rest hrest => .pure (by simp [he, hrest])

theorem yields_objectProperty (p : Place) : Yields Tree.Unscoped (objectProperty nested p) := by
  unfold objectProperty
  refine .skip fun dots => .ite ?_ ?_
  · exact (h _ _).bind fun e he => .pure (by simpa using he)
  refine .skip fun m => .skip fun t => (yields_propertyKey h p).bind fun key hkey => ?_
  split
  · exact (yields_getterPart h _).bind fun body hbody => .pure (by simp [hkey, hbody])
  · exact (yields_setterPart h _).bind fun r hr => .pure (by simpa [hkey] using hr)
  · refine .skip fun parenthesis => .ite ?_ (.skip fun colon => .ite ?_ ?_)
    · exact (yields_functionPart h _).bind fun part hpart => .pure (by simp [hkey, hpart])
    · exact (h _ _).bind fun value hvalue => .pure (by simp [hkey, hvalue])
    · split
      · exact .pure (by simp)
      · exact .unexpected _

theorem yields_callArguments (p : Place) : Yields AllUnscoped (callArguments nested p) := by
  unfold callArguments
  refine .skip fun fuel => ((yields_argumentNode h p).listUntil _ _).bind fun ts hts => ?_
  exact .pure ((allUnscoped_childrenOf ts _).mpr hts)

theorem yields_classExpression (p : Place) : Yields Tree.Unscoped (classExpression nested p) := by
  unfold classExpression
  extract_lets inner finish
  have hfinish : ∀ name, (∀ t ∈ name, t.Unscoped) → Yields Tree.Unscoped (finish name) :=
    fun name hname => yields_classTail h _ p hname
  refine .skip fun t => .ite ?_ (hfinish none (by simp))
  have hname : Yields (fun name => ∀ t ∈ name, t.Unscoped)
      ((some ∘ identifierNode) <$> definedName inner) := by
    refine Yields.map (P := fun _ => True) (fun _ _ _ _ => trivial) fun name _ => ?_
    simp
  exact hname.bind hfinish

theorem yields_primaryExpression (p : Place) :
    Yields Tree.Unscoped (primaryExpression nested p) := by
  unfold primaryExpression
  refine .skip fun t => ?_
  split
  · refine .skip fun _ => (h _ _).bind fun e he => .skip fun _ => .pure (by simpa using he)
  · refine .skip fun _ => .skip fun fuel => (yields_arrayElements h p fuel).bind fun ts hts => ?_
    exact .pure (by simpa using hts)
  · refine .skip fun _ => .skip fun fuel => ?_
    refine ((yields_objectProperty h p).listUntil _ _).bind fun ts hts => .pure ?_
    simpa using hts
  · exact .skip fun _ => yields_template h p false
  · exact .skip fun _ => .pure (by simp)
  · exact .skip fun _ => .pure (by simp)
  · exact .skip fun _ => .pure (by simp)
  · exact .skip fun _ => .pure (by simp)
  · exact .skip fun _ => .pure (by simp)
  · exact yields_functionExpression h p false
  · exact .skip fun _ => yields_classExpression h p
  · refine .skip fun _ => .skip fun _ => .ite ?_ ?_
    · exact .skip fun _ => yields_functionExpression h p true
    · split
      · rename_i hr
        exact .skip fun _ => .lift fun t => unscoped_of_literalNode? hr
      · split
        · exact .skip fun _ => .pure (by simp)
        · exact .unexpected _
  · exact .unexpected _

omit h in
theorem yields_dotProperty : Yields Tree.Unscoped dotProperty := by
  unfold dotProperty
  refine .skip fun t => ?_
  split
  · exact .skip fun _ => .pure (by simp)
  · split
    · exact .skip fun _ => .pure (by simp)
    · exact .unexpected _
  · exact .unexpected _

theorem yields_bracketProperty (p : Place) : Yields Tree.Unscoped (bracketProperty nested p) := by
  unfold bracketProperty
  exact (h _ _).bind fun e he => .skip fun _ => .pure (by simpa using he)

omit h in
@[simp] theorem unscoped_memberNode {object property : Tree Node} :
    (memberNode object property).Unscoped ↔ object.Unscoped ∧ property.Unscoped := by
  simp [memberNode]

omit h in
@[simp] theorem unscoped_callNode {chain : Bool} {callee : Tree Node} {ts : List (Tree Node)} :
    (callNode chain callee ts).Unscoped ↔ callee.Unscoped ∧ AllUnscoped ts := by
  simp [callNode]

omit h in
@[simp] theorem unscoped_chained {chain optional : Bool} {t : Tree Node} :
    (chained chain optional t).Unscoped ↔ t.Unscoped := by
  cases chain <;> simp [chained]

theorem yields_suffixes (p : Place) (calls : Bool) (fuel : Nat) (chain : Bool) {t : Tree Node}
    (ht : t.Unscoped) : Yields Tree.Unscoped (suffixes nested p calls fuel chain t) := by
  induction fuel generalizing chain t with
  | zero => exact .throw _
  | succ fuel ih =>
    unfold suffixes
    refine .skip fun next => ?_
    split
    · exact .skip fun _ => yields_dotProperty.bind fun property hproperty =>
        ih _ (by simp [ht, hproperty])
    · exact .skip fun _ => (yields_bracketProperty h p).bind fun property hproperty =>
        ih _ (by simp [ht, hproperty])
    · refine .ite (.skip fun _ => ?_) (.pure ht)
      exact (yields_callArguments h p).bind fun arguments harguments =>
        ih _ (by simp [ht, harguments])
    · refine .ite (.fail (.throw _)) (.skip fun _ => ?_)
      exact (yields_template h p true).bind fun quasi hquasi => ih _ (by simp [ht, hquasi])
    · refine .ite (.fail (.throw _)) (.skip fun _ => .skip fun next => ?_)
      split
      · exact .skip fun _ => (yields_callArguments h p).bind fun arguments harguments =>
          ih _ (by simp [ht, harguments])
      · exact .skip fun _ => (yields_bracketProperty h p).bind fun property hproperty =>
          ih _ (by simp [ht, hproperty])
      · exact .throw _
      · exact yields_dotProperty.bind fun property hproperty => ih _ (by simp [ht, hproperty])
    · exact .pure ht

theorem yields_operandBase (p : Place) (calls : Bool) :
    Yields Tree.Unscoped (operandBase nested p calls) := by
  unfold operandBase
  refine .skip fun super => .ite ?_ ?_
  · refine .skip fun next => ?_
    split
    · refine .ite (.skip fun _ => ?_) (.fail (.throw _))
      exact yields_dotProperty.bind fun property hproperty => .pure (by simpa using hproperty)
    · refine .ite (.skip fun _ => ?_) (.fail (.throw _))
      exact (yields_bracketProperty h p).bind fun property hproperty =>
        .pure (by simpa using hproperty)
    · refine .ite (.skip fun _ => ?_) (.fail (.throw _))
      exact (yields_callArguments h p).bind fun arguments harguments =>
        .pure (by simpa using harguments)
    · exact .fail (.unexpected _)
  refine .skip fun imported => .ite (.skip fun parenthesis => ?_) (yields_primaryExpression h p)
  refine .ite (.skip fun _ => ?_) (.fail (.throw _))
  exact (yields_callArguments h p).bind fun arguments harguments =>
    .pure (by simpa using harguments)

theorem yields_afterNew (p : Place) : Yields Tree.Unscoped (afterNew nested p) := by
  unfold afterNew
  refine .skip fun dot => .ite ?_ ?_
  · refine .skip fun next => ?_
    split
    · exact .ite (.skip fun _ => .pure (by simp)) (.fail (.throw _))
    · exact .fail (.unexpected _)
  · extract_lets finish
    have hfinish : ∀ base, base.Unscoped → Yields Tree.Unscoped (finish base) := by
      intro base hbase
      refine .skip fun fuel => (yields_suffixes h p false _ _ hbase).bind fun callee hcallee => ?_
      refine .skip fun parenthesis => .ite ?_ (.pure (by simpa using hcallee))
      exact (yields_callArguments h p).bind fun arguments harguments =>
        .pure (by simp [hcallee, harguments])
    refine .skip fun again => .ite ((h _ _).bind hfinish) ?_
    exact (yields_operandBase h p false).bind hfinish

theorem yields_leftHandSide (p : Place) : Yields Tree.Unscoped (leftHandSide nested p) := by
  unfold leftHandSide
  extract_lets finish
  have hfinish : ∀ base, base.Unscoped → Yields Tree.Unscoped (finish base) :=
    fun base hbase => .skip fun fuel => yields_suffixes h p true _ _ hbase
  exact .skip fun constructs =>
    .ite ((yields_afterNew h p).bind hfinish) ((yields_operandBase h p true).bind hfinish)

theorem yields_unaryExpression (p : Place) : Yields Tree.Unscoped (unaryExpression nested p) := by
  unfold unaryExpression
  refine .skip fun t => ?_
  split
  · refine .skip fun _ => (h _ _).bind fun e he => ?_
    exact .ite (.pure (by simpa using he)) (.fail (.throw _))
  · refine .skip fun _ => (h _ _).bind fun e he => ?_
    exact .ite (.pure (by simpa using he)) (.fail (.throw _))
  · split
    · exact .skip fun _ => (h _ _).bind fun e he =>
        .ite (.fail (.throw _)) (.pure (by simpa using he))
    · refine .ite ?_ (.skip fun next => .ite (.fail (.throw _)) ?_)
      · exact .skip fun _ => (h _ _).bind fun e he => .pure (by simpa using he)
      · refine (yields_leftHandSide h p).bind fun e he => .skip fun lineEnds => .ite (.pure he) ?_
        refine .skip fun next => ?_
        split
        · exact .ite (.skip fun _ => .pure (by simpa using he)) (.fail (.throw _))
        · exact .ite (.skip fun _ => .pure (by simpa using he)) (.fail (.throw _))
        · exact .pure he
  · exact .unexpected _

omit h in
theorem yields_binaryRest (p : Place) {operand : Parse (Tree Node)}
    (hoperand : Yields Tree.Unscoped operand) (fuel bound : Nat) {left : Tree Node}
    (hleft : left.Unscoped) : Yields Tree.Unscoped (binaryRest p operand fuel bound left) := by
  induction fuel generalizing bound left with
  | zero => exact .throw _
  | succ fuel ih =>
    unfold binaryRest
    refine .skip fun next => ?_
    split
    · exact .pure hleft
    · refine .ite (.pure hleft) (.ite (.fail (.throw _)) (.skip fun _ => ?_))
      refine hoperand.bind fun first hfirst => (ih _ hfirst).bind fun right hright => ?_
      exact .ite (.fail (.throw _)) (ih _ (by simp [hleft, hright]))

theorem yields_binaryExpression (p : Place) : Yields Tree.Unscoped (binaryExpression nested p) := by
  unfold binaryExpression
  extract_lets finish
  have hfinish : ∀ left, left.Unscoped → Yields Tree.Unscoped (finish left) := fun left hleft =>
    .skip fun fuel => yields_binaryRest p (yields_unaryExpression h p) _ _ hleft
  refine .skip fun t => ?_
  split
  · refine .skip fun next => .ite (.skip fun _ => hfinish _ (by simp)) (.fail (.unexpected _))
  · exact (yields_unaryExpression h p).bind hfinish

theorem yields_conditional (p : Place) : Yields Tree.Unscoped (conditional nested p) := by
  unfold conditional
  refine (yields_binaryExpression h p).bind fun test htest => .skip fun question => ?_
  refine .ite ?_ (.pure htest)
  refine (h _ _).bind fun consequent hconsequent => .skip fun _ => ?_
  exact (h _ _).bind fun alternate halternate => .pure (by simp [htest, hconsequent, halternate])

theorem yields_yieldExpression (p : Place) : Yields Tree.Unscoped (yieldExpression nested p) := by
  unfold yieldExpression
  have hvalue : Yields Tree.Unscoped (do
      let e ← nested .assignment p
      return .ofLabel (.yieldExpression false) [e.fill .argument]) :=
    (h _ _).bind fun e he => .pure (by simpa using he)
  refine .skip fun _ => .skip fun lineEnds => .ite (.pure (by simp)) (.skip fun star => ?_)
  refine .ite ((h _ _).bind fun e he => .pure (by simpa using he)) (.skip fun next => ?_)
  split
  · exact .ite (.pure (by simp)) hvalue
  · exact .pure (by simp)
  · exact .pure (by simp)
  · exact hvalue

omit h in
@[simp] theorem unscoped_assignmentNode {operator : String} {left right : Tree Node} :
    (assignmentNode operator left right).Unscoped ↔ left.Unscoped ∧ right.Unscoped := by
  simp [assignmentNode]

theorem yields_assignmentExpression (p : Place) :
    Yields Tree.Unscoped (assignmentExpression nested p) := by
  unfold assignmentExpression
  refine .skip fun word => .ite (yields_yieldExpression h p) (.skip fun tokens => ?_)
  split
  · exact yields_arrowFunction h p _
  refine .skip fun tokens => .ite ?_ ?_
  · refine (yields_targetPattern h p).bind fun left hleft => .skip fun _ => ?_
    exact (h _ _).bind fun right hright => .pure (by simp [hleft, hright])
  · refine (yields_conditional h p).bind fun left hleft => .skip fun next => ?_
    have hassign : ∀ operator, Yields Tree.Unscoped (do
        advance
        let right ← nested .assignment p
        return assignmentNode operator left right) := fun operator =>
      .skip fun _ => (h _ _).bind fun right hright => .pure (by simp [hleft, hright])
    split
    · exact .ite (hassign _) (.fail (.throw _))
    · exact .ite (hassign _) (.fail (.throw _))
    · exact .pure hleft

theorem yields_assignmentTarget (p : Place) : Yields Tree.Unscoped (assignmentTarget nested p) := by
  unfold assignmentTarget
  refine .skip fun tokens => .ite (yields_targetPattern h p) ?_
  exact (yields_leftHandSide h p).bind fun e he => .ite (.pure he) (.fail (.throw _))

theorem yields_constructed (p : Place) : Yields Tree.Unscoped (constructed nested p) := by
  unfold constructed
  exact .skip fun _ => yields_afterNew h p

theorem yields_moreExpressions (p : Place) (fuel : Nat) :
    Yields AllUnscoped (moreExpressions nested p fuel) := by
  induction fuel with
  | zero => exact .throw _
  | succ fuel ih =>
    unfold moreExpressions
    refine .skip fun comma => .ite ?_ (.pure (by simp))
    exact (h _ _).bind fun e he => ih.bind fun rest hrest => .pure (by simp [he, hrest])

theorem yields_commaExpression (p : Place) : Yields Tree.Unscoped (commaExpression nested p) := by
  unfold commaExpression
  refine (yields_assignmentExpression h p).bind fun first hfirst => .skip fun fuel => ?_
  refine (yields_moreExpressions h p fuel).bind fun rest hrest => ?_
  split
  · exact .pure hfirst
  · exact .pure (by simp [hfirst, hrest])

/-! ### Statements -/

theorem yields_declarator (p : Place) (kind : VariableKind) (head : Bool) :
    Yields Tree.Unscoped (declarator nested p kind head) := by
  unfold declarator
  refine .skip fun word => .ite (.fail (.throw _)) ?_
  refine (yields_bindingTarget h p).bind fun target htarget => .skip fun initialized => .ite ?_ ?_
  · exact (h _ _).bind fun value hvalue => .pure (by simp [htarget, hvalue])
  · refine .skip fun ofNext => .skip fun inNext => ?_
    have hend : Yields Tree.Unscoped (pure (.ofLabel .declarator [target.fill .pattern])) :=
      .pure (by simpa using htarget)
    exact .ite hend (.ite (.fail (.throw _)) hend)

theorem yields_moreDeclarators (p : Place) (kind : VariableKind) (fuel : Nat) :
    Yields AllUnscoped (moreDeclarators nested p kind fuel) := by
  induction fuel with
  | zero => exact .throw _
  | succ fuel ih =>
    unfold moreDeclarators
    refine .skip fun comma => .ite ?_ (.pure (by simp))
    refine (yields_declarator h p kind false).bind fun d hd => ih.bind fun rest hrest => ?_
    exact .pure (by simp [hd, hrest])

theorem yields_declarators (p : Place) (kind : VariableKind) (head : Bool) :
    Yields Tree.Unscoped (declarators nested p kind head) := by
  unfold declarators
  refine (yields_declarator h p kind head).bind fun first hfirst => .skip fun fuel => ?_
  exact (yields_moreDeclarators h p kind fuel).bind fun rest hrest =>
    .pure (by simp [hfirst, hrest])

theorem yields_block (p : Place) : Yields Tree.Unscoped (block nested p) := by
  unfold block
  refine .skip fun _ => .skip fun fuel => ?_
  exact ((h _ _).untilMark _ _).bind fun body hbody => .pure (by simpa using hbody)

theorem yields_test (p : Place) : Yields Tree.Unscoped (test nested p) := by
  unfold test
  exact .skip fun _ => (h _ _).bind fun e he => .skip fun _ => .pure he

theorem yields_countingLoop (p : Place) {initializer : Option (Tree Node)}
    (hinitializer : ∀ t ∈ initializer, t.Unscoped) :
    Yields Tree.Unscoped (countingLoop nested p initializer) := by
  unfold countingLoop
  refine .skip fun _ => ?_
  extract_lets withTest
  have hwithTest : ∀ condition, (∀ t ∈ condition, t.Unscoped) →
      Yields Tree.Unscoped (withTest condition) := by
    intro condition hcondition
    refine .skip fun _ => ?_
    extract_lets withUpdate
    have hwithUpdate : ∀ update, (∀ t ∈ update, t.Unscoped) →
        Yields Tree.Unscoped (withUpdate update) := fun update hupdate =>
      .skip fun _ => (h _ _).bind fun body hbody => .pure
        (by simpa [hbody] using ⟨hinitializer, hcondition, hupdate⟩)
    exact .skip fun closed => .ite (hwithUpdate none (by simp)) ((h _ _).some.bind hwithUpdate)
  exact .skip fun closed => .ite (hwithTest none (by simp)) ((h _ _).some.bind hwithTest)

theorem yields_collectionLoop (p : Place) {left : Tree Node} (hleft : left.Unscoped)
    (awaited : Bool) : Yields Tree.Unscoped (collectionLoop nested p left awaited) := by
  unfold collectionLoop
  refine .skip fun ofNext => .ite ?_ (.ite (.fail (.unexpected _)) (.skip fun _ => ?_))
  · refine (h _ _).bind fun right hright => .skip fun _ => (h _ _).bind fun body hbody => ?_
    exact .pure (by simp [hleft, hright, hbody])
  · refine (h _ _).bind fun right hright => .skip fun _ => (h _ _).bind fun body hbody => ?_
    exact .pure (by simp [hleft, hright, hbody])

theorem yields_forStatement (p : Place) : Yields Tree.Unscoped (forStatement nested p) := by
  unfold forStatement
  extract_lets finish
  have hfinish : ∀ awaited, Yields Tree.Unscoped (finish awaited) := by
    intro awaited
    refine .skip fun _ => .skip fun empty => .ite (yields_countingLoop h p (by simp)) ?_
    refine .skip fun kind => ?_
    split
    · refine .skip fun _ => (yields_declarators h _ _ _).bind fun d hd => ?_
      refine .skip fun isCollection => ?_
      refine .ite (.skip fun inNext => ?_) (yields_countingLoop h p (by simpa using hd))
      exact .ite (yields_collectionLoop h p hd awaited) (.fail (.throw _))
    · refine .skip fun tokens => .ite ?_ ?_
      · exact (yields_targetPattern h p).bind fun left hleft => yields_collectionLoop h p hleft _
      · refine (h _ _).bind fun e he => .skip fun isCollection => ?_
        refine .ite ?_ (yields_countingLoop h p (by simpa using he))
        exact .ite (yields_collectionLoop h p he awaited) (.fail (.throw _))
  exact .ite (.skip hfinish) (.skip hfinish)

theorem yields_whileStatement (p : Place) : Yields Tree.Unscoped (whileStatement nested p) := by
  unfold whileStatement
  refine (yields_test h p).bind fun condition hcondition => ?_
  exact (h _ _).bind fun body hbody => .pure (by simp [hcondition, hbody])

theorem yields_doWhileStatement (p : Place) : Yields Tree.Unscoped (doWhileStatement nested p) := by
  unfold doWhileStatement
  refine (h _ _).bind fun body hbody => .skip fun _ => ?_
  refine (yields_test h p).bind fun condition hcondition => .skip fun _ => ?_
  exact .pure (by simp [hcondition, hbody])

theorem yields_ifStatement (p : Place) : Yields Tree.Unscoped (ifStatement nested p) := by
  unfold ifStatement
  refine (yields_test h p).bind fun condition hcondition => (h _ _).bind fun branch hbranch => ?_
  extract_lets finish
  have hfinish : ∀ other, (∀ t ∈ other, t.Unscoped) → Yields Tree.Unscoped (finish other) :=
    fun other hother => .pure (by simpa [hcondition, hbranch] using hother)
  exact .skip fun word => .ite ((h _ _).some.bind hfinish) (hfinish none (by simp))

theorem yields_caseStatements (p : Place) (fuel : Nat) :
    Yields AllUnscoped (caseStatements nested p fuel) := by
  induction fuel with
  | zero => exact .throw _
  | succ fuel ih =>
    unfold caseStatements
    refine .skip fun caseNext => .skip fun defaultNext => .skip fun closed => ?_
    refine .ite (.pure (by simp)) ?_
    exact (h _ _).bind fun s hs => ih.bind fun rest hrest => .pure (by simp [hs, hrest])

theorem yields_switchCase (p : Place) : Yields Tree.Unscoped (switchCase nested p) := by
  unfold switchCase
  extract_lets finish
  have hfinish : ∀ value, (∀ t ∈ value, t.Unscoped) → Yields Tree.Unscoped (finish value) :=
    fun value hvalue => .skip fun _ => .skip fun fuel =>
      (yields_caseStatements h p fuel).bind fun body hbody =>
        .pure (by simpa [hbody] using hvalue)
  refine .skip fun word => .ite ((h _ _).some.bind hfinish) (.skip fun _ => hfinish none (by simp))

theorem yields_switchStatement (p : Place) : Yields Tree.Unscoped (switchStatement nested p) := by
  unfold switchStatement
  refine (yields_test h p).bind fun discriminant hdiscriminant => ?_
  refine .skip fun _ => .skip fun fuel => ?_
  refine ((yields_switchCase h _).untilMark _ _).bind fun cases hcases => .ite (.fail (.throw _)) ?_
  exact .pure (by simp [hdiscriminant, hcases])

omit h in
@[simp] theorem unscoped_jumpNode (label : Label) (target : Option String) :
    (jumpNode label target).Unscoped := by
  cases target <;> simp [jumpNode]

omit h in
theorem yields_breakStatement (p : Place) : Yields Tree.Unscoped (breakStatement p) := by
  unfold breakStatement
  refine .skip fun target => ?_
  have hend : Yields Tree.Unscoped (do
      semicolon
      return jumpNode .breakStatement target) := .skip fun _ => .pure (by simp)
  split
  · exact .ite hend (.fail (.throw _))
  · exact .ite hend (.fail (.throw _))

omit h in
theorem yields_continueStatement (p : Place) : Yields Tree.Unscoped (continueStatement p) := by
  unfold continueStatement
  refine .skip fun target => ?_
  have hend : Yields Tree.Unscoped (do
      semicolon
      return jumpNode .continueStatement target) := .skip fun _ => .pure (by simp)
  split
  · exact .ite hend (.fail (.throw _))
  · exact .ite hend (.fail (.throw _))

theorem yields_returnStatement (p : Place) : Yields Tree.Unscoped (returnStatement nested p) := by
  unfold returnStatement
  refine .ite ?_ (.fail (.throw _))
  refine .skip fun lineEnds => .skip fun empty => .skip fun closed => .ite ?_ ?_
  · exact .skip fun _ => .pure (by simp)
  · exact (h _ _).bind fun e he => .skip fun _ => .pure (by simpa using he)

theorem yields_throwStatement (p : Place) : Yields Tree.Unscoped (throwStatement nested p) := by
  unfold throwStatement
  refine .skip fun lineEnds => .ite (.fail (.unexpected _)) ?_
  exact (h _ _).bind fun e he => .skip fun _ => .pure (by simpa using he)

theorem yields_catchClause (p : Place) : Yields Tree.Unscoped (catchClause nested p) := by
  unfold catchClause
  extract_lets finish
  have hfinish : ∀ parameter, (∀ t ∈ parameter, t.Unscoped) →
      Yields Tree.Unscoped (finish parameter) := fun parameter hparameter =>
    (yields_block h p).bind fun body hbody => .pure (by simpa [hbody] using hparameter)
  refine .skip fun parenthesis => .ite ?_ (hfinish none (by simp))
  exact (yields_bindingTarget h p).bind fun t ht => .skip fun _ => hfinish _ (by simpa using ht)

theorem yields_tryStatement (p : Place) : Yields Tree.Unscoped (tryStatement nested p) := by
  unfold tryStatement
  refine (yields_block h p).bind fun body hbody => ?_
  extract_lets withHandler
  have hwithHandler : ∀ handler, (∀ t ∈ handler, t.Unscoped) →
      Yields Tree.Unscoped (withHandler handler) := by
    intro handler hhandler
    refine .skip fun word => ?_
    extract_lets withFinalizer
    have hwithFinalizer : ∀ finalizer, (∀ t ∈ finalizer, t.Unscoped) →
        Yields Tree.Unscoped (withFinalizer finalizer) := fun finalizer hfinalizer =>
      .ite (.fail (.unexpected _)) (.pure (by simpa [hbody] using ⟨hhandler, hfinalizer⟩))
    exact .ite ((yields_block h p).some.bind hwithFinalizer) (hwithFinalizer none (by simp))
  exact .skip fun word =>
    .ite ((yields_catchClause h p).some.bind hwithHandler) (hwithHandler none (by simp))

theorem yields_withStatement (p : Place) : Yields Tree.Unscoped (withStatement nested p) := by
  unfold withStatement
  refine .ite (.fail (.throw _)) ((yields_test h p).bind fun object hobject => ?_)
  exact (h _ _).bind fun body hbody => .pure (by simp [hobject, hbody])

theorem yields_labeledStatement (p : Place) (name : String) :
    Yields Tree.Unscoped (labeledStatement nested p name) := by
  unfold labeledStatement
  refine .skip fun _ => .skip fun _ => .ite (.fail (.throw _)) (.skip fun tokens => ?_)
  exact (h _ _).bind fun body hbody => .pure (by simpa using hbody)

theorem yields_expressionStatement (p : Place) :
    Yields Tree.Unscoped (expressionStatement nested p) := by
  unfold expressionStatement
  extract_lets finish
  have hfinish : ∀ label, Yields Tree.Unscoped (finish label) := by
    intro label
    dsimp only [finish]
    split
    · exact yields_labeledStatement h p _
    · exact (h _ _).bind fun e he => .skip fun _ => .pure (by simpa using he)
  exact .skip fun next => .ite (.skip fun t => hfinish _) (hfinish none)

theorem yields_plainStatement (p : Place) : Yields Tree.Unscoped (plainStatement nested p) := by
  unfold plainStatement
  refine .skip fun t => ?_
  split
  · exact yields_block h p
  · exact .skip fun _ => .pure (by simp)
  · split
    · exact .skip fun _ => (yields_declarators h _ _ _).bind fun d hd => .skip fun _ => .pure hd
    · exact .skip fun _ => yields_ifStatement h p
    · exact .skip fun _ => yields_forStatement h p
    · exact .skip fun _ => yields_whileStatement h p
    · exact .skip fun _ => yields_doWhileStatement h p
    · exact .skip fun _ => yields_continueStatement p
    · exact .skip fun _ => yields_breakStatement p
    · exact .skip fun _ => yields_returnStatement h p
    · exact .skip fun _ => yields_withStatement h p
    · exact .skip fun _ => yields_switchStatement h p
    · exact .skip fun _ => yields_throwStatement h p
    · exact .skip fun _ => yields_tryStatement h p
    · exact .skip fun _ => .skip fun _ => .pure (by simp)
    · exact .throw _
    · exact .skip fun next => .ite (yields_expressionStatement h p) (.throw _)
    · exact yields_expressionStatement h p
  · exact yields_expressionStatement h p

theorem yields_listedStatement (p : Place) : Yields Tree.Unscoped (listedStatement nested p) := by
  unfold listedStatement
  refine .skip fun word => .ite (yields_functionDeclaration h p false) ?_
  refine .skip fun async => .ite (.skip fun _ => yields_functionDeclaration h p true) ?_
  refine .skip fun word => .ite (.skip fun name => yields_classTail h _ p (by simp)) ?_
  refine .skip fun kind => ?_
  split
  · exact .skip fun _ => (yields_declarators h _ _ _).bind fun d hd => .skip fun _ => .pure hd
  · exact yields_plainStatement h p

theorem yields_substatement (p : Place) : Yields Tree.Unscoped (substatement nested p) := by
  unfold substatement
  refine .skip fun _ => .skip fun _ => .skip fun _ => .ite (.fail (.throw _)) ?_
  refine .skip fun async => .ite (.fail (.throw _)) ?_
  exact .skip fun _ => .skip fun _ => .ite (.fail (.throw _)) (yields_plainStatement h p)

theorem yields_branchStatement (p : Place) : Yields Tree.Unscoped (branchStatement nested p) := by
  unfold branchStatement
  refine .skip fun word => .skip fun next => ?_
  exact .ite (yields_functionDeclaration h p false) (yields_substatement h p)

/-! ### The grammar -/

/-- The readers of a level yield trees in no scope if those one level further in
do. -/
theorem yields_level (goal : Goal) (p : Place) : Yields Tree.Unscoped (level nested goal p) := by
  cases goal with
  | statement => exact yields_listedStatement h p
  | substatement => exact yields_substatement h p
  | branch => exact yields_branchStatement h p
  | expression => exact yields_commaExpression h p
  | assignment => exact yields_assignmentExpression h p
  | unary => exact yields_unaryExpression h p
  | operand => exact yields_leftHandSide h p
  | binding => exact yields_bindingTarget h p
  | target => exact yields_assignmentTarget h p
  | constructed => exact yields_constructed h p

end Readers

theorem yields_grammar (depth : Nat) (goal : Goal) (p : Place) :
    Yields Tree.Unscoped (grammar depth goal p) := by
  induction depth generalizing goal p with
  | zero => exact .throw _
  | succ depth ih => exact yields_level ih goal p

theorem allUnscoped_of_readTokens {tokens : List Lexeme} {ts : List (Tree Node)}
    (h : readTokens tokens = .ok ts) : AllUnscoped ts := by
  unfold readTokens at h
  cases hread : bodyStatements (grammar (tokens.length + 1)) none true (tokens.length + 1) true
    .script tokens with
  | error fault =>
    rw [hread] at h
    cases h
  | ok r =>
    rw [hread] at h
    cases h
    exact yields_bodyStatements (yields_grammar _) _ _ _ _ _ tokens r.1 r.2 hread

/-- **What is read belongs to no scope.** A script is read without the program that
it is put into, so none of its nodes has a scope number. -/
theorem unscoped_of_readStatement {text : String} {t : Tree Node}
    (h : readStatement text = .ok t) : t.Unscoped := by
  unfold readStatement read at h
  cases hread : readTokens (tokenize text.toList) with
  | error fault =>
    rw [hread] at h
    cases h
  | ok ts =>
    have hts := allUnscoped_of_readTokens hread
    rw [hread] at h
    obtain rfl := Except.ok.inj h
    dsimp only
    split
    · simpa using hts
    · simpa using hts

end Script

end HotReload
