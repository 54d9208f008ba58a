/-
# The tokens of a unit are read as its tree

A unit is a function that is called on the spot, and its body is a row of
statements: the greeting, the registration of the router, the registration of its
reloading, and a block for every model. Each statement is read once the statements in
it are, so the whole is read from the inside to the outside, with as much fuel as the
tokens are many (`readTokens_tokens`).

What is put between the quotation marks need not be a string, and the name of the
application can be the operator `await`. The statements before the first such place
are read, and there the reader ends in a fault (`readTokens_fault`).

Key theorems: `reads_ifHot`, `reads_accept`, `reads_use`, `reads_model`,
`allRead_phrases`, `readTokens_tokens`, `readTokens_fault`,
`readTokens_invalid_router`, `readTokens_invalid_container`,
`readTokens_invalid_model`, `readTokens_await`.
-/
import HotReload.Proofs.HotUnit.Shape

namespace HotReload

namespace HotUnit

open Script

variable {k : Nat} {inMethod : Bool} {t : Token} {app : String} {statements : List Phrase}

/-- A condition is read once the statements in its block are. -/
theorem reads_ifHot (h : AllRead k (functionPlace inMethod) statements) :
    Reads (k + 2) (functionPlace inMethod) (ifHotPhrase statements).1 (ifHotPhrase statements).2 where
  begins := ⟨_, _, rfl, by decide, by decide⟩
  reads l rest hl := by
    have hbranch : grammar (k + 1) .branch (functionPlace inMethod)
        (mark .leftBrace :: (tokensOf statements ++ line (.mark .rightBrace) :: l :: rest)) =
        .ok (blockNode (statementsOf statements), l :: rest) :=
      block_phrases h false true (l :: rest)
    have helse : l.token ≠ .word .elseWord := by
      intro heq
      rw [heq] at hl
      cases hl
    have htokens : (ifHotPhrase statements).1 ++ l :: rest = ifHotOpening ++
        (tokensOf statements ++ line (.mark .rightBrace) :: l :: rest) := by simp [ifHotPhrase]
    rw [htokens]
    show Except.bind (grammar (k + 1) .branch (functionPlace inMethod)
      (mark .leftBrace :: (tokensOf statements ++ line (.mark .rightBrace) :: l :: rest))) _ = _
    rw [hbranch]
    show Except.bind (acceptWord .elseWord (l :: rest)) _ = _
    rw [acceptWord_ne helse]
    rfl
  notDirective := rfl
  balanced depth rest := by
    have htokens : (ifHotPhrase statements).1 ++ rest = ifHotOpening ++
        (tokensOf statements ++ line (.mark .rightBrace) :: rest) := by simp [ifHotPhrase]
    rw [htokens]
    exact h.balanced (depth + 1) (line (.mark .rightBrace) :: rest)

/-- An arrow function without parameters is read once the statements in it are. -/
theorem assignment_arrow (h : AllRead k (functionPlace inMethod) statements) (rest : List Lexeme) :
    grammar (k + 1) .assignment (functionPlace inMethod)
        (arrowOpening ++ (tokensOf statements ++ line (.mark .rightBrace) :: rest)) =
      .ok (arrowNode [] (statementsOf statements), rest) := by
  have hbody : functionBody (grammar k) (functionPlace inMethod) true
      (mark .leftBrace :: (tokensOf statements ++ line (.mark .rightBrace) :: rest)) =
      .ok (blockNode (statementsOf statements), rest) := functionBody_phrases h false true rest
  show Except.bind (functionBody (grammar k) (functionPlace inMethod) true
    (mark .leftBrace :: (tokensOf statements ++ line (.mark .rightBrace) :: rest))) _ = _
  rw [hbody]
  rfl

/-- The arguments of the registration of a handler are read once the statements in
it are. -/
theorem callArguments_accept (h : AllRead k (functionPlace inMethod) statements) (path : Literal)
    (rest : List Lexeme) :
    callArguments (grammar (k + 1)) (functionPlace inMethod) (slot path ::
        (handlerOpening ++ (tokensOf statements ++ (handlerClosing ++ rest)))) =
      .ok (childrenOf [plainArgument (literalNode path),
        plainArgument (arrowNode [] (statementsOf statements))] .arguments,
        mark .semicolon :: rest) := by
  have hlast : ∀ fuel, listUntil .rightParen
      (argumentNode (grammar (k + 1)) (functionPlace inMethod)) (fuel + 1)
      (arrowOpening ++ (tokensOf statements ++ (handlerClosing ++ rest))) =
      .ok ([plainArgument (arrowNode [] (statementsOf statements))], mark .semicolon :: rest) :=
    fun fuel => listUntil_argument fuel (by decide) (by decide) (assignment_arrow h _)
  have hlist : ∀ fuel, listUntil .rightParen
      (argumentNode (grammar (k + 1)) (functionPlace inMethod)) (fuel + 2)
      (slot path :: (handlerOpening ++ (tokensOf statements ++ (handlerClosing ++ rest)))) =
      .ok ([plainArgument (literalNode path), plainArgument (arrowNode [] (statementsOf statements))],
        mark .semicolon :: rest) := by
    intro fuel
    show Except.bind (listUntil .rightParen
      (argumentNode (grammar (k + 1)) (functionPlace inMethod)) (fuel + 1)
      (arrowOpening ++ (tokensOf statements ++ (handlerClosing ++ rest)))) _ = _
    rw [hlast]
    rfl
  show Except.bind (listUntil .rightParen (argumentNode (grammar (k + 1)) (functionPlace inMethod))
    ((handlerOpening ++ (tokensOf statements ++ (handlerClosing ++ rest))).length + 2)
    (slot path :: (handlerOpening ++ (tokensOf statements ++ (handlerClosing ++ rest))))) _ = _
  rw [hlist]
  rfl

/-- A handler is read once the statements in it are. -/
theorem reads_accept (h : AllRead k (functionPlace inMethod) statements) (path : Literal) :
    Reads (k + 3) (functionPlace inMethod) (acceptPhrase path statements).1
      (acceptPhrase path statements).2 where
  begins := ⟨_, _, rfl, by decide, by decide⟩
  reads l rest hl := by
    have htokens : (acceptPhrase path statements).1 ++ l :: rest = acceptOpening ++ slot path ::
        (handlerOpening ++ (tokensOf statements ++ (handlerClosing ++ l :: rest))) := by
      simp [acceptPhrase]
    have hread : leftHandSide (grammar (k + 1)) (functionPlace inMethod) (acceptOpening ++ slot path ::
        (handlerOpening ++ (tokensOf statements ++ (handlerClosing ++ l :: rest)))) =
        .ok (invocationNode (propertyNode moduleHot "accept")
          [literalNode path, arrowNode [] (statementsOf statements)], mark .semicolon :: l :: rest) := by
      show Except.bind (callArguments (grammar (k + 1)) (functionPlace inMethod) (slot path ::
        (handlerOpening ++ (tokensOf statements ++ (handlerClosing ++ l :: rest))))) _ = _
      rw [callArguments_accept h]
      rfl
    have hends : EndsExpression (leftHandSide (grammar (k + 1)) (functionPlace inMethod)
        (acceptOpening ++ slot path ::
          (handlerOpening ++ (tokensOf statements ++ (handlerClosing ++ l :: rest))))) := by
      rw [hread]
      exact EndsExpression.semicolon ..
    rw [htokens]
    refine (statement_member (.name "module") true false hends).trans ?_
    show Except.bind (leftHandSide (grammar (k + 1)) (functionPlace inMethod) (acceptOpening ++ slot path ::
      (handlerOpening ++ (tokensOf statements ++ (handlerClosing ++ l :: rest))))) _ = _
    rw [hread]
    rfl
  notDirective := rfl
  balanced depth rest := by
    have htokens : (acceptPhrase path statements).1 ++ rest = acceptOpening ++ slot path ::
        (handlerOpening ++ (tokensOf statements ++ (handlerClosing ++ rest))) := by
      simp [acceptPhrase]
    rw [htokens]
    exact h.balanced (depth + 2) (handlerClosing ++ rest)

/-- A statement with a handler of its errors is read once the statements in it
are. -/
theorem reads_reporting (h : AllRead (k + 9) (functionPlace inMethod) statements) :
    Reads (k + 10) (functionPlace inMethod) (reportingPhrase statements).1
      (reportingPhrase statements).2 where
  begins := ⟨_, _, rfl, by decide, by decide⟩
  reads l rest hl := by
    have hblock : block (grammar (k + 9)) (functionPlace inMethod)
        (mark .leftBrace :: (tokensOf statements ++ (tryClosing ++ l :: rest))) =
        .ok (blockNode (statementsOf statements), tryClosing.drop 1 ++ l :: rest) :=
      block_phrases h false true (tryClosing.drop 1 ++ l :: rest)
    have hfinally : l.token ≠ .word .finallyWord := by
      intro heq
      rw [heq] at hl
      cases hl
    have htokens : (reportingPhrase statements).1 ++ l :: rest =
        tryOpening ++ (tokensOf statements ++ (tryClosing ++ l :: rest)) := by
      simp [reportingPhrase]
    rw [htokens]
    show Except.bind (block (grammar (k + 9)) (functionPlace inMethod)
      (mark .leftBrace :: (tokensOf statements ++ (tryClosing ++ l :: rest)))) _ = _
    rw [hblock]
    show Except.bind (acceptWord .finallyWord (l :: rest)) _ = _
    rw [acceptWord_ne hfinally]
    rfl
  notDirective := rfl
  balanced depth rest := by
    have htokens : (reportingPhrase statements).1 ++ rest =
        tryOpening ++ (tokensOf statements ++ (tryClosing ++ rest)) := by
      simp [reportingPhrase]
    rw [htokens]
    exact h.balanced (depth + 1) (tryClosing ++ rest)

/-- The method in the options of the reloading of the router, without its name. -/
def onHmrPart (hot : Tree Node) : Tree Node :=
  .ofLabel (.functionPart false false)
    [Tree.fill (.ofLabel .parameter [(identifierNode "render").fill .pattern]) .parameters,
      (blockNode [hot]).fill .body]

section Use

variable {hot : Phrase} (h : Reads (k + 1) (functionPlace true) hot.1 hot.2)

include h

theorem functionPart_onHmr (rest : List Lexeme) :
    functionPart (grammar (k + 1)) (functionPlace true)
        (optionsOpening.drop 2 ++ (hot.1 ++ (useClosing ++ rest))) =
      .ok (onHmrPart hot.2, useClosing.drop 1 ++ rest) := by
  have hall : AllRead (k + 1) (functionPlace true) [hot] := .cons h .nil
  have htokens : tokensOf [hot] = hot.1 := by simp [tokensOf]
  have hbody : functionBody (grammar (k + 1)) (functionPlace true) true
      (mark .leftBrace :: (hot.1 ++ (useClosing ++ rest))) =
      .ok (blockNode [hot.2], useClosing.drop 1 ++ rest) := by
    rw [← htokens]
    exact functionBody_phrases hall false true (useClosing.drop 1 ++ rest)
  show Except.bind (functionBody (grammar (k + 1)) (functionPlace true) true
    (mark .leftBrace :: (hot.1 ++ (useClosing ++ rest)))) _ = _
  rw [hbody]
  rfl

theorem objectProperty_onHmr (rest : List Lexeme) :
    objectProperty (grammar (k + 1)) (functionPlace false)
        (optionsOpening.drop 1 ++ (hot.1 ++ (useClosing ++ rest))) =
      .ok (.ofLabel .method
        [Tree.fill (.ofLabel (.propertyName "onHmr") []) .key, (onHmrPart hot.2).fill .function],
        useClosing.drop 1 ++ rest) := by
  show Except.bind (functionPart (grammar (k + 1)) (functionPlace true)
    (optionsOpening.drop 2 ++ (hot.1 ++ (useClosing ++ rest)))) _ = _
  rw [functionPart_onHmr h]
  rfl

/-- The options of the reloading of the router are read once the statement in them
is. -/
theorem leftHandSide_options (rest : List Lexeme) :
    leftHandSide (grammar (k + 1)) (functionPlace false)
        (optionsOpening ++ (hot.1 ++ (useClosing ++ rest))) =
      .ok (optionsNode hot.2, mark .rightParen :: mark .semicolon :: rest) := by
  have hlist : ∀ fuel, listUntil .rightBrace (objectProperty (grammar (k + 1)) (functionPlace false))
      (fuel + 2) (optionsOpening.drop 1 ++ (hot.1 ++ (useClosing ++ rest))) =
      .ok ([.ofLabel .method
        [Tree.fill (.ofLabel (.propertyName "onHmr") []) .key, (onHmrPart hot.2).fill .function]],
        mark .rightParen :: mark .semicolon :: rest) := by
    intro fuel
    show Except.bind (objectProperty (grammar (k + 1)) (functionPlace false)
      (optionsOpening.drop 1 ++ (hot.1 ++ (useClosing ++ rest)))) _ = _
    rw [objectProperty_onHmr h]
    rfl
  have hprimary : primaryExpression (grammar (k + 1)) (functionPlace false)
      (optionsOpening ++ (hot.1 ++ (useClosing ++ rest))) =
      .ok (optionsNode hot.2, mark .rightParen :: mark .semicolon :: rest) := by
    show Except.bind (listUntil .rightBrace (objectProperty (grammar (k + 1)) (functionPlace false))
      ((hot.1 ++ (useClosing ++ rest)).length + 6)
      (optionsOpening.drop 1 ++ (hot.1 ++ (useClosing ++ rest)))) _ = _
    rw [hlist]
    rfl
  show Except.bind (primaryExpression (grammar (k + 1)) (functionPlace false)
    (optionsOpening ++ (hot.1 ++ (useClosing ++ rest)))) _ = _
  rw [hprimary]
  rfl

/-- The registration of the reloading of the router is read once the statement in
its options is. -/
theorem reads_use {t : Token} (ht : t.Names app) :
    Reads (k + 4) (functionPlace false)
      (useOpening t ++ (optionsOpening ++ (hot.1 ++ useClosing)))
      (methodNode app "use" (optionsNode hot.2)) where
  begins := ⟨_, _, rfl, ht.ne_mark _, ht.continuesStatement⟩
  reads l rest _ := by
    have htokens : useOpening t ++ (optionsOpening ++ (hot.1 ++ useClosing)) ++ l :: rest =
        useOpening t ++ (optionsOpening ++ (hot.1 ++ (useClosing ++ l :: rest))) := by simp
    have hoptions := leftHandSide_options h (l :: rest)
    have hends : EndsExpression (leftHandSide (grammar (k + 1)) (functionPlace false)
        (optionsOpening ++ (hot.1 ++ (useClosing ++ l :: rest)))) := by
      rw [hoptions]
      exact EndsExpression.rightParen ..
    have hpattern : startsPattern (· == .mark .assign)
        (optionsOpening ++ (hot.1 ++ (useClosing ++ l :: rest))) = false := by
      have hscan : afterBracket 0 (optionsOpening ++ (hot.1 ++ (useClosing ++ l :: rest))) =
          mark .rightParen :: mark .semicolon :: l :: rest :=
        h.balanced 1 (useClosing ++ l :: rest)
      show ((afterBracket 0 (optionsOpening ++ (hot.1 ++ (useClosing ++ l :: rest)))).head?.map
        (·.token)).any _ = _
      rw [hscan]
      rfl
    have hassignment : grammar (k + 2) .assignment (functionPlace false)
        (optionsOpening ++ (hot.1 ++ (useClosing ++ l :: rest))) =
        .ok (optionsNode hot.2, mark .rightParen :: mark .semicolon :: l :: rest) :=
      (assignmentExpression_operand .brace rfl rfl hpattern hends).trans hoptions
    rw [htokens]
    exact statement_method ht "use" _ _ _ _ _
      (callArguments_argument (by decide) (by decide) hassignment)
  notDirective := rfl
  balanced depth rest := by
    have htokens : useOpening t ++ (optionsOpening ++ (hot.1 ++ useClosing)) ++ rest =
        useOpening t ++ (optionsOpening ++ (hot.1 ++ (useClosing ++ rest))) := by simp
    rw [htokens]
    exact (ht.afterBracket depth true _).trans (h.balanced (depth + 3) (useClosing ++ rest))

end Use

/-! ### The statements of a unit -/

/-- The greeting is read. -/
theorem reads_log : Reads (k + 8) (functionPlace inMethod) logTokens logNode where
  begins := ⟨_, _, rfl, by decide, by decide⟩
  reads _ _ _ := rfl
  notDirective := rfl
  balanced _ _ := rfl

/-- A call of a method of the application with a required module is read. -/
theorem reads_requiring (happ : (nameToken app).Names app) (method : String) (path : Literal) :
    Reads (k + 8) (functionPlace inMethod) (requiringPhrase app method path).1
      (requiringPhrase app method path).2 where
  begins := ⟨_, _, rfl, happ.ne_mark _, happ.continuesStatement⟩
  reads _ _ _ := statement_method happ method _ _ _ _ _ rfl
  notDirective := rfl
  balanced depth _ := happ.afterBracket depth true _

/-- The statement that unregisters a model is read. -/
theorem reads_unmodel (happ : (nameToken app).Names app) (model : Literal) :
    Reads (k + 8) (functionPlace inMethod) (unmodelPhrase app model).1
      (unmodelPhrase app model).2 where
  begins := ⟨_, _, rfl, happ.ne_mark _, happ.continuesStatement⟩
  reads _ _ _ := statement_method happ "unmodel" _ _ _ _ _ rfl
  notDirective := rfl
  balanced depth _ := happ.afterBracket depth true _

theorem reads_renderNormally :
    Reads (k + 8) (functionPlace inMethod) renderNormallyTokens
      (constantNode "renderNormally" (identifierNode "render")) where
  begins := ⟨_, _, rfl, by decide, by decide⟩
  reads _ _ _ := rfl
  notDirective := rfl
  balanced _ _ := rfl

set_option maxRecDepth 2000 in
theorem reads_renderException (container : Literal) :
    Reads (k + 12) (functionPlace inMethod)
      (renderExceptionOpening ++ slot container :: renderExceptionClosing)
      (renderExceptionNode container) where
  begins := ⟨_, _, rfl, by decide, by decide⟩
  reads _ _ _ := rfl
  notDirective := rfl
  balanced _ _ := rfl

set_option maxRecDepth 2000 in
theorem reads_newRender :
    Reads (k + 12) (functionPlace inMethod) newRenderTokens newRenderNode where
  begins := ⟨_, _, rfl, by decide, by decide⟩
  reads _ _ _ := rfl
  notDirective := rfl
  balanced _ _ := rfl

theorem reads_newRouter (router : Literal) :
    Reads (k + 8) (functionPlace inMethod) (newRouterOpening ++ slot router :: newRouterClosing)
      (constantNode "router" (requireNode router)) where
  begins := ⟨_, _, rfl, by decide, by decide⟩
  reads _ _ _ := rfl
  notDirective := rfl
  balanced _ _ := rfl

theorem reads_render :
    Reads (k + 8) (functionPlace inMethod) renderTokens
      (statementNode (applicationNode "newRender" [identifierNode "router"])) where
  begins := ⟨_, _, rfl, by decide, by decide⟩
  reads _ _ _ := rfl
  notDirective := rfl
  balanced _ _ := rfl

theorem reads_namespaces :
    Reads (k + 8) (functionPlace inMethod) namespacesTokens
      (constantNode "modelNamespaceMap" (.ofLabel .object [])) where
  begins := ⟨_, _, rfl, by decide, by decide⟩
  reads _ _ _ := rfl
  notDirective := rfl
  balanced _ _ := rfl

theorem reads_remember (model : Literal) :
    Reads (k + 8) (functionPlace inMethod)
      (rememberOpening ++ slot model :: (rememberMiddle ++ slot model :: rememberClosing))
      (rememberNode model) where
  begins := ⟨_, _, rfl, by decide, by decide⟩
  reads _ _ _ := rfl
  notDirective := rfl
  balanced _ _ := rfl

section Whole

variable (happ : (nameToken app).Names app)

/-- What is done with the router if modules can be replaced is read. -/
theorem reads_hotRouter (router container : Literal) :
    Reads (k + 14) (functionPlace inMethod) (hotRouterPhrase router container).1
      (hotRouterPhrase router container).2 := by
  have hhandler : AllRead (k + 9) (functionPlace inMethod) _ :=
    .cons (reads_newRouter router) (.cons reads_render .nil)
  exact reads_ifHot (.cons reads_renderNormally (.cons (reads_renderException container)
    (.cons reads_newRender (.cons (reads_accept hhandler router) .nil))))

include happ

/-- The registration of the reloading of the router is read. -/
theorem reads_usePhrase (router container : Literal) :
    Reads (k + 17) (functionPlace false) (usePhrase app router container).1
      (usePhrase app router container).2 :=
  reads_use (reads_hotRouter router container) happ

/-- The block of a model is read. -/
theorem reads_model (model : Literal) :
    Reads (k + 15) (functionPlace inMethod) (modelPhrase app model).1 (modelPhrase app model).2 := by
  have htry : AllRead (k + 9) (functionPlace inMethod) _ :=
    .cons (reads_unmodel happ model) (.cons (reads_requiring happ "model" model) .nil)
  have hhandler : AllRead (k + 10) (functionPlace inMethod) _ :=
    .cons (reads_reporting htry) .nil
  exact reads_ifHot (.cons reads_namespaces
    (.cons (reads_remember model) (.cons (reads_accept hhandler model) .nil)))

/-- Every statement of a unit is read. -/
theorem allRead_phrases (literals : Literals) :
    AllRead (k + 17) (functionPlace false) (phrases app literals) := by
  have hmodels : AllRead (k + 17) (functionPlace false) (literals.models.map (modelPhrase app)) := by
    intro phrase hphrase
    obtain ⟨model, -, rfl⟩ := List.mem_map.mp hphrase
    exact reads_model happ model
  exact .cons reads_log (.cons (reads_requiring happ "router" literals.router)
    (.cons (reads_usePhrase happ literals.router literals.container) hmodels))

/-- **The tokens of a unit are read as its tree.** -/
theorem readTokens_tokens (literals : Literals) :
    readTokens (tokens app literals) = .ok [tree app literals] := by
  obtain ⟨body, hbody⟩ : ∃ body, body = tokensOf (phrases app literals) ++ closing := ⟨_, rfl⟩
  have hlength : 14 ≤ body.length := by
    rw [hbody]
    simp [tokensOf, phrases, requiringPhrase, logTokens, requiringOpening]
  obtain ⟨k, hk⟩ := Nat.exists_eq_add_of_le hlength
  have hall : AllRead (body.length + 3) (functionPlace false) (phrases app literals) := by
    rw [hk, show 14 + k + 3 = k + 17 by omega]
    exact allRead_phrases happ literals
  have hscan : arrowNext (afterBracket 2 body) = false := by
    rw [hbody, hall.balanced]
    rfl
  have hread : functionBody (grammar (body.length + 3)) (functionPlace false) true
      (mark .leftBrace :: body) = .ok (blockNode (statementsOf (phrases app literals)),
        [mark .rightParen, mark .leftParen, mark .rightParen]) := by
    rw [hbody] at hall ⊢
    exact functionBody_phrases hall false true [mark .rightParen, mark .leftParen, mark .rightParen]
  have := readTokens_selfInvocation true false false false false hscan (EndsInvocation.ok ..) hread
  rwa [hbody] at this

end Whole

/-! ### Units that end in a fault -/

/-- A unit ends in a fault if the tokens after some of its statements are read so
as a statement and close no more than they open. -/
theorem readTokens_fault
    (hall : ∀ k, AllRead (k + 17) (functionPlace false) ((logTokens, logNode) :: statements))
    {l : Lexeme} {ts : List Lexeme} {f : Fault} (hlength : 7 ≤ (l :: ts).length)
    (hscan : afterBracket 2 (l :: ts) = []) (hbrace : l.token ≠ .mark .rightBrace)
    (hcontinues : l.token.continuesStatement = false)
    (hread : ∀ k, grammar (k + 17) .statement (functionPlace false) (l :: ts) = .error f) :
    readTokens (selfInvocation true false false false false ++
        (tokensOf ((logTokens, logNode) :: statements) ++ l :: ts)) = .error f := by
  obtain ⟨body, hbody⟩ : ∃ body, body = tokensOf ((logTokens, logNode) :: statements) ++ l :: ts :=
    ⟨_, rfl⟩
  obtain ⟨k, hdepth⟩ : ∃ k, body.length + 3 = k + 17 := by
    refine ⟨body.length - 14, ?_⟩
    have : 7 ≤ (tokensOf ((logTokens, logNode) :: statements)).length := Nat.le_add_left 7 _
    rw [hbody, List.length_append]
    omega
  have hscan : arrowNext (afterBracket 2 body) = false := by
    rw [hbody, (hall k).balanced, hscan]
    rfl
  have hfault : functionBody (grammar (body.length + 3)) (functionPlace false) true
      (mark .leftBrace :: body) = .error f := by
    rw [hdepth, hbody]
    exact functionBody_fault (hall k) hbrace hcontinues (hread k) false
  have := readTokens_selfInvocation true false false false false hscan (EndsInvocation.error f)
    hfault
  rwa [hbody] at this

section Fault

variable (happ : (nameToken app).Names app) (f : Fault)

include happ

/-- A unit whose router is no string. -/
theorem readTokens_invalid_router :
    readTokens (selfInvocation true false false false false ++ (tokensOf [(logTokens, logNode)] ++
        (requiringOpening (nameToken app) "router" ++ [⟨.invalid f, false⟩]))) = .error f :=
  readTokens_fault (fun _ => .cons reads_log .nil) (Nat.le_add_left 7 _)
    (happ.afterBracket 1 true _) (happ.ne_mark _) happ.continuesStatement
    fun _ => statement_method_fault happ "router" _ _ _ _ rfl

set_option maxRecDepth 2000 in
/-- A unit whose container is no string. -/
theorem readTokens_invalid_container (router : Literal) :
    readTokens (selfInvocation true false false false false ++
        (tokensOf [(logTokens, logNode), requiringPhrase app "router" router] ++
          (useOpening (nameToken app) ++ (optionsOpening ++ (ifHotOpening ++
            (renderNormallyTokens ++ (renderExceptionOpening ++ [⟨.invalid f, false⟩]))))))) =
      .error f := by
  refine readTokens_fault (fun _ => .cons reads_log (.cons (reads_requiring happ _ router) .nil))
    (Nat.le_add_left 7 _) (happ.afterBracket 1 true _) (happ.ne_mark _) happ.continuesStatement
    fun k => statement_method_fault happ "use" _ _ _ _
      (callArguments_fault (by decide) (by decide) ?_)
  obtain ⟨ts, hts⟩ : ∃ ts, optionsOpening ++ (ifHotOpening ++ (renderNormallyTokens ++
    (renderExceptionOpening ++ [⟨.invalid f, false⟩]))) = mark .leftBrace :: ts := ⟨_, rfl⟩
  have hoptions : leftHandSide (grammar (k + 14)) (functionPlace false) (mark .leftBrace :: ts) =
      .error f := by
    rw [← hts]
    rfl
  have hpattern : startsPattern (· == .mark .assign) (mark .leftBrace :: ts) = false := by
    rw [← hts]
    rfl
  have hends : EndsExpression
      (leftHandSide (grammar (k + 14)) (functionPlace false) (mark .leftBrace :: ts)) := by
    rw [hoptions]
    exact EndsExpression.error f
  have hassignment : grammar (k + 15) .assignment (functionPlace false) (mark .leftBrace :: ts) =
      .error f := (assignmentExpression_operand .brace rfl rfl hpattern hends).trans hoptions
  rw [← hts] at hassignment
  exact hassignment

/-- A unit in which the path of a model is no string. -/
theorem readTokens_invalid_model (literals : Literals) :
    readTokens (selfInvocation true false false false false ++ (tokensOf (phrases app literals) ++
        (ifHotOpening ++ (namespacesTokens ++ (rememberOpening ++ [⟨.invalid f, false⟩]))))) =
      .error f :=
  readTokens_fault (fun _ => allRead_phrases happ literals) (Nat.le_add_left 7 _) rfl (by decide)
    (by decide) fun _ => rfl

end Fault

/-- A unit for an application whose name is `await`, which is an operator wherever
an operand follows. -/
theorem readTokens_await (rest : List Lexeme) :
    ∃ f, readTokens (selfInvocation true false false false false ++
      (tokensOf [(logTokens, logNode)] ++ line (.word .awaitWord) :: mark .dot :: rest)) =
        .error f := by
  obtain ⟨ts, hts⟩ : ∃ ts, ts = line (.word .awaitWord) :: mark .dot :: rest := ⟨_, rfl⟩
  obtain ⟨k, hk⟩ : ∃ k, (tokensOf [(logTokens, logNode)] ++ ts).length + 3 = k + 10 :=
    ⟨ts.length, by simp [tokensOf, logTokens]⟩
  have hall : AllRead (k + 10) (functionPlace false) [(logTokens, logNode)] := .cons reads_log .nil
  have hstatement : grammar (k + 10) .statement (functionPlace false)
      (line (.word .awaitWord) :: mark .dot :: rest) = .error .misplacedAwait := rfl
  refine readTokens_selfInvocation_fault true false false false false (f := .misplacedAwait) ?_
  rw [← hts, hk, hts]
  exact functionBody_fault hall (by decide) (by decide) hstatement false

end HotUnit

end HotReload
