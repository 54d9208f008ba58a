/-
# The text of a unit has the tokens of the unit

The text is cut at the name of the application and at its slots. Every piece
between them lexes to the tokens that stand for it, whatever follows, so the
tokens of the text are those of the pieces one after the other, as long as every
slot is read as a literal. A slot that is none is where the tokens end.

Key definitions: `HotUnit.IsReadAs`, `HotUnit.slots`, `HotUnit.literals`,
`HotUnit.IsUnescaped`, `HotUnit.IsPlain`.
Key theorems: `HotUnit.lexes_frontOfModels`, `HotUnit.lexes_modelText`,
`HotUnit.statement_of_isReadAs`, `HotUnit.statement_of_unescaped`,
`HotUnit.statement_of_await`.
-/
import HotReload.HotUnit.Adoption
import HotReload.Proofs.HotUnit.Reading
import Mathlib.Data.List.Forall2

namespace HotReload

namespace HotUnit

open Script

/-- The lexer stands where an operand or a statement may begin: after the mark `m`,
inside the function of a unit and what has been opened in it. -/
def before (opened : List Nesting) (m : Mark) (lineEnd : Bool) : Situation :=
  ⟨⟨opened ++ [.statementBrace, .functionExpression, .expressionParen, .statementBrace], true,
    some (.mark m)⟩, lineEnd⟩

/-- The lexer stands behind a literal. -/
def behind (opened : List Nesting) (literal : Literal) : Situation :=
  ⟨⟨opened ++ [.statementBrace, .functionExpression, .expressionParen, .statementBrace], false,
    some literal.token⟩, false⟩

/-- A slot and the quotation marks around it. -/
def quote (s : String) : List Char := '\x27' :: s.toList ++ ['\x27']

section Pieces

variable {app s : String} {literal : Literal}

theorem lexes_slot (h : ReadsAs s literal) {opened : List Nesting} {m : Mark}
    (hopen : (before opened m false).expected.innermost ≠ .template) :
    Lexes (before opened m false) (quote s) [slot literal] (behind opened literal) :=
  lexes_literal h hopen

/-- A slot that is always the same and stands for itself. -/
theorem lexes_constant (s : String) (h : s.toList.all isPlain = true) {opened : List Nesting}
    {m : Mark} (hopen : (before opened m false).expected.innermost ≠ .template) :
    Lexes (before opened m false) (quote s) [slot (quoted s)] (behind opened (quoted s)) :=
  lexes_slot (readsAs_quoted h) hopen

/-- The text from the beginning up to the name of the application. -/
theorem lexes_opening : Lexes ⟨.start, true⟩
    ("\n(function() \x7b\n  // Generated by dva-hmr\n  console.log(".toList ++
      (quote "[HMR] inited with dva-hmr" ++ ");\n".toList))
    (selfInvocation true false false false false ++ logTokens) (before [] .semicolon true) := by
  have hopening : Lexes ⟨.start, true⟩
      "\n(function() \x7b\n  // Generated by dva-hmr\n  console.log(".toList
      (selfInvocation true false false false false ++ logTokens.take 4)
      (before [.expressionParen] .leftParen false) := ⟨fun _ _ => rfl, by decide⟩
  have hclosing : Lexes (behind [.expressionParen] (quoted "[HMR] inited with dva-hmr"))
      ");\n".toList (logTokens.drop 5) (before [] .semicolon true) :=
    ⟨fun fuel _ => by cases fuel <;> rfl, by decide⟩
  exact hopening.append ((lexes_constant _ (by decide) (by decide)).append hclosing)

/-- What is open where something is done with the router if modules can be
replaced. -/
def inHotRouter : List Nesting :=
  [.statementBrace, .statementBrace, .expressionBrace, .expressionParen]

/-- The text of what shows an error, up to the slot of the container. -/
theorem lexes_renderExceptionOpening : Lexes (before inHotRouter .semicolon true)
    ("        const renderException = (error) => \x7b\n          const RedBox = require(".toList ++
      (quote "redbox-react" ++ (");\n          ReactDOM.render(React.createElement(RedBox, " ++
        "\x7b error: error \x7d), document.querySelector(").toList))
    renderExceptionOpening
    (before (.expressionParen :: .expressionParen :: .statementBrace :: inHotRouter) .leftParen
      false) := by
  have hopening : Lexes (before inHotRouter .semicolon true)
      "        const renderException = (error) => \x7b\n          const RedBox = require(".toList
      (renderExceptionOpening.take 13)
      (before (.expressionParen :: .statementBrace :: inHotRouter) .leftParen false) :=
    ⟨fun _ _ => rfl, by decide⟩
  have hclosing : Lexes
      (behind (.expressionParen :: .statementBrace :: inHotRouter) (quoted "redbox-react"))
      (");\n          ReactDOM.render(React.createElement(RedBox, " ++
        "\x7b error: error \x7d), document.querySelector(").toList
      (renderExceptionOpening.drop 14)
      (before (.expressionParen :: .expressionParen :: .statementBrace :: inHotRouter) .leftParen
        false) := ⟨fun _ _ => rfl, by decide⟩
  exact hopening.append ((lexes_constant _ (by decide) (by decide)).append hclosing)

/-- The text behind the slot of the container. -/
theorem lexes_renderExceptionClosing (container : Literal) : Lexes
    (behind (.expressionParen :: .expressionParen :: .statementBrace :: inHotRouter) container)
    "));\n        \x7d;\n".toList renderExceptionClosing (before inHotRouter .semicolon true) :=
  ⟨fun fuel _ => by cases fuel <;> rfl, by decide⟩

set_option maxRecDepth 2000 in
/-- The text of what renders a replaced router. -/
theorem lexes_newRender : Lexes (before inHotRouter .semicolon true)
    (("        const newRender = (router) => \x7b\n          try \x7b\n" ++
      "            renderNormally(router);\n          \x7d catch (error) \x7b\n" ++
      "            console.error(").toList ++ (quote "error" ++
      (", error);\n            renderException(error);\n          \x7d\n" ++
        "        \x7d;\n").toList))
    newRenderTokens (before inHotRouter .semicolon true) := by
  have hopening : Lexes (before inHotRouter .semicolon true)
      ("        const newRender = (router) => \x7b\n          try \x7b\n" ++
        "            renderNormally(router);\n          \x7d catch (error) \x7b\n" ++
        "            console.error(").toList
      (newRenderTokens.take 25)
      (before (.expressionParen :: .statementBrace :: .statementBrace :: inHotRouter) .leftParen
        false) := ⟨fun _ _ => rfl, by decide⟩
  have hclosing : Lexes
      (behind (.expressionParen :: .statementBrace :: .statementBrace :: inHotRouter)
        (quoted "error"))
      (", error);\n            renderException(error);\n          \x7d\n        \x7d;\n").toList
      (newRenderTokens.drop 26) (before inHotRouter .semicolon true) :=
    ⟨fun fuel _ => by cases fuel <;> rfl, by decide⟩
  exact hopening.append ((lexes_constant _ (by decide) (by decide)).append hclosing)

/-- The text of the handler of the router up to its first slot. -/
theorem lexes_acceptRouter : Lexes (before inHotRouter .semicolon true)
    "        module.hot.accept(".toList acceptOpening
    (before (.expressionParen :: inHotRouter) .leftParen false) :=
  ⟨fun _ _ => rfl, by decide⟩

/-- The text between the slots of the handler of the router. -/
theorem lexes_newRouterOpening (router : Literal) : Lexes
    (behind (.expressionParen :: inHotRouter) router)
    ", () => \x7b\n          const router = require(".toList (handlerOpening ++ newRouterOpening)
    (before (.expressionParen :: .statementBrace :: .expressionParen :: inHotRouter) .leftParen
      false) := ⟨fun _ _ => rfl, by decide⟩

/-- The text from the last slot of the router to the end of its reloading. -/
theorem lexes_useClosing (router : Literal) : Lexes
    (behind (.expressionParen :: .statementBrace :: .expressionParen :: inHotRouter) router)
    (");\n          newRender(router);\n        \x7d);\n      \x7d\n    \x7d,\n" ++
      "  \x7d);\n").toList
    (newRouterClosing ++ (renderTokens ++ (handlerClosing ++
      (line (.mark .rightBrace) :: useClosing))))
    (before [] .semicolon true) := ⟨fun fuel _ => by cases fuel <;> rfl, by decide⟩

/-- The text of the block of a model up to its first slot. -/
def rememberFront : List Char :=
  ("  if (module.hot) \x7b\n" ++ "    const modelNamespaceMap = \x7b\x7d;\n" ++
    "    modelNamespaceMap[").toList

theorem lexes_rememberOpening {m : Mark} (hm : m = .semicolon ∨ m = .rightBrace) : Lexes
    (before [] m true)
    rememberFront
    (ifHotOpening ++ (namespacesTokens ++ rememberOpening))
    (before [.statementBrace] .leftBracket false) := by
  rcases hm with rfl | rfl <;> exact ⟨fun _ _ => rfl, by decide⟩

theorem lexes_rememberMiddle (model : Literal) : Lexes (behind [.statementBrace] model)
    "] = require(".toList rememberMiddle
    (before [.expressionParen, .statementBrace] .leftParen false) := ⟨fun _ _ => rfl, by decide⟩

theorem lexes_rememberClosing (model : Literal) : Lexes
    (behind [.expressionParen, .statementBrace] model)
    ").namespace;\n    module.hot.accept(".toList (rememberClosing ++ acceptOpening)
    (before [.expressionParen, .statementBrace] .leftParen false) := ⟨fun _ _ => rfl, by decide⟩

/-- What is open where a model is unregistered and registered. -/
def inModel : List Nesting := [.statementBrace, .statementBrace, .expressionParen, .statementBrace]

theorem lexes_tryOpening (model : Literal) : Lexes
    (behind [.expressionParen, .statementBrace] model)
    ", () => \x7b\n      try \x7b\n".toList (handlerOpening ++ tryOpening)
    (before inModel .leftBrace true) := ⟨fun fuel _ => by cases fuel <;> rfl, by decide⟩

theorem lexes_unmodelClosing (model : Literal) : Lexes
    (behind (.expressionParen :: inModel) model) "]);\n".toList unmodelClosing
    (before inModel .semicolon true) :=
  ⟨fun fuel _ => by cases fuel <;> rfl, by decide⟩

/-- The text from the last slot of a model to the end of its block. -/
theorem lexes_modelClosing (model : Literal) : Lexes
    (behind (.expressionParen :: .expressionParen :: inModel) model)
    ("));\n      \x7d catch(e) \x7b console.error(e); \x7d\n    \x7d);\n  \x7d\n").toList
    (requiringClosing ++ (tryClosing ++ (handlerClosing ++ [line (.mark .rightBrace)])))
    (before [] .rightBrace true) := ⟨fun fuel _ => by cases fuel <;> rfl, by decide⟩

variable (happ : isVariableName app = true) (hawait : app ≠ "await")

include happ hawait

/-- The text of the registration of the router up to its slot. -/
theorem lexes_requiringOpening : Lexes (before [] .semicolon true)
    (List.replicate 2 ' ' ++ app.toList ++ '.' :: 'r' :: "outer(require(".toList)
    (requiringOpening (nameToken app) "router")
    (before [.expressionParen, .expressionParen] .leftParen false) :=
  lexes_variable happ hawait 2 (by decide) true (by decide) ⟨fun _ _ => rfl, by decide⟩

/-- The text of the reloading of the router up to the name of what renders
normally. -/
theorem lexes_useOpening : Lexes (before [] .semicolon true)
    (List.replicate 2 ' ' ++ app.toList ++ '.' :: 'u' ::
      ("se(\x7b\n    onHmr(render) \x7b\n      if (module.hot) \x7b\n" ++
        "        const renderNormally = render;\n").toList)
    (useOpening (nameToken app) ++ (optionsOpening ++ (ifHotOpening ++ renderNormallyTokens)))
    (before inHotRouter .semicolon true) := by
  refine lexes_variable happ hawait 2 (by decide) true (by decide) ?_
  exact ⟨fun fuel _ => by cases fuel <;> rfl, by decide⟩

/-- The text of the statement that unregisters a model, up to its slot. -/
theorem lexes_unmodelOpening : Lexes (before inModel .leftBrace true)
    (List.replicate 8 ' ' ++ app.toList ++ '.' :: 'u' :: "nmodel(modelNamespaceMap[".toList)
    (unmodelOpening (nameToken app)) (before (.expressionParen :: inModel) .leftBracket false) :=
  lexes_variable happ hawait 8 (by decide) true (by decide) ⟨fun _ _ => rfl, by decide⟩

/-- The text of the statement that registers a model, up to its slot. -/
theorem lexes_modelOpening : Lexes (before inModel .semicolon true)
    (List.replicate 8 ' ' ++ app.toList ++ '.' :: 'm' :: "odel(require(".toList)
    (requiringOpening (nameToken app) "model")
    (before (.expressionParen :: .expressionParen :: inModel) .leftParen false) :=
  lexes_variable happ hawait 8 (by decide) true (by decide) ⟨fun _ _ => rfl, by decide⟩

end Pieces

/-! ### The text in front of a slot -/

/-- The text of a unit up to the slot of the router. -/
def frontOfRouter (app : String) : List Char :=
  ("\n(function() \x7b\n  // Generated by dva-hmr\n" ++ "  console.log(").toList ++
    (quote "[HMR] inited with dva-hmr" ++ ");\n".toList) ++
  (List.replicate 2 ' ' ++ app.toList ++ '.' :: 'r' :: "outer(require(".toList)

/-- The text of a unit up to the slot of the container. -/
def frontOfContainer (app router : String) : List Char :=
  frontOfRouter app ++ (quote router ++ ("));\n".toList ++
    ((List.replicate 2 ' ' ++ app.toList ++ '.' :: 'u' ::
      ("se(\x7b\n" ++ "    onHmr(render) \x7b\n" ++ "      if (module.hot) \x7b\n" ++
        "        const renderNormally = render;\n").toList) ++
    (("        const renderException = (error) => \x7b\n" ++
      "          const RedBox = require(").toList ++ (quote "redbox-react" ++
      (");\n" ++ "          ReactDOM.render(React.createElement(RedBox, \x7b error: error \x7d), " ++
        "document.querySelector(").toList)))))

/-- The text of a unit up to the blocks of the models. -/
def frontOfModels (app router container : String) : List Char :=
  frontOfContainer app router ++ (quote container ++
    (("));\n" ++ "        \x7d;\n").toList ++
    ((("        const newRender = (router) => \x7b\n" ++ "          try \x7b\n" ++
      "            renderNormally(router);\n" ++ "          \x7d catch (error) \x7b\n" ++
      "            console.error(").toList ++ (quote "error" ++
      (", error);\n" ++ "            renderException(error);\n" ++ "          \x7d\n" ++
        "        \x7d;\n").toList)) ++
    ("        module.hot.accept(".toList ++ (quote router ++
      ((", () => \x7b\n" ++ "          const router = require(").toList ++ (quote router ++
        (");\n" ++ "          newRender(router);\n" ++ "        \x7d);\n" ++ "      \x7d\n" ++
          "    \x7d,\n" ++ "  \x7d);\n").toList)))))))

/-- The text of the block of a model. -/
def modelText (app model : String) : List Char :=
  rememberFront ++ (quote model ++ ("] = require(".toList ++ (quote model ++
  ((").namespace;\n" ++ "    module.hot.accept(").toList ++ (quote model ++
  ((", () => \x7b\n" ++ "      try \x7b\n").toList ++
  ((List.replicate 8 ' ' ++ app.toList ++ '.' :: 'u' :: "nmodel(modelNamespaceMap[".toList) ++
  (quote model ++ ("]);\n".toList ++
  ((List.replicate 8 ' ' ++ app.toList ++ '.' :: 'm' :: "odel(require(".toList) ++
  (quote model ++ ("));\n" ++ "      \x7d catch(e) \x7b console.error(e); \x7d\n" ++
    "    \x7d);\n" ++ "  \x7d\n").toList)))))))))))

/-- The text of the block of a model is its pieces. -/
theorem modelSource_toList (app model : String) :
    (modelSource app model).toList = modelText app model := by
  have hmap : "    modelNamespaceMap['".toList = "    modelNamespaceMap[".toList ++ ['\x27'] := rfl
  have hmiddle : "'] = require('".toList = '\x27' :: "] = require(".toList ++ ['\x27'] := rfl
  have hnamespace : "').namespace;\n".toList = '\x27' :: ").namespace;\n".toList := rfl
  have haccept : "    module.hot.accept('".toList = "    module.hot.accept(".toList ++ ['\x27'] := rfl
  have hhandler : "', () => \x7b\n".toList = '\x27' :: ", () => \x7b\n".toList := rfl
  have hindent : "        ".toList = List.replicate 8 ' ' := rfl
  have hunmodel : ".unmodel(modelNamespaceMap['".toList =
      '.' :: 'u' :: "nmodel(modelNamespaceMap[".toList ++ ['\x27'] := rfl
  have hclosing : "']);\n".toList = '\x27' :: "]);\n".toList := rfl
  have hmodel : ".model(require('".toList = '.' :: 'm' :: "odel(require(".toList ++ ['\x27'] := rfl
  have hend : "'));\n".toList = '\x27' :: "));\n".toList := rfl
  delta modelSource modelText rememberFront quote
  simp only [String.toList_append, List.append_assoc, List.cons_append, List.nil_append, hmap,
    hmiddle, hnamespace, haccept, hhandler, hindent, hunmodel, hclosing, hmodel, hend]

/-- The text of a unit is made of these. -/
theorem source_toList (u : HotUnit) : u.source.toList =
    frontOfModels u.app u.router u.container ++
      (u.reloaded.flatMap (modelText u.app) ++ "\x7d)()\n".toList) := by
  have hmodels : (String.join (u.reloaded.map (modelSource u.app))).toList =
      u.reloaded.flatMap (modelText u.app) := by
    rw [String.toList_join, List.flatMap_map]
    exact congrArg (u.reloaded.flatMap ·) (funext (modelSource_toList u.app))
  have hlog : "  console.log('[HMR] inited with dva-hmr');\n".toList = "  console.log(".toList ++
      ('\x27' :: "[HMR] inited with dva-hmr".toList ++ '\x27' :: ");\n".toList) := rfl
  have hindent : "  ".toList = List.replicate 2 ' ' := rfl
  have hrouter : ".router(require('".toList = '.' :: 'r' :: "outer(require(".toList ++ ['\x27'] := rfl
  have hend : "'));\n".toList = '\x27' :: "));\n".toList := rfl
  have huse : ".use(\x7b\n".toList = '.' :: 'u' :: "se(\x7b\n".toList := rfl
  have hredBox : "          const RedBox = require('redbox-react');\n".toList =
      "          const RedBox = require(".toList ++
        ('\x27' :: "redbox-react".toList ++ '\x27' :: ");\n".toList) := rfl
  have hcontainer : "document.querySelector('".toList =
      "document.querySelector(".toList ++ ['\x27'] := rfl
  have herror : "            console.error('error', error);\n".toList =
      "            console.error(".toList ++
        ('\x27' :: "error".toList ++ '\x27' :: ", error);\n".toList) := rfl
  have haccept : "        module.hot.accept('".toList =
      "        module.hot.accept(".toList ++ ['\x27'] := rfl
  have hhandler : "', () => \x7b\n".toList = '\x27' :: ", () => \x7b\n".toList := rfl
  have hrequire : "          const router = require('".toList =
      "          const router = require(".toList ++ ['\x27'] := rfl
  have hclosing : "');\n".toList = '\x27' :: ");\n".toList := rfl
  delta source routerSource frontOfModels frontOfContainer frontOfRouter quote
  simp only [String.toList_append, List.append_assoc, List.cons_append, List.nil_append, hmodels,
    hlog, hindent, hrouter, hend, huse, hredBox, hcontainer, herror, haccept, hhandler, hrequire,
    hclosing]

section Front

variable {app router container model : String} {r c : Literal}
  (happ : isVariableName app = true) (hawait : app ≠ "await")

include happ hawait

theorem lexes_frontOfRouter : Lexes ⟨.start, true⟩ (frontOfRouter app)
    (selfInvocation true false false false false ++
      (tokensOf [(logTokens, logNode)] ++ requiringOpening (nameToken app) "router"))
    (before [.expressionParen, .expressionParen] .leftParen false) :=
  lexes_opening.append (lexes_requiringOpening happ hawait)

theorem lexes_frontOfContainer (hr : ReadsAs router r) : Lexes ⟨.start, true⟩
    (frontOfContainer app router)
    (selfInvocation true false false false false ++
      (tokensOf [(logTokens, logNode), requiringPhrase app "router" r] ++
        (useOpening (nameToken app) ++ (optionsOpening ++ (ifHotOpening ++
          (renderNormallyTokens ++ renderExceptionOpening))))))
    (before (.expressionParen :: .expressionParen :: .statementBrace :: inHotRouter) .leftParen
      false) := by
  have hclosing : Lexes (behind [.expressionParen, .expressionParen] r) "));\n".toList
      requiringClosing (before [] .semicolon true) := ⟨fun fuel _ => by cases fuel <;> rfl, by decide⟩
  exact (lexes_frontOfRouter happ hawait).append ((lexes_slot hr (by decide)).append
    (hclosing.append ((lexes_useOpening happ hawait).append lexes_renderExceptionOpening)))

theorem lexes_frontOfModels (hr : ReadsAs router r) (hc : ReadsAs container c) :
    Lexes ⟨.start, true⟩ (frontOfModels app router container)
      (selfInvocation true false false false false ++ tokensOf (phrases app ⟨r, c, []⟩))
      (before [] .semicolon true) := by
  have haccept := lexes_acceptRouter.append ((lexes_slot hr (by decide)).append
    ((lexes_newRouterOpening r).append ((lexes_slot hr (by decide)).append (lexes_useClosing r))))
  exact (lexes_frontOfContainer happ hawait hr).append ((lexes_slot hc (by decide)).append
    ((lexes_renderExceptionClosing c).append (lexes_newRender.append haccept)))

/-- The text of the block of a model has the tokens of the block. -/
theorem lexes_modelText {l : Literal} (h : ReadsAs model l) {m : Mark}
    (hm : m = .semicolon ∨ m = .rightBrace) :
    Lexes (before [] m true) (modelText app model) (modelPhrase app l).1
      (before [] .rightBrace true) := by
  have hregister := (lexes_unmodelClosing l).append ((lexes_modelOpening happ hawait).append
    ((lexes_slot h (by decide)).append (lexes_modelClosing l)))
  have haccept := (lexes_rememberClosing l).append ((lexes_slot h (by decide)).append
    ((lexes_tryOpening l).append ((lexes_unmodelOpening happ hawait).append
      ((lexes_slot h (by decide)).append hregister))))
  exact (lexes_rememberOpening hm).append ((lexes_slot h (by decide)).append
    ((lexes_rememberMiddle l).append ((lexes_slot h (by decide)).append haccept)))

theorem lexes_models {models : List String} {ls : List Literal}
    (h : List.Forall₂ ReadsAs models ls) {m : Mark} (hm : m = .semicolon ∨ m = .rightBrace) :
    ∃ m', (m' = .semicolon ∨ m' = .rightBrace) ∧
      Lexes (before [] m true) (models.flatMap (modelText app))
        (tokensOf (ls.map (modelPhrase app))) (before [] m' true) := by
  induction h generalizing m with
  | nil => exact ⟨m, hm, Lexes.nil _⟩
  | cons hl _ ih =>
    obtain ⟨m', hm', hmodels⟩ := ih (Or.inr rfl)
    exact ⟨m', hm', (lexes_modelText happ hawait hl hm).append hmodels⟩

end Front

/-! ### Reading the text -/

/-- The slots of the unit are read as the literals. -/
structure IsReadAs (u : HotUnit) (literals : Literals) : Prop where
  router : ReadsAs u.router literals.router
  container : ReadsAs u.container literals.container
  models : List.Forall₂ ReadsAs u.reloaded literals.models

/-- The text of a unit has its tokens if its slots are read as literals. -/
theorem tokenize_source {u : HotUnit} {literals : Literals} (h : u.IsReadAs literals)
    (happ : isVariableName u.app = true) (hawait : u.app ≠ "await") :
    tokenize u.source.toList = tokens u.app literals := by
  obtain ⟨m, hm, hmodels⟩ := lexes_models happ hawait h.models (Or.inl rfl)
  have hclosing : Lexes (before [] m true) "\x7d)()\n".toList closing
      ⟨⟨[.statementBrace], false, some (.mark .rightParen)⟩, true⟩ := by
    rcases hm with rfl | rfl <;> exact ⟨fun fuel _ => by cases fuel <;> rfl, by decide⟩
  obtain ⟨fuel, -, htokens⟩ := ((lexes_frontOfModels happ hawait h.router h.container).append
    (hmodels.append hclosing)).tokenize_append []
  have hend : lexemesFrom fuel ⟨⟨[.statementBrace], false, some (.mark .rightParen)⟩, true⟩ [] =
      [] := by cases fuel <;> rfl
  rw [List.append_nil, hend, List.append_nil] at htokens
  rw [source_toList, htokens]
  simp [tokens, tokensOf, phrases]

/-- **A unit is read as its tree** if its slots are read as literals. -/
theorem statement_of_isReadAs {u : HotUnit} {literals : Literals} (h : u.IsReadAs literals)
    (happ : isVariableName u.app = true) (hawait : u.app ≠ "await") :
    u.statement = .ok (tree u.app literals) := by
  unfold statement readStatement Script.read
  rw [tokenize_source h happ hawait, readTokens_tokens (nameToken_names happ hawait)]
  rfl

/-! ### Slots that are no literals -/

/-- The text neither closes the string that it is put in nor begins an escape. -/
def IsUnescaped (s : String) : Prop := s.toList.all isUnescaped = true

/-- The text stands for itself in a string. -/
def IsPlain (s : String) : Prop := s.toList.all isPlain = true

instance (s : String) : Decidable (IsUnescaped s) :=
  inferInstanceAs (Decidable (s.toList.all isUnescaped = true))

instance (s : String) : Decidable (IsPlain s) :=
  inferInstanceAs (Decidable (s.toList.all isPlain = true))

/-- The tokens of a text end at a slot in which a line ends. -/
theorem tokenize_unterminated {text : List Char} {ts : List Lexeme} {opened : List Nesting}
    {m : Mark} (h : Lexes ⟨.start, true⟩ text ts (before opened m false))
    (hopen : (before opened m false).expected.innermost ≠ .template) {s : String}
    (hs : IsUnescaped s) (hline : ¬ IsPlain s) (rest : List Char) :
    tokenize (text ++ (quote s ++ rest)) = ts ++ [⟨.invalid .unterminatedString, false⟩] := by
  obtain ⟨fuel, hfuel, htokens⟩ := h.tokenize_append (quote s ++ rest)
  obtain ⟨fuel, rfl⟩ : ∃ k, fuel = k + 1 := ⟨fuel - 1, by omega⟩
  have hquote : quote s ++ rest = '\x27' :: (s.toList ++ '\x27' :: rest) := by simp [quote]
  rw [htokens, hquote]
  exact congrArg _ (lexemes_unterminated hs (Bool.not_eq_true _ ▸ hline) hopen fuel _)

theorem exists_source_router (u : HotUnit) :
    ∃ rest, u.source.toList = frontOfRouter u.app ++ (quote u.router ++ rest) := by
  obtain ⟨afterContainer, hcontainer⟩ : ∃ rest, frontOfModels u.app u.router u.container =
    frontOfContainer u.app u.router ++ rest := ⟨_, rfl⟩
  obtain ⟨afterRouter, hrouter⟩ : ∃ rest, frontOfContainer u.app u.router =
    frontOfRouter u.app ++ (quote u.router ++ rest) := ⟨_, rfl⟩
  rw [source_toList, hcontainer, hrouter]
  exact ⟨_, by simp only [List.append_assoc]; rfl⟩

theorem exists_source_container (u : HotUnit) :
    ∃ rest, u.source.toList = frontOfContainer u.app u.router ++ (quote u.container ++ rest) := by
  obtain ⟨afterContainer, hcontainer⟩ : ∃ rest, frontOfModels u.app u.router u.container =
    frontOfContainer u.app u.router ++ (quote u.container ++ rest) := ⟨_, rfl⟩
  rw [source_toList, hcontainer]
  exact ⟨_, by simp only [List.append_assoc]; rfl⟩

theorem exists_source_model {u : HotUnit} {good others : List String} {model : String}
    (h : u.reloaded = good ++ model :: others) :
    ∃ rest, u.source.toList =
      frontOfModels u.app u.router u.container ++ (good.flatMap (modelText u.app) ++
        rememberFront) ++ (quote model ++ rest) := by
  obtain ⟨afterModel, hmodel⟩ : ∃ rest, modelText u.app model =
    rememberFront ++ (quote model ++ rest) := ⟨_, rfl⟩
  rw [source_toList, h, List.flatMap_append, List.flatMap_cons, hmodel]
  exact ⟨_, by simp only [List.append_assoc]; rfl⟩

theorem forall₂_readsAs_quoted {ss : List String} (h : ∀ s ∈ ss, IsPlain s) :
    List.Forall₂ ReadsAs ss (ss.map quoted) := by
  rw [List.forall₂_map_right_iff, List.forall₂_same]
  exact fun s hs => readsAs_quoted (h s hs)

section Unterminated

variable {u : HotUnit} (happ : isVariableName u.app = true) (hawait : u.app ≠ "await")

include happ hawait

theorem statement_of_router (hs : IsUnescaped u.router) (hline : ¬ IsPlain u.router) :
    u.statement = .error .unterminatedString := by
  obtain ⟨rest, htext⟩ := exists_source_router u
  unfold statement readStatement Script.read
  rw [htext, tokenize_unterminated (lexes_frontOfRouter happ hawait) (by decide) hs hline]
  exact congrArg (Except.map _)
    (readTokens_invalid_router (nameToken_names happ hawait) .unterminatedString)

theorem statement_of_container (hr : IsPlain u.router) (hs : IsUnescaped u.container)
    (hline : ¬ IsPlain u.container) : u.statement = .error .unterminatedString := by
  obtain ⟨rest, htext⟩ := exists_source_container u
  have hlexes := lexes_frontOfContainer happ hawait (readsAs_quoted hr)
  unfold statement readStatement Script.read
  rw [htext, tokenize_unterminated hlexes (by decide) hs hline]
  exact congrArg (Except.map _)
    (readTokens_invalid_container (nameToken_names happ hawait) .unterminatedString _)

theorem statement_of_model (hr : IsPlain u.router) (hc : IsPlain u.container)
    {good others : List String} {model : String} (h : u.reloaded = good ++ model :: others)
    (hgood : ∀ s ∈ good, IsPlain s) (hs : IsUnescaped model) (hline : ¬ IsPlain model) :
    u.statement = .error .unterminatedString := by
  obtain ⟨rest, htext⟩ := exists_source_model h
  obtain ⟨m, hm, hmodels⟩ :=
    lexes_models happ hawait (forall₂_readsAs_quoted hgood) (Or.inl rfl)
  have hlexes := (lexes_frontOfModels happ hawait (readsAs_quoted hr) (readsAs_quoted hc)).append
    (hmodels.append (lexes_rememberOpening hm))
  unfold statement readStatement Script.read
  rw [htext, tokenize_unterminated hlexes (by decide) hs hline]
  have htokens := readTokens_invalid_model (nameToken_names happ hawait) .unterminatedString
    ⟨quoted u.router, quoted u.container, good.map quoted⟩
  refine congrArg (Except.map _) (.trans ?_ htokens)
  simp [tokensOf, phrases]

end Unterminated

/-- The texts in the slots of a unit. -/
def slots (u : HotUnit) : List String := u.router :: u.container :: u.reloaded

/-- The literals whose values are the texts in the slots. -/
def literals (u : HotUnit) : Literals :=
  ⟨quoted u.router, quoted u.container, u.reloaded.map quoted⟩

theorem values_literals (u : HotUnit) : u.literals.models.map Literal.value = u.reloaded := by
  simp [literals, Function.comp_def, quoted]

/-- The slots of a unit are read as literals with the texts in them as their
values if these stand for themselves. -/
theorem isReadAs_literals {u : HotUnit} (h : ∀ s ∈ u.slots, IsPlain s) :
    u.IsReadAs u.literals where
  router := readsAs_quoted (h _ (by simp [slots]))
  container := readsAs_quoted (h _ (by simp [slots]))
  models := forall₂_readsAs_quoted fun s hs => h s (by simp [slots, hs])

/-- **A unit with a line that ends in a slot is no script**, if no slot holds a
quotation mark or a backslash. -/
theorem statement_of_unescaped {u : HotUnit} (happ : isVariableName u.app = true)
    (hawait : u.app ≠ "await") (h : ∀ s ∈ u.slots, IsUnescaped s)
    (hline : ¬ ∀ s ∈ u.slots, IsPlain s) : u.statement = .error .unterminatedString := by
  by_cases hr : IsPlain u.router
  · by_cases hc : IsPlain u.container
    · -- the first model that does not stand for itself ends the tokens
      cases hfind : u.reloaded.find? fun s => !s.toList.all isPlain with
      | none =>
        have hmodels : ∀ s ∈ u.reloaded, IsPlain s := by simpa [IsPlain] using hfind
        exact absurd (by simpa [slots, hr, hc] using hmodels) hline
      | some model =>
        obtain ⟨hmodel, good, others, hsplit, hgood⟩ := List.find?_eq_some_iff_append.mp hfind
        have hs : IsUnescaped model := h _ (by simp [slots, hsplit])
        exact statement_of_model happ hawait hr hc hsplit (by simpa [IsPlain] using hgood) hs
          (by simpa [IsPlain] using hmodel)
    · exact statement_of_container happ hawait hr (h _ (by simp [slots])) hc
  · exact statement_of_router happ hawait (h _ (by simp [slots])) hr

/-- A unit for an application whose name is `await` is no script. -/
theorem statement_of_await {u : HotUnit} (happ : u.app = "await") :
    ∃ f, u.statement = .error f := by
  obtain ⟨rest, htext⟩ := exists_source_router u
  have hname : Lexes (before [] .semicolon true)
      (List.replicate 2 ' ' ++ "await".toList ++ '.' :: 'r' :: "outer(require(".toList)
      ([line (.word .awaitWord), mark .dot, name "router", mark .leftParen, name "require",
        mark .leftParen]) (before [.expressionParen, .expressionParen] .leftParen false) :=
    ⟨fun _ _ => rfl, by decide⟩
  have hfront : Lexes ⟨.start, true⟩ (frontOfRouter "await") _ _ := lexes_opening.append hname
  obtain ⟨fuel, -, htokens⟩ := hfront.tokenize_append (quote u.router ++ rest)
  rw [happ] at htext
  obtain ⟨f, hf⟩ := readTokens_await ([name "router", mark .leftParen, name "require",
    mark .leftParen] ++ lexemesFrom fuel (before [.expressionParen, .expressionParen] .leftParen
      false) (quote u.router ++ rest))
  refine ⟨f, ?_⟩
  unfold statement readStatement Script.read
  rw [htext, htokens]
  exact congrArg (Except.map _) hf

end HotUnit

end HotReload
