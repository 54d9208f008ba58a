/-
# The source text of a hot-reload unit

A hot-reload unit is a self-invoking function that registers a router, accepts
updates of the router's module and, for every model, accepts updates of the
model's module. Its text is a fixed template into which the name of the
application and the module paths are put as they are: whether the result is a
program at all is for the reader of scripts to say.

Key definitions: `HotUnit`, `HotUnit.routerSource`, `HotUnit.modelSource`,
`HotUnit.source`.
-/

namespace HotReload

/-- What a hot-reload unit is made from: the name of the application, the path
of its router, the selector of the element that error reports are shown in, the
paths of its models, and whether models are reloaded at all. -/
structure HotUnit where
  app : String
  router : String
  container : String
  models : List String
  reloadsModels : Bool
deriving DecidableEq

namespace HotUnit

/-- The models that have a block in the unit. -/
def reloaded (u : HotUnit) : List String := if u.reloadsModels then u.models else []

/-- The text of the registration of the router and of its reloading. -/
def routerSource (app router container : String) : String :=
  "  console.log('[HMR] inited with dva-hmr');\n" ++
  "  " ++ app ++ ".router(require('" ++ router ++ "'));\n" ++
  "  " ++ app ++ ".use(\x7b\n" ++
  "    onHmr(render) \x7b\n" ++
  "      if (module.hot) \x7b\n" ++
  "        const renderNormally = render;\n" ++
  "        const renderException = (error) => \x7b\n" ++
  "          const RedBox = require('redbox-react');\n" ++
  "          ReactDOM.render(React.createElement(RedBox, \x7b error: error \x7d), " ++
    "document.querySelector('" ++ container ++ "'));\n" ++
  "        \x7d;\n" ++
  "        const newRender = (router) => \x7b\n" ++
  "          try \x7b\n" ++
  "            renderNormally(router);\n" ++
  "          \x7d catch (error) \x7b\n" ++
  "            console.error('error', error);\n" ++
  "            renderException(error);\n" ++
  "          \x7d\n" ++
  "        \x7d;\n" ++
  "        module.hot.accept('" ++ router ++ "', () => \x7b\n" ++
  "          const router = require('" ++ router ++ "');\n" ++
  "          newRender(router);\n" ++
  "        \x7d);\n" ++
  "      \x7d\n" ++
  "    \x7d,\n" ++
  "  \x7d);\n"

/-- The text of the block that reloads one model: it unregisters the model
under the namespace it had before and registers it anew. -/
def modelSource (app model : String) : String :=
  "  if (module.hot) \x7b\n" ++
  "    const modelNamespaceMap = \x7b\x7d;\n" ++
  "    modelNamespaceMap['" ++ model ++ "'] = require('" ++ model ++ "').namespace;\n" ++
  "    module.hot.accept('" ++ model ++ "', () => \x7b\n" ++
  "      try \x7b\n" ++
  "        " ++ app ++ ".unmodel(modelNamespaceMap['" ++ model ++ "']);\n" ++
  "        " ++ app ++ ".model(require('" ++ model ++ "'));\n" ++
  "      \x7d catch(e) \x7b console.error(e); \x7d\n" ++
  "    \x7d);\n" ++
  "  \x7d\n"

/-- The text of the unit. -/
def source (u : HotUnit) : String :=
  "\n(function() \x7b\n  // Generated by dva-hmr\n" ++
  routerSource u.app u.router u.container ++
  String.join (u.reloaded.map (modelSource u.app)) ++
  "\x7d)()\n"

end HotUnit

end HotReload
