import ElmPrerender.Elm.Driver
import ElmPrerender.Manifest
import ElmPrerender.Workspace

/-!
The four generated files of the scratch directory: the patched manifest, the driver program, the
native module that it links, and the script that runs the compiled program.
-/

namespace ElmPrerender

namespace Scaffold

/-- Prints the one batch that the compiled program hands out. -/
def runnerScript : String :=
  r"// Generated by elm-static-html. Do not edit.
var path = require('path');
var Elm = require(path.join(__dirname, 'elm.js'));

var worker = Elm.PrivateMain.worker();
worker.ports.htmlOut.subscribe(function (pairs) {
    process.stdout.write(JSON.stringify(pairs));
});
"

/-- The variable that the compiler links for the native module. -/
def shimVariable (name : ProjectName) : String := "_" ++ name.text ++ "$Native_Jsonify"

/-- What the native module has behind its variable. -/
def nativeObject : String :=
  r" = {
    stringify: function(thing) { return JSON.stringify(thing); }
};
"

/-- The native module that turns a view into JSON. -/
def shim (name : ProjectName) : String := "var " ++ shimVariable name ++ nativeObject

end Scaffold

/-- What the generated files are made from. -/
structure Scaffold where
  config : RenderConfiguration
  format : Elm.Format
  manifest : Manifest
  projectName : ProjectName
  deriving DecidableEq, Repr

namespace Scaffold

/-- The files with their texts, in the order in which they are written. The manifest has been
printed before. -/
def filesWith (s : Scaffold) (w : Workspace) (manifest : String) : List (Path × String) :=
  [(w.manifest, manifest),
    (w.driver, (Elm.Driver.ofConfiguration s.config s.format).render),
    (w.shim, shim s.projectName),
    (w.runner, runnerScript)]

end Scaffold

end ElmPrerender
