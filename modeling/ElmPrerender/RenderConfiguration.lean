import ElmPrerender.Target

/-!
The pages of all modules, in the order in which they are rendered. A configuration is built by
`push`, which refuses a source file that is already there under any spelling of its path.
-/

namespace ElmPrerender

/-- The pages of one module. -/
structure ModuleSpec where
  source : Path
  moduleName : ModuleName
  targets : List RenderTarget
  deriving DecidableEq, Repr

/-- A module with at least one page. -/
def ModuleSpec.make (source : Path) (moduleName : ModuleName) (targets : List RenderTarget) :
    Except DomainError ModuleSpec :=
  if targets.isEmpty then .error (.noTargets moduleName) else .ok ⟨source, moduleName, targets⟩

structure RenderConfiguration where
  specs : List ModuleSpec
  deriving DecidableEq, Repr

namespace RenderConfiguration

def empty : RenderConfiguration := ⟨[]⟩

def hasSource (config : RenderConfiguration) (source : Path) : Bool :=
  config.specs.any (·.source.same source)

/-- Adds a module after the others. -/
def push (config : RenderConfiguration) (spec : ModuleSpec) :
    Except DomainError RenderConfiguration :=
  if config.hasSource spec.source then .error (.configuredTwice spec.source)
  else .ok ⟨config.specs ++ [spec]⟩

def isEmpty (config : RenderConfiguration) : Bool := config.specs.isEmpty

def size (config : RenderConfiguration) : Nat := config.specs.length

def targetCount (config : RenderConfiguration) : Nat :=
  (config.specs.map (·.targets.length)).foldr (· + ·) 0

end RenderConfiguration

end ElmPrerender
