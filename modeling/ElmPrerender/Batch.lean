import ElmPrerender.Json.Typed

/-!
What the compiled program prints: one list of pairs, each a destination key and an HTML text.
-/

namespace ElmPrerender

/-- A destination key with the HTML, or the error text, that goes there. -/
structure RenderedPage where
  key : String
  html : String
  deriving DecidableEq, Repr

abbrev Batch := List RenderedPage

namespace Batch

def page (depth : Nat) : Json.Reader RenderedPage :=
  (fun (key, html) => ⟨key, html⟩) <$> Json.Reader.pair depth Json.Reader.string Json.Reader.string

def reader : Json.Reader Batch := Json.Reader.list "a sequence" Json.Reader.maxDepth page

/-- The pages that the printed bytes hold, in order. -/
def decode (output : List UInt8) : Except Json.SyntaxError Batch :=
  Json.Reader.parse reader output

end Batch

end ElmPrerender
