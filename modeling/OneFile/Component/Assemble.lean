import OneFile.Component.Buckets
import OneFile.Text.Layout

/-!
# Putting the output together

The module is written from the buckets as plain text, and so is the stylesheet; nothing is read
again.

## Main definitions

* `OneFile.Buckets.moduleText`
* `OneFile.Buckets.styleText`
-/

namespace OneFile

namespace Buckets

/-- Each piece on lines of its own, and an empty line after the last one. -/
def paragraph (pieces : List Piece) : Text :=
  if pieces.isEmpty then [] else pieces.flatMap (fun p => p.text ++ ['\n']) ++ ['\n']

/-- The text with no blank characters at the ends of its lines. -/
def trimLines (s : Text) : Text := Text.unlines (s.lines.map Text.trimEnd)

/-- The returned template: a lone element is returned bare, all else inside a fragment. -/
def templateText (b : Buckets) : Text :=
  let markup := b.template.flatMap Piece.text
  match b.shape with
  | .empty => "    <></>\n".toList
  | .element => Text.indent 4 markup ++ ['\n']
  | .fragment =>
    let body := Text.indent 6 markup
    "    <>\n".toList ++ (if body.isEmpty then [] else body ++ ['\n']) ++ "    </>\n".toList

/-- The instance statements, each after two spaces and without blanks at line ends. -/
def instanceText (b : Buckets) : Text :=
  if b.instanceBody.isEmpty then []
  else b.instanceBody.flatMap (fun p => ' ' :: ' ' :: trimLines p.text ++ ['\n']) ++ ['\n']

/-- The module: imports, module statements, and the component function with the instance
statements and the returned template. -/
def moduleText (b : Buckets) : Text :=
  paragraph b.imports ++ paragraph b.moduleBody
    ++ "export default function(props) \x7b\n".toList
    ++ b.instanceText
    ++ "  return (\n".toList ++ b.templateText ++ "  );\n\x7d\n".toList

/-- A style block without its common margin and without empty lines at its ends. -/
def styleBlockText (s : Text) : Text :=
  let trimStart (t : Text) : Text := t.dropWhile (· == '\n')
  (trimStart (trimStart (Text.dedent s)).reverse).reverse

/-- The stylesheet: the blocks that have content, one after the other. -/
def styleText (b : Buckets) : Text :=
  b.styles.flatMap fun p =>
    let block := styleBlockText p.text
    if block.isEmpty then [] else block ++ ['\n']

end Buckets

end OneFile
