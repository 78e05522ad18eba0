import OutlineChart.Flowchart.Mermaid
import OutlineChart.Failure
import OutlineChart.Settings.Basic

/-! # Descriptions and their pages

A description is accepted if, without the whitespace around it, it begins as a top-down graph.  The
page that draws it is the same before and after it, apart from the address of the script.
-/

namespace OutlineChart

namespace Render

/-- The text of a description that can be rendered. -/
def accept (description : Option Text) : Except DiagramError Text :=
  let code := (description.getD []).strip
  if Mermaid.directive.isPrefixOf code then .ok code
  else .error (.plain .invalidFormat "Invalid Mermaid code format" none)

/-! ## The page -/

def pageHead : List String :=
  ["<html>",
    "  <head>",
    "    <style>",
    "      body \x7b",
    "        padding: 2cm;",
    "        font-family: \"Arial\", sans-serif !important;",
    "        background: white;",
    "      \x7d",
    "      .mermaid-container \x7b",
    "        width: 100%;",
    "        min-height: 80vh;",
    "      \x7d",
    "      .mermaid svg \x7b",
    "        background-color: white !important;",
    "      \x7d",
    "      .label text \x7b",
    "        fill: black !important;",
    "        font-family: Arial !important;",
    "      \x7d",
    "    </style>"]

def pageTail : List String :=
  ["</div>",
    "    </div>",
    "    <script>",
    "      mermaid.initialize(\x7b",
    "        startOnLoad: true,",
    "        securityLevel: 'loose',",
    "        theme: 'neutral',",
    "        flowchart: \x7b",
    "          diagramPadding: 20",
    "        \x7d",
    "      \x7d);",
    "    </script>",
    "  </body>",
    "</html>"]

def pageBefore (scriptUrl : String) : Text :=
  Text.ofLines (pageHead.map Text.ofString) ++ Text.ofString "    <script src=\"" ++
    Text.ofString scriptUrl ++
    Text.ofLines ((["\"></script>", "  </head>", "  <body>",
      "    <div class=\"mermaid-container\">"]).map Text.ofString) ++
    Text.ofString "      <div class=\"mermaid\">"

def pageAfter : Text := Text.ofLines (pageTail.map Text.ofString)

/-- The page that draws a description, which stands in it as it is. -/
def page (s : Settings) (code : Text) : Text := pageBefore s.mermaidScriptUrl ++ code ++ pageAfter

end Render

end OutlineChart
