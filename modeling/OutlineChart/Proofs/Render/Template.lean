import OutlineChart.Render.Page

/-! # The page as a template

The page written as a template: a place to be filled is a name in braces, and a brace of the page
is doubled.  A template is filled in one pass from the left, so nothing that is filled in is read
again, whatever braces and names there are in it.
-/

namespace OutlineChart

namespace Template

def openBrace : Char := '\x7b'

def closeBrace : Char := '\x7d'

/-- Where the reader of a template is. -/
inductive Reading where
  | text
  /-- Behind an opening brace, which may be a place's or doubled. -/
  | opened
  | place (name : List Char)
  /-- Behind a closing brace, which must be doubled. -/
  | closed
  deriving DecidableEq, Repr

/-- Fills the places from here on; nothing comes of a place without a value or a lone brace. -/
def fillFrom (value? : List Char → Option Text) : Reading → List Char → Option Text
  | .text, [] => some []
  | .text, c :: cs =>
      if c = openBrace then fillFrom value? .opened cs
      else if c = closeBrace then fillFrom value? .closed cs
      else (fillFrom value? .text cs).map (CodePoint.char c :: ·)
  | .opened, c :: cs =>
      if c = openBrace then (fillFrom value? .text cs).map (CodePoint.char c :: ·)
      else if c = closeBrace then
        (value? []).bind fun value => (fillFrom value? .text cs).map (value ++ ·)
      else fillFrom value? (.place [c]) cs
  | .place name, c :: cs =>
      if c = closeBrace then
        (value? name).bind fun value => (fillFrom value? .text cs).map (value ++ ·)
      else fillFrom value? (.place (name ++ [c])) cs
  | .closed, c :: cs =>
      if c = closeBrace then (fillFrom value? .text cs).map (CodePoint.char c :: ·) else none
  | _, [] => none

def fill (value? : List Char → Option Text) (template : List Char) : Option Text :=
  fillFrom value? .text template

/-- The template of a text that is to stay as it is. -/
def escape (cs : List Char) : List Char :=
  cs.flatMap fun c => if c = openBrace ∨ c = closeBrace then [c, c] else [c]

def place (name : List Char) : List Char := openBrace :: name ++ [closeBrace]

variable {value? : List Char → Option Text}

theorem fill_nil : fill value? [] = some [] := rfl

theorem fill_escape_append (cs rest : List Char) :
    fill value? (escape cs ++ rest) = (fill value? rest).map (Text.ofChars cs ++ ·) := by
  induction cs with
  | nil => cases h : fill value? rest <;> simp [escape, h]
  | cons c cs ih =>
      have hcons : escape (c :: cs) ++ rest =
          (if c = openBrace ∨ c = closeBrace then [c, c] else [c]) ++ (escape cs ++ rest) := by
        simp [escape]
      -- a doubled brace is read in two steps, anything else in one
      have hone : fill value? ((if c = openBrace ∨ c = closeBrace then [c, c] else [c]) ++
          (escape cs ++ rest)) = (fill value? (escape cs ++ rest)).map (CodePoint.char c :: ·) := by
        have hdistinct : closeBrace ≠ openBrace := by decide
        by_cases hopen : c = openBrace
        · simp [fill, fillFrom, hopen]
        · by_cases hclose : c = closeBrace
          · simp [fill, fillFrom, hclose, hdistinct]
          · simp [fill, fillFrom, hopen, hclose]
      rw [hcons, hone, ih, Option.map_map]
      rfl

theorem fillFrom_place {name : List Char} (h : closeBrace ∉ name) (before rest : List Char) :
    fillFrom value? (.place before) (name ++ closeBrace :: rest) =
      (value? (before ++ name)).bind fun value => (fill value? rest).map (value ++ ·) := by
  -- over the rest of the name, while `before` grows
  induction name generalizing before with
  | nil => simp [fillFrom, fill]
  | cons c name ih =>
      have hc : c ≠ closeBrace := Ne.symm (List.ne_of_not_mem_cons h)
      have hname : closeBrace ∉ name := List.not_mem_of_not_mem_cons h
      rw [List.cons_append, fillFrom, if_neg hc, ih hname, List.append_assoc]
      rfl

theorem fill_place_append {name : List Char} (hopen : openBrace ∉ name) (hclose : closeBrace ∉ name)
    (rest : List Char) :
    fill value? (place name ++ rest) =
      (value? name).bind fun value => (fill value? rest).map (value ++ ·) := by
  have hdistinct : closeBrace ≠ openBrace := by decide
  cases name with
  | nil => simp [place, fill, fillFrom, hdistinct]
  | cons c name =>
      have hco : c ≠ openBrace := Ne.symm (List.ne_of_not_mem_cons hopen)
      have hcc : c ≠ closeBrace := Ne.symm (List.ne_of_not_mem_cons hclose)
      have hname : closeBrace ∉ name := List.not_mem_of_not_mem_cons hclose
      have hplace : fillFrom value? (.place [c]) (name ++ closeBrace :: rest) = _ :=
        fillFrom_place hname [c] rest
      simp only [place, fill, List.cons_append, List.append_assoc]
      rw [fillFrom, if_pos rfl, fillFrom, if_neg hco, if_neg hcc]
      exact hplace

end Template

namespace Render
open Template

/-! ## The template of the page -/

def pageTemplate : List String :=
  ["<html>",
    "  <head>",
    "    <style>",
    "      body \x7b\x7b",
    "        padding: 2cm;",
    "        font-family: \"Arial\", sans-serif !important;",
    "        background: white;",
    "      \x7d\x7d",
    "      .mermaid-container \x7b\x7b",
    "        width: 100%;",
    "        min-height: 80vh;",
    "      \x7d\x7d",
    "      .mermaid svg \x7b\x7b",
    "        background-color: white !important;",
    "      \x7d\x7d",
    "      .label text \x7b\x7b",
    "        fill: black !important;",
    "        font-family: Arial !important;",
    "      \x7d\x7d",
    "    </style>",
    "    <script src=\"\x7bscript_url\x7d\"></script>",
    "  </head>",
    "  <body>",
    "    <div class=\"mermaid-container\">",
    "      <div class=\"mermaid\">\x7bmermaid_code\x7d</div>",
    "    </div>",
    "    <script>",
    "      mermaid.initialize(\x7b\x7b",
    "        startOnLoad: true,",
    "        securityLevel: 'loose',",
    "        theme: 'neutral',",
    "        flowchart: \x7b\x7b",
    "          diagramPadding: 20",
    "        \x7d\x7d",
    "      \x7d\x7d);",
    "    </script>",
    "  </body>",
    "</html>"]

def charsOf (lines : List String) : List Char := lines.flatMap fun line => line.toList ++ ['\n']

/-- The page with the address of a script and a description in their places. -/
def filledPage (url : String) (code : Text) : Option Text :=
  fill
    (fun name =>
      if name = "script_url".toList then some (Text.ofString url)
      else if name = "mermaid_code".toList then some code
      else none)
    (charsOf pageTemplate)

theorem ofLines_ofString (lines : List String) :
    Text.ofLines (lines.map Text.ofString) = Text.ofChars (charsOf lines) := by
  induction lines with
  | nil => rfl
  | cons line lines ih =>
      rw [List.map_cons, Text.ofLines_cons, ih]
      simp [charsOf, Text.ofString, CodePoint.newline]

/-! ## The pieces between the places -/

def beforeUrl : List Char := charsOf pageHead ++ "    <script src=\"".toList

def beforeCode : List Char :=
  charsOf ["\"></script>", "  </head>", "  <body>", "    <div class=\"mermaid-container\">"] ++
    "      <div class=\"mermaid\">".toList

theorem page_eq (s : Settings) (code : Text) :
    page s code = Text.ofChars beforeUrl ++ (Text.ofString s.mermaidScriptUrl ++
      (Text.ofChars beforeCode ++ (code ++ Text.ofChars (charsOf pageTail)))) := by
  unfold page pageBefore pageAfter beforeUrl beforeCode
  rw [ofLines_ofString, ofLines_ofString, ofLines_ofString]
  simp [Text.ofString]

theorem charsOf_pageTemplate :
    charsOf pageTemplate = escape beforeUrl ++ (place "script_url".toList ++
      (escape beforeCode ++ (place "mermaid_code".toList ++ (escape (charsOf pageTail) ++ [])))) := by
  decide +kernel

theorem filledPage_eq (s : Settings) (code : Text) :
    filledPage s.mermaidScriptUrl code = some (page s code) := by
  rw [page_eq, filledPage, charsOf_pageTemplate, fill_escape_append,
    fill_place_append (by decide) (by decide), fill_escape_append,
    fill_place_append (by decide) (by decide), fill_escape_append, fill_nil]
  simp

theorem page_pieces : ∃ head middle tail : List Char,
    beforeUrl = head ++ "<script src=\"".toList ∧
    beforeCode = "\"></script>".toList ++ middle ++ "<div class=\"mermaid\">".toList ∧
    charsOf pageTail = "</div>".toList ++ tail := by
  refine ⟨charsOf pageHead ++ "    ".toList,
    charsOf ["", "  </head>", "  <body>", "    <div class=\"mermaid-container\">"] ++
      "      ".toList, charsOf ("" :: pageTail.tail), ?_, ?_, ?_⟩
  all_goals decide +kernel

/-- The address stands in the script element and the description in the diagram's element. -/
theorem filledPage_layout : ∃ head middle tail : Text, ∀ (url : String) (code : Text),
    filledPage url code = some (head ++
      Text.ofString "<script src=\"" ++ Text.ofString url ++ Text.ofString "\"></script>" ++
      middle ++
      Text.ofString "<div class=\"mermaid\">" ++ code ++ Text.ofString "</div>" ++ tail) := by
  obtain ⟨head, middle, tail, hurl, hcode, htail⟩ := page_pieces
  refine ⟨Text.ofChars head, Text.ofChars middle, Text.ofChars tail, fun url code => ?_⟩
  have hpage := filledPage_eq { mermaidScriptUrl := url } code
  rw [page_eq, hurl, hcode, htail] at hpage
  rw [hpage]
  simp [Text.ofString]

end Render

end OutlineChart
