import Flashcard.Page
import Flashcard.Proofs.Html.StyleText

/-!
# The text of a page

A page puts two style elements into its head and a side of a card into its body. What is read from
it is white space, which is the same in every page, and the side (`documentText_page`): the style
elements are hidden, and no style leaves its element unless it holds the end tag of one.

The reader is followed through the source of a page piece by piece. The lemmas about the pieces hold
for any reader in the mode that the piece is read in; only the tree that comes out at the end
is written out (`text_pageBody`).
-/

namespace Flashcard

namespace Html

/-! ### The end tag in the source of a page -/

theorem holdsStyleEnd_template (css : String) :
    HoldsStyleEnd ("\n            " ++ css ++ "\n        ").toList ↔ HoldsStyleEnd css.toList := by
  have hrest : ¬ HoldsStyleEnd "        ".toList := not_holdsStyleEnd (by decide)
  have hend : "\n        ".toList = '\n' :: "        ".toList := by decide
  rw [String.toList_append, String.toList_append, List.append_assoc,
    holdsStyleEnd_append (by decide), hend, holdsStyleEnd_append_cons (by decide),
    or_iff_left hrest]

theorem holdsStyleEnd_between {front back : String} (hfront : '<' ∉ front.toList)
    (hback : '<' ∉ back.toList) (color : String) (rest : List Char) :
    HoldsStyleEnd ((front ++ color ++ ";\n" ++ back).toList ++ rest) ↔
      HoldsStyleEnd color.toList ∨ HoldsStyleEnd rest := by
  have hend : ";\n".toList = [';', '\n'] := by decide
  have hback : '<' ∉ '\n' :: back.toList := by simp [hback]
  rw [String.toList_append, String.toList_append, String.toList_append, hend, List.append_assoc,
    List.append_assoc, List.append_assoc, holdsStyleEnd_append hfront]
  simp only [List.cons_append, List.nil_append]
  rw [holdsStyleEnd_append_cons (by decide), ← List.cons_append, holdsStyleEnd_append hback]

theorem holdsStyleEnd_styleRule {name : String} (hname : '<' ∉ name.toList) (color : String)
    (rest : List Char) :
    HoldsStyleEnd ((Settings.styleRule name color).toList ++ rest) ↔
      HoldsStyleEnd color.toList ∨ HoldsStyleEnd rest := by
  refine holdsStyleEnd_between ?_ (by decide) color rest
  simp only [String.toList_append, List.mem_append, not_or]
  exact ⟨⟨⟨⟨⟨⟨by decide, hname⟩, by decide⟩, by decide⟩, by decide⟩, by decide⟩, by decide⟩

theorem holdsStyleEnd_stylesheet (settings : Settings) :
    HoldsStyleEnd (settings.stylesheet ++ "        ").toList ↔
      HoldsStyleEnd settings.frontColor.toList ∨ HoldsStyleEnd settings.backColor.toList := by
  have hrest : ¬ HoldsStyleEnd "        ".toList := not_holdsStyleEnd (by decide)
  rw [Settings.stylesheet, String.toList_append, String.toList_append, String.toList_append,
    String.toList_append, List.append_assoc, List.append_assoc, List.append_assoc,
    holdsStyleEnd_append (by decide), holdsStyleEnd_styleRule (by decide),
    holdsStyleEnd_styleRule (by decide), holdsStyleEnd_styleRule (by decide), or_iff_left hrest,
    ← or_assoc, or_self]

/-! ### The tags of a page -/

namespace Builder

variable {b : Builder} {mode : Mode} {id : Nat}

theorem Open.treat_endTag_head (h : b.Open .inHead id) :
    b.treat (.endTag "head") = (b.pop.setMode .afterHead).done := by
  refine h.treat_eq ?_ nofun nofun nofun
  simp [step, h.mode_eq, inHead, done]

/-- Opens the body in an element. -/
def openBody (b : Builder) (id : Nat) : Builder :=
  { b with
    tree := b.tree.add id "body"
    stack := b.tree.elements.size :: b.stack
    framesetOk := false
    mode := .inBody }

theorem Open.openBody (h : b.Open mode id) : (b.openBody id).Open .inBody b.tree.elements.size where
  mode_eq := rfl
  head?_stack := rfl
  html := Tree.isHtml_add _ _ _
  formatting_eq := h.formatting_eq
  fostering_eq := h.fostering_eq
  skipNewline_eq := h.skipNewline_eq

theorem Open.treat_body (h : b.Open .afterHead id) :
    b.treat (.startTag ⟨"body", [], false⟩) = (b.openBody id).done := by
  refine h.treat_eq ?_ nofun nofun nofun
  simp [step, h.mode_eq, afterHead, h.insert_eq, setFramesetOk, setMode, done, Builder.openBody]

theorem Open.treat_endTag_body (h : b.Open .inBody id) (hscope : b.inDefaultScope "body" = true) :
    b.treat (.endTag "body") = (b.setMode .afterBody).done := by
  refine h.treat_eq ?_ nofun nofun nofun
  simp [step, h.mode_eq, inBody.eq_def, endInBody, hscope, done]

theorem Open.treat_endTag_html (h : b.Open .afterBody id) :
    b.treat (.endTag "html") = (b.setMode .afterAfterBody).done := by
  refine h.treat_eq ?_ nofun nofun nofun
  simp [step, h.mode_eq, afterBody, done]

end Builder

/-! ### The pieces of a page -/

/-- A line end and the spaces behind it, as they stand between the tags of every page. -/
def indent (n : Nat) : List Char := '\n' :: List.replicate n ' '

theorem forall_mem_indent {p : Char → Prop} (hfeed : p '\n') (hspace : p ' ') (n : Nat) :
    ∀ c ∈ indent n, p c := by
  intro c hc
  rw [indent, List.mem_cons, List.mem_replicate] at hc
  rcases hc with rfl | ⟨-, rfl⟩
  · exact hfeed
  · exact hspace

namespace Builder

variable {b : Builder} {mode : Mode} {id : Nat}

/-- Puts the two style elements of a page into its head. -/
def addStyles (b : Builder) (id : Nat) (s t : List Char) : Builder :=
  ((((b.put id (indent 8)).addStyle id s).put id (indent 8)).addStyle id t).put id (indent 4)

theorem Open.addStyles (h : b.Open mode id) (s t : List Char) :
    (b.addStyles id s t).Open mode id :=
  ((((h.put _).addStyle s).put _).addStyle t).put _

/-- Goes from the head of a page into its body. -/
def headToBody (b : Builder) (root : Nat) : Builder :=
  ((b.pop.setMode .afterHead).put root (indent 4)).openBody root

/-- Goes from the body of a page to its end. What stands behind the body goes into it. -/
def bodyToEnd (b : Builder) (id : Nat) : Builder :=
  (((b.setMode .afterBody).put id (indent 0)).setMode .afterAfterBody).put id (indent 0)

theorem Open.setMode (h : b.Open mode id) (mode' : Mode) : (b.setMode mode').Open mode' id :=
  { h with mode_eq := rfl }

theorem Open.bodyToEnd (h : b.Open mode id) : (b.bodyToEnd id).Open .afterAfterBody id :=
  (((h.setMode .afterBody).put _).setMode .afterAfterBody).put _

theorem tree_bodyToEnd (b : Builder) (id : Nat) :
    (b.bodyToEnd id).tree = b.tree.putText id ['\n', '\n'] := by
  change (b.tree.putText id ['\n']).putText id ['\n'] = _
  rw [Tree.putText_putText, List.singleton_append]

end Builder

section Pieces

variable {r : Reader} {mode : Mode} {id : Nat}

theorem reads_indent (h : r.builder.Open mode id) (hlexer : r.lexer.state = .data)
    (hmode : ['\n', ' '].all mode.admits = true) (n : Nat) :
    Reads r (indent n) { r with builder := r.builder.put id (indent n) } := by
  refine reads_text h hlexer (forall_mem_indent ?_ ?_ n) <;> simp_all

theorem reads_indent_style (h : r.builder.Open .inHead id) (hlexer : r.lexer.state = .data)
    (n : Nat) {s : List Char} (hs : ¬ HoldsStyleEnd s) :
    Reads r (indent n ++ ("<style>".toList ++ (s ++ "</style>".toList)))
      { r with
        lexer := ⟨.data, {}, "style"⟩
        builder := (r.builder.put id (indent n)).addStyle id (s.map replaceNull) } :=
  .append (reads_indent h hlexer rfl n)
    (reads_style (r := ⟨_, _, _⟩) (h.put _) hlexer hs)

theorem reads_styles (h : r.builder.Open .inHead id) (hlexer : r.lexer.state = .data)
    {s t : List Char} (hs : ¬ HoldsStyleEnd s) (ht : ¬ HoldsStyleEnd t) :
    Reads r
      ((indent 8 ++ ("<style>".toList ++ (s ++ "</style>".toList))) ++
        ((indent 8 ++ ("<style>".toList ++ (t ++ "</style>".toList))) ++ indent 4))
      { r with
        lexer := ⟨.data, {}, "style"⟩
        builder := r.builder.addStyles id (s.map replaceNull) (t.map replaceNull) } := by
  have hfirst := (h.put (indent 8)).addStyle (s.map replaceNull)
  have hsecond := (hfirst.put (indent 8)).addStyle (t.map replaceNull)
  refine .append (reads_indent_style h hlexer 8 hs) ?_
  refine .append (reads_indent_style (r := ⟨_, _, _⟩) hfirst rfl 8 ht) ?_
  exact reads_indent (r := ⟨_, _, _⟩) hsecond rfl rfl 4

theorem reads_headToBody (h : r.builder.Open .inHead id) (hlexer : r.lexer.state = .data)
    {root : Nat} (hroot : (r.builder.pop.setMode .afterHead).Open .afterHead root) :
    Reads r
      (('<' :: '/' :: "head".toList ++ ['>']) ++ (indent 4 ++ ('<' :: "body".toList ++ ['>'])))
      { r with lexer := ⟨.data, {}, "body"⟩, builder := r.builder.headToBody root } := by
  have hheadName : IsTagName "head" := by decide
  have hbodyName : IsTagName "body" := by decide
  have hbody := reads_startTag (r := { r with
    lexer := ⟨.data, {}, r.lexer.lastStart⟩
    builder := (r.builder.pop.setMode .afterHead).put root (indent 4) }) rfl hbodyName
  rw [Reader.treat_eq (hroot.put (indent 4)).treat_body] at hbody
  refine .append (reads_endTag hlexer hheadName h.treat_endTag_head) ?_
  exact .append (reads_indent hroot rfl rfl 4) hbody

theorem reads_bodyToEnd (h : r.builder.Open .inBody id) (hlexer : r.lexer.state = .data)
    (hscope : r.builder.inDefaultScope "body" = true) :
    Reads r
      (('<' :: '/' :: "body".toList ++ ['>']) ++
        (indent 0 ++ (('<' :: '/' :: "html".toList ++ ['>']) ++ indent 0)))
      { r with
        lexer := ⟨.data, {}, r.lexer.lastStart⟩
        builder := r.builder.bodyToEnd id } := by
  have hbodyName : IsTagName "body" := by decide
  have hhtmlName : IsTagName "html" := by decide
  have hafter := h.setMode .afterBody
  have hrest := hafter.put (indent 0)
  have hlast := hrest.setMode .afterAfterBody
  refine .append (reads_endTag hlexer hbodyName (h.treat_endTag_body hscope)) ?_
  refine .append (reads_indent (r := ⟨_, _, _⟩) hafter rfl rfl 0) ?_
  refine .append (reads_endTag (r := ⟨_, _, _⟩) rfl hhtmlName hrest.treat_endTag_html) ?_
  exact reads_indent (r := ⟨_, _, _⟩) hlast rfl rfl 0

end Pieces

/-! ### The document of a page -/

/-- The builder in the empty head of a page. -/
def Builder.pageHead : Builder :=
  { start with
    tree := ⟨#[⟨.html, "html", [], none, [.element 1]⟩, ⟨.html, "head", [], some 0, []⟩]⟩
    mode := .inHead
    stack := [1, 0]
    head := some 1 }

theorem Builder.open_pageHead : pageHead.Open .inHead 1 where
  mode_eq := rfl
  head?_stack := rfl
  html := ⟨_, rfl, rfl⟩
  formatting_eq := rfl
  fostering_eq := rfl
  skipNewline_eq := rfl

/-- The front of a page is the same in every page, so the reader can be run on it. -/
theorem reads_pageFront : Reads .start "\n<!DOCTYPE html>\n    <head>".toList
    { Reader.start with lexer := ⟨.data, {}, "head"⟩, builder := .pageHead } := by
  have hfront : "\n<!DOCTYPE html>\n    <head>".toList =
      ['\n', '<', '!', 'D', 'O', 'C', 'T', 'Y', 'P', 'E', ' ', 'h', 't', 'm', 'l', '>', '\n', ' ',
        ' ', ' ', ' ', '<', 'h', 'e', 'a', 'd', '>'] := by decide
  rw [hfront]
  repeat refine .cons rfl ?_
  exact .nil _

/-- The content of the head of a page, newest first. -/
def headContent : List Node :=
  (indent 4).reverse.map .char ++ .element 3 :: (indent 8).reverse.map .char ++
    .element 2 :: (indent 8).reverse.map .char

/-- The builder at the end of the head of a page whose style elements hold `s` and `t`. -/
def Builder.pageStyles (s t : List Char) : Builder :=
  { pageHead with
    tree := ⟨#[⟨.html, "html", [], none, [.element 1]⟩,
      ⟨.html, "head", [], some 0, headContent⟩,
      ⟨.html, "style", [], some 1, (withoutNull s).reverse.map .char ++ []⟩,
      ⟨.html, "style", [], some 1, (withoutNull t).reverse.map .char ++ []⟩]⟩
    returnMode := .inHead }

theorem Builder.addStyles_pageHead (s t : List Char) :
    pageHead.addStyles 1 s t = pageStyles s t := by
  have hfirst : ((pageHead.put 1 (indent 8)).addStyle 1 s).put 1 (indent 8) =
      { pageHead with
        tree := ⟨#[⟨.html, "html", [], none, [.element 1]⟩,
          ⟨.html, "head", [], some 0,
            (indent 8).reverse.map .char ++ .element 2 :: (indent 8).reverse.map .char⟩,
          ⟨.html, "style", [], some 1, (withoutNull s).reverse.map .char ++ []⟩]⟩
        returnMode := .inHead } := rfl
  rw [addStyles, hfirst]
  rfl

theorem reads_pageHead {s t : List Char} (hs : ¬ HoldsStyleEnd s) (ht : ¬ HoldsStyleEnd t) :
    Reads { Reader.start with lexer := ⟨.data, {}, "head"⟩, builder := .pageHead }
      ((indent 8 ++ ("<style>".toList ++ (s ++ "</style>".toList))) ++
        ((indent 8 ++ ("<style>".toList ++ (t ++ "</style>".toList))) ++ indent 4))
      { Reader.start with
        lexer := ⟨.data, {}, "style"⟩
        builder := .pageStyles (s.map replaceNull) (t.map replaceNull) } := by
  rw [← Builder.addStyles_pageHead]
  exact reads_styles Builder.open_pageHead rfl hs ht

theorem Builder.open_pageStyles (s t : List Char) : (pageStyles s t).Open .inHead 1 :=
  addStyles_pageHead s t ▸ open_pageHead.addStyles s t

theorem Builder.open_afterHead (s t : List Char) :
    ((pageStyles s t).pop.setMode .afterHead).Open .afterHead 0 where
  mode_eq := rfl
  head?_stack := rfl
  html := ⟨_, rfl, rfl⟩
  formatting_eq := rfl
  fostering_eq := rfl
  skipNewline_eq := rfl

/-- The builder in the empty body of a page whose style elements hold `s` and `t`. -/
def Builder.pageBody (s t : List Char) : Builder :=
  { pageStyles s t with
    tree := ⟨#[⟨.html, "html", [], none,
        .element 4 :: (indent 4).reverse.map .char ++ [.element 1]⟩,
      ⟨.html, "head", [], some 0, headContent⟩,
      ⟨.html, "style", [], some 1, (withoutNull s).reverse.map .char ++ []⟩,
      ⟨.html, "style", [], some 1, (withoutNull t).reverse.map .char ++ []⟩,
      ⟨.html, "body", [], some 0, []⟩]⟩
    mode := .inBody
    stack := [4, 0]
    framesetOk := false }

theorem Builder.headToBody_pageStyles (s t : List Char) :
    (pageStyles s t).headToBody 0 = pageBody s t :=
  rfl

theorem Builder.open_pageBody (s t : List Char) : (pageBody s t).Open .inBody 4 :=
  headToBody_pageStyles s t ▸ ((open_afterHead s t).put (indent 4)).openBody

theorem reads_pageBody (s t : List Char) :
    Reads { Reader.start with lexer := ⟨.data, {}, "style"⟩, builder := .pageStyles s t }
      (('<' :: '/' :: "head".toList ++ ['>']) ++ (indent 4 ++ ('<' :: "body".toList ++ ['>'])))
      { Reader.start with lexer := ⟨.data, {}, "body"⟩, builder := .pageBody s t } := by
  rw [← Builder.headToBody_pageStyles]
  exact reads_headToBody (Builder.open_pageStyles s t) rfl (Builder.open_afterHead s t)

/-- The builder at the end of a page with a body, whose style elements hold `s` and `t`. -/
def Builder.pageEnd (s t body : List Char) : Builder := ((pageBody s t).put 4 body).bodyToEnd 4

theorem reads_pageEnd (s t : List Char) {body : List Char}
    (hbody : ∀ c ∈ body, c ≠ '<' ∧ c ≠ '&') :
    Reads { Reader.start with lexer := ⟨.data, {}, "body"⟩, builder := .pageBody s t }
      (body ++ (('<' :: '/' :: "body".toList ++ ['>']) ++
        (indent 0 ++ (('<' :: '/' :: "html".toList ++ ['>']) ++ indent 0))))
      { Reader.start with
        lexer := ⟨.data, {}, "body"⟩
        builder := .pageEnd s t body } := by
  have hempty := Builder.open_pageBody s t
  have hscope : ((Builder.pageBody s t).put 4 body).inDefaultScope "body" = true := rfl
  refine .append (reads_text (r := ⟨_, _, _⟩) hempty rfl fun c hc => ⟨rfl, hbody c hc⟩) ?_
  exact reads_bodyToEnd (r := ⟨_, _, _⟩) (hempty.put body) rfl hscope

theorem Builder.treat_stop_pageEnd (s t body : List Char) :
    (pageEnd s t body).treat .stop = (pageEnd s t body).done :=
  ((open_pageBody s t).put body).bodyToEnd.treat_stop rfl (by simp)

/-- The text of a page, whose style elements show nothing. -/
theorem text_pageBody (s t cs : List Char) :
    ((Builder.pageBody s t).tree.putText 4 cs).text 0 =
      (indent 8 ++ indent 8 ++ indent 4 ++ indent 4) ++ cs := by
  have htree : (Builder.pageBody s t).tree.putText 4 cs =
      ⟨#[⟨.html, "html", [], none, .element 4 :: (indent 4).reverse.map .char ++ [.element 1]⟩,
        ⟨.html, "head", [], some 0, headContent⟩,
        ⟨.html, "style", [], some 1, (withoutNull s).reverse.map .char ++ []⟩,
        ⟨.html, "style", [], some 1, (withoutNull t).reverse.map .char ++ []⟩,
        ⟨.html, "body", [], some 0, cs.reverse.map .char ++ []⟩]⟩ := rfl
  rw [htree]
  simp [Tree.text, Tree.textWithin, Tree.element?, Tree.hidden, headContent, List.flatMap_map]

theorem text_pageEnd (s t body : List Char) :
    (Builder.pageEnd s t body).tree.text 0 =
      (indent 8 ++ indent 8 ++ indent 4 ++ indent 4) ++ (withoutNull body ++ ['\n', '\n']) := by
  rw [Builder.pageEnd, Builder.tree_bodyToEnd, Builder.put, Tree.putText_putText, text_pageBody]

/-! ### The source of a page -/

/-- The source of a page up to the styles of its settings. -/
def sourceFront : List Char := "\n<!DOCTYPE html>\n    <head>\n        <style>".toList

/-- The source of a page between its styles. -/
def sourceMiddle : List Char := "</style>\n        <style>".toList

/-- The source of a page between its styles and its body. -/
def sourceHeadEnd : List Char := "</style>\n    </head>\n    <body>".toList

/-- The source of a page behind its body. -/
def sourceEnd : List Char := "</body>\n</html>\n".toList

/-- The source of a page around the texts of its style elements and its body. -/
def pageSource (styles css body : List Char) : List Char :=
  sourceFront ++ (styles ++ (sourceMiddle ++ (css ++ (sourceHeadEnd ++ (body ++ sourceEnd)))))

/-- The line ends of a page are those of the texts that it is made of. -/
theorem lineEnds_pageSource (styles css body : List Char) :
    lineEnds (pageSource styles css body) =
      pageSource (lineEnds styles) (lineEnds css) (lineEnds body) := by
  have hend : lineEnds (body ++ sourceEnd) = lineEnds body ++ sourceEnd := by
    simpa using lineEnds_append_append body (q := sourceEnd) (by decide) (by decide) []
  rw [pageSource, lineEnds_append_of_notMem (by decide),
    lineEnds_append_append styles (by decide) (by decide),
    lineEnds_append_append css (by decide) (by decide), hend, pageSource]

/-- A page is read from its front to its end. -/
theorem reads_pageSource {styles css body : List Char} (hstyles : ¬ HoldsStyleEnd styles)
    (hcss : ¬ HoldsStyleEnd css) (hbody : ∀ c ∈ body, c ≠ '<' ∧ c ≠ '&') :
    Reads .start (pageSource styles css body)
      { Reader.start with
        lexer := ⟨.data, {}, "body"⟩
        builder := .pageEnd (styles.map replaceNull) (css.map replaceNull) body } := by
  have hreads := reads_pageFront.append ((reads_pageHead hstyles hcss).append
    ((reads_pageBody _ _).append (reads_pageEnd _ _ hbody)))
  have hfront : sourceFront =
      "\n<!DOCTYPE html>\n    <head>".toList ++ (indent 8 ++ "<style>".toList) := by decide
  have hmiddle : sourceMiddle = "</style>".toList ++ (indent 8 ++ "<style>".toList) := by decide
  have hhead : sourceHeadEnd = "</style>".toList ++ (indent 4 ++
      (('<' :: '/' :: "head".toList ++ ['>']) ++
        (indent 4 ++ ('<' :: "body".toList ++ ['>'])))) := by decide
  have hlast : sourceEnd = ('<' :: '/' :: "body".toList ++ ['>']) ++ (indent 0 ++
      (('<' :: '/' :: "html".toList ++ ['>']) ++ indent 0)) := by decide
  rw [pageSource, hfront, hmiddle, hhead, hlast]
  simpa only [List.append_assoc] using hreads

end Html

open Html

theorem toList_page (settings : Settings) (css body : String) :
    (page settings css body).toList =
      pageSource (settings.stylesheet ++ "        ").toList
        ("\n            " ++ css ++ "\n        ").toList
        ("\n        " ++ body ++ "\n    ").toList := by
  have hstyles : "        </style>\n        <style>\n            ".toList =
      "        ".toList ++ (sourceMiddle ++ "\n            ".toList) := by decide
  have hbody : "\n        </style>\n    </head>\n    <body>\n        ".toList =
      "\n        ".toList ++ (sourceHeadEnd ++ "\n        ".toList) := by decide
  have hend : "\n    </body>\n</html>\n".toList = "\n    ".toList ++ sourceEnd := by decide
  unfold page pageSource
  generalize settings.stylesheet = styles
  simp only [String.toList_append, List.append_assoc, hstyles, hbody, hend]
  rfl

/-- The side of a page as its body holds it has the characters of the side, and white space. -/
theorem forall_mem_lineEnds_side {p : Char → Prop} (hfeed : p '\n') (hspace : p ' ') {body : String}
    (hbody : ∀ c ∈ body.toList, p c) :
    ∀ c ∈ lineEnds ("\n        " ++ body ++ "\n    ").toList, p c := by
  have hfront : "\n        ".toList = indent 8 := by decide
  have hend : "\n    ".toList = indent 4 := by decide
  refine forall_mem_lineEnds hfeed fun c hc => ?_
  rw [String.toList_append, String.toList_append, List.mem_append, List.mem_append] at hc
  rcases hc with (hc | hc) | hc
  · exact forall_mem_indent hfeed hspace 8 c (hfront ▸ hc)
  · exact hbody c hc
  · exact forall_mem_indent hfeed hspace 4 c (hend ▸ hc)

/-- What a page shows is white space around the text of its side: neither style element
contributes to it, whatever the styles hold but the end tag of a style element. -/
theorem documentText_page {settings : Settings} {css body : String}
    (hfront : ¬ HoldsStyleEnd settings.frontColor.toList)
    (hback : ¬ HoldsStyleEnd settings.backColor.toList) (hcss : ¬ HoldsStyleEnd css.toList)
    (hbody : ∀ c ∈ body.toList, c ≠ '<' ∧ c ≠ '&') :
    documentText (page settings css body).toList =
      (indent 8 ++ indent 8 ++ indent 4 ++ indent 4) ++
        (withoutNull (lineEnds ("\n        " ++ body ++ "\n    ").toList) ++ ['\n', '\n']) := by
  have hstyles : ¬ HoldsStyleEnd (lineEnds (settings.stylesheet ++ "        ").toList) := fun h =>
    ((holdsStyleEnd_stylesheet settings).1 (holdsStyleEnd_of_lineEnds h)).elim hfront hback
  have htemplate : ¬ HoldsStyleEnd (lineEnds ("\n            " ++ css ++ "\n        ").toList) :=
    fun h => hcss ((holdsStyleEnd_template css).1 (holdsStyleEnd_of_lineEnds h))
  have htext := forall_mem_lineEnds_side (p := fun c => c ≠ '<' ∧ c ≠ '&') (by decide) (by decide)
    hbody
  have hreads := reads_pageSource hstyles htemplate htext
  have hmark :
      dropByteOrderMark (page settings css body).toList = (page settings css body).toList := by
    rw [toList_page]
    rfl
  rw [← lineEnds_pageSource, ← toList_page, ← hmark] at hreads
  rw [documentText, hreads.readDocument_eq,
    Reader.builder_finish rfl (Builder.treat_stop_pageEnd _ _ _), text_pageEnd]

end Flashcard
