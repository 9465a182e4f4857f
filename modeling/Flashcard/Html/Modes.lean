import Flashcard.Html.Adoption

/-!
# Insertion modes

What a token does to the tree depends on the mode that the builder is in. Each mode is a function
from a builder and a token to the builder after it and what is left to do with the token.
`Builder.step` chooses the function of a mode.

A mode that treats some tokens as another mode does calls that mode's function. The start tag of the
root adds nothing to an open root, so every mode passes it over.
-/

namespace Flashcard.Html

namespace Builder

def headTags : List String :=
  ["base", "basefont", "bgsound", "link", "meta", "noframes", "script", "style", "template",
   "title"]

def initial (b : Builder) (t : Token) : Builder × Verdict :=
  match t with
  | .comment => b.done
  | .char c => if isHtmlSpace c then b.done else b.again .beforeHtml
  | _ => b.again .beforeHtml

def beforeHtml (b : Builder) (t : Token) : Builder × Verdict :=
  let openRoot := b.insertRoot.again .beforeHead
  match t with
  | .comment => b.done
  | .char c => if isHtmlSpace c then b.done else openRoot
  | .startTag tag =>
    if tag.name == "html" then (b.insertRoot.setMode .beforeHead).done else openRoot
  | .endTag name => if ["head", "body", "html", "br"].contains name then openRoot else b.done
  | _ => openRoot

def openHead (b : Builder) (tag : Tag) : Builder :=
  let b := b.insert tag
  { b with head := b.stack.head?, mode := .inHead }

def beforeHead (b : Builder) (t : Token) : Builder × Verdict :=
  let leaveOut := (b.openHead ⟨"head", [], false⟩).again .inHead
  match t with
  | .comment => b.done
  | .char c => if isHtmlSpace c then b.done else leaveOut
  | .startTag tag =>
    if tag.name == "html" then b.done
    else if tag.name == "head" then (b.openHead tag).done
    else leaveOut
  | .endTag name => if ["head", "body", "html", "br"].contains name then leaveOut else b.done
  | _ => leaveOut

/-- Opens a template, whose content has modes and formatting of its own. -/
def openTemplate (b : Builder) (tag : Tag) : Builder :=
  let b := (b.insert tag).pushMarker.setFramesetOk false
  { b with mode := .inTemplate, templateModes := .inTemplate :: b.templateModes }

/-- Leaves the innermost template. -/
def leaveTemplate (b : Builder) : Builder :=
  let b := (b.popThroughNamed "template").clearToMarker
  let b := { b with templateModes := b.templateModes.tail }
  b.setMode b.resetMode

def closeTemplate (b : Builder) : Builder :=
  if b.hasOpen "template" then (b.popWhile (b.oneOf templateImpliedEnds)).leaveTemplate else b

def inHead (b : Builder) (t : Token) : Builder × Verdict :=
  let leave := b.pop.again .afterHead
  match t with
  | .comment => b.done
  | .char c => if isHtmlSpace c then (b.appendChar c).done else leave
  | .startTag tag =>
    if tag.name == "html" || tag.name == "head" then b.done
    else if ["base", "basefont", "bgsound", "link", "meta"].contains tag.name then
      (b.insertLeaf tag).done
    else if tag.name == "title" then b.readRaw tag .escapable
    else if ["noframes", "style", "noscript"].contains tag.name then b.readRaw tag .plain
    else if tag.name == "script" then b.readRaw tag .script
    else if tag.name == "template" then (b.openTemplate tag).done
    else leave
  | .endTag name =>
    if name == "head" then (b.pop.setMode .afterHead).done
    else if ["body", "html", "br"].contains name then leave
    else if name == "template" then b.closeTemplate.done
    else b.done
  | _ => leave

def afterHead (b : Builder) (t : Token) : Builder × Verdict :=
  let leaveOut := (b.insertNamed "body").again .inBody
  match t with
  | .comment => b.done
  | .char c => if isHtmlSpace c then (b.appendChar c).done else leaveOut
  | .startTag tag =>
    if tag.name == "html" || tag.name == "head" then b.done
    else if tag.name == "body" then (((b.insert tag).setFramesetOk false).setMode .inBody).done
    else if tag.name == "frameset" then ((b.insert tag).setMode .inFrameset).done
    else if headTags.contains tag.name then
      match b.head with
      | some head =>
        let (b, verdict) := ({ b with stack := head :: b.stack } : Builder).inHead t
        (b.removeOpen head, verdict)
      | none => b.done
    else leaveOut
  | .endTag name =>
    if name == "template" then b.inHead t
    else if ["body", "html", "br"].contains name then leaveOut
    else b.done
  | _ => leaveOut

/-- What the end of the document does in a template. -/
def stopInTemplate (b : Builder) : Builder × Verdict :=
  if b.hasOpen "template" then (b.leaveTemplate, .again) else b.done

/-! ## The body -/

def blocks : List String :=
  ["address", "article", "aside", "blockquote", "center", "details", "dialog", "dir", "div", "dl",
   "fieldset", "figcaption", "figure", "footer", "header", "hgroup", "main", "menu", "nav", "ol",
   "p", "section", "summary", "ul"]

def closableBlocks : List String :=
  (blocks.filter (· != "p")) ++ ["button", "listing", "pre"]

def formattings : List String :=
  ["a", "b", "big", "code", "em", "font", "i", "nobr", "s", "small", "strike", "strong", "tt", "u"]

/-- The tags that only a table may have. -/
def tableParts : List String :=
  ["caption", "col", "colgroup", "frame", "head", "tbody", "td", "tfoot", "th", "thead", "tr"]

def closeBlock (b : Builder) (name : String) : Builder :=
  if b.inDefaultScope name then b.closeImplied.popThroughNamed name else b

def openBlock (b : Builder) (tag : Tag) : Builder := b.closeOpenParagraph.insert tag

/-- The names of the item that a new list item or definition closes. -/
def itemNames (name : String) : List String := if name == "li" then ["li"] else ["dd", "dt"]

/-- Closes the open item that a new one ends. -/
def closeItem (b : Builder) (name : String) : Builder :=
  search b.stack
where
  search : List Nat → Builder
    | [] => b
    | id :: below =>
      match b.element? id with
      | none => b
      | some e =>
        if e.space == .html && (itemNames name).contains e.name then
          (b.closeImpliedExcept e.name).popThroughNamed e.name
        else if b.oneOf special id && !(["address", "div", "p"].contains e.name) then b
        else search below

def openItem (b : Builder) (tag : Tag) : Builder :=
  (((b.setFramesetOk false).closeItem tag.name).closeOpenParagraph).insert tag

def openForm (b : Builder) (tag : Tag) : Builder :=
  if b.form.isSome && !b.hasOpen "template" then b
  else
    let b := b.closeOpenParagraph.insert tag
    if b.hasOpen "template" then b else { b with form := b.stack.head? }

def closeForm (b : Builder) : Builder :=
  if b.hasOpen "template" then
    if b.inDefaultScope "form" then b.closeImplied.popThroughNamed "form" else b
  else
    match b.form with
    | none => b
    | some form =>
      let b := { b with form := none }
      if b.inScope (boundary []) (· == form) then b.closeImplied.removeOpen form else b

/-- A new link ends an open one, which need not be the innermost element. -/
def closeLink (b : Builder) : Builder :=
  match b.recentFormatting.find? fun (id, _) => b.named "a" id with
  | none => b
  | some (id, _) => ((b.adopt "a").removeFormatting id).removeOpen id

def openFormatting (b : Builder) (tag : Tag) : Builder :=
  if tag.name == "a" then b.closeLink.reopenFormatting.insertFormatting tag
  else if tag.name == "nobr" then
    let b := b.reopenFormatting
    let b := if b.inDefaultScope "nobr" then (b.adopt "nobr").reopenFormatting else b
    b.insertFormatting tag
  else b.reopenFormatting.insertFormatting tag

def openButton (b : Builder) (tag : Tag) : Builder :=
  let b := if b.inDefaultScope "button" then b.closeImplied.popThroughNamed "button" else b
  (b.reopenFormatting.insert tag).setFramesetOk false

def isHiddenInput (tag : Tag) : Bool :=
  match tag.attribute? "type" with
  | some type => type.toLower == "hidden"
  | none => false

/-- Puts in an element without content. -/
def insertVoid (b : Builder) (tag : Tag) : Builder :=
  let b := b.reopenFormatting.insertLeaf tag
  if tag.name == "input" && isHiddenInput tag then b else b.setFramesetOk false

def openSelect (b : Builder) (tag : Tag) : Builder :=
  let inTable := [Mode.inTable, .inCaption, .inTableBody, .inRow, .inCell].contains b.mode
  ((b.reopenFormatting.insert tag).setFramesetOk false).setMode
    (if inTable then .inSelectInTable else .inSelect)

def openOption (b : Builder) (tag : Tag) : Builder :=
  (if b.currentNamed "option" then b.pop else b).reopenFormatting.insert tag

def openRuby (b : Builder) (tag : Tag) : Builder :=
  let b :=
    if !b.inDefaultScope "ruby" then b
    else if tag.name == "rb" || tag.name == "rtc" then b.closeImplied
    else b.closeImpliedExcept "rtc"
  b.insert tag

/-- Opens the root of foreign content. -/
def openForeign (b : Builder) (space : Space) (tag : Tag) : Builder :=
  let b := b.reopenFormatting
  (if tag.selfClosing then b.insertLeafIn space tag else b.insertIn space tag).1

/-- A frameset takes the place of a body that shows nothing yet. -/
def openFrameset (b : Builder) (tag : Tag) : Builder :=
  match b.framesetOk, b.body? with
  | true, some body =>
    let b := { b with tree := b.tree.detach body, stack := b.stack.drop (b.stack.length - 1) }
    (b.insert tag).setMode .inFrameset
  | _, _ => b

def startInBody (b : Builder) (tag : Tag) : Builder × Verdict :=
  let name := tag.name
  if name == "html" then b.done
  else if headTags.contains name then b.inHead (.startTag tag)
  else if name == "body" then
    if b.body?.isSome && !b.hasOpen "template" then (b.setFramesetOk false).done else b.done
  else if name == "frameset" then (b.openFrameset tag).done
  else if blocks.contains name then (b.openBlock tag).done
  else if headings.contains name then
    let b := b.closeOpenParagraph
    ((if b.currentOneOf headings then b.pop else b).insert tag).done
  else if name == "pre" || name == "listing" then
    ({ (b.openBlock tag).setFramesetOk false with skipNewline := true } : Builder).done
  else if name == "form" then (b.openForm tag).done
  else if ["li", "dd", "dt"].contains name then (b.openItem tag).done
  else if name == "plaintext" then (b.openBlock tag, .rest)
  else if name == "button" then (b.openButton tag).done
  else if formattings.contains name then (b.openFormatting tag).done
  else if ["applet", "marquee", "object"].contains name then
    ((b.reopenFormatting.insert tag).pushMarker.setFramesetOk false).done
  else if name == "table" then
    (((b.closeOpenParagraph.insert tag).setFramesetOk false).setMode .inTable).done
  else if ["area", "br", "embed", "img", "keygen", "wbr", "input"].contains name then
    (b.insertVoid tag).done
  else if ["param", "source", "track"].contains name then (b.insertLeaf tag).done
  else if name == "hr" then ((b.closeOpenParagraph.insertLeaf tag).setFramesetOk false).done
  else if name == "image" then (b.insertVoid { tag with name := "img" }).done
  else if name == "textarea" then
    ({ b.setFramesetOk false with skipNewline := true } : Builder).readRaw tag .escapable
  else if name == "xmp" then
    (b.closeOpenParagraph.reopenFormatting.setFramesetOk false).readRaw tag .plain
  else if name == "iframe" then (b.setFramesetOk false).readRaw tag .plain
  else if name == "noembed" || name == "noscript" then b.readRaw tag .plain
  else if name == "select" then (b.openSelect tag).done
  else if name == "option" || name == "optgroup" then (b.openOption tag).done
  else if ["rb", "rtc", "rp", "rt"].contains name then (b.openRuby tag).done
  else if name == "math" then (b.openForeign .math tag).done
  else if name == "svg" then (b.openForeign .svg tag).done
  else if tableParts.contains name then b.done
  else (b.reopenFormatting.insert tag).done

def endInBody (b : Builder) (name : String) : Builder × Verdict :=
  if name == "template" then b.closeTemplate.done
  else if name == "body" then
    (if b.inDefaultScope "body" then b.setMode .afterBody else b).done
  else if name == "html" then
    if b.inDefaultScope "body" then b.again .afterBody else b.done
  else if closableBlocks.contains name then (b.closeBlock name).done
  else if name == "form" then b.closeForm.done
  else if name == "p" then
    (if b.inButtonScope "p" then b.closeParagraph else (b.insertNamed "p").closeParagraph).done
  else if name == "li" then
    (if b.inListScope name then (b.closeImpliedExcept name).popThroughNamed name else b).done
  else if name == "dd" || name == "dt" then
    (if b.inDefaultScope name then (b.closeImpliedExcept name).popThroughNamed name else b).done
  else if headings.contains name then
    (if b.inScope (boundary []) (b.oneOf headings) then
      let b := b.closeImplied
      b.popThrough (b.oneOf headings)
    else b).done
  else if formattings.contains name then (b.adopt name).done
  else if ["applet", "marquee", "object"].contains name then
    (if b.inDefaultScope name then (b.closeImplied.popThroughNamed name).clearToMarker else b).done
  else if name == "br" then (b.insertVoid ⟨"br", [], false⟩).done
  else (b.closeOrdinary name).done

def inBody (b : Builder) (t : Token) : Builder × Verdict :=
  match t with
  | .char c =>
    if c == '\x00' then b.done
    else
      let b := b.reopenFormatting
      ((if isHtmlSpace c then b else b.setFramesetOk false).appendChar c).done
  | .startTag tag => b.startInBody tag
  | .endTag name => b.endInBody name
  | .stop => if b.templateModes.isEmpty then b.done else b.stopInTemplate
  | _ => b.done

/-- Inside raw text. -/
def inText (b : Builder) (t : Token) : Builder × Verdict :=
  match t with
  | .char c => (b.appendChar c).done
  | .endTag _ => (b.pop.setMode b.returnMode).done
  | .stop => b.pop.again b.returnMode
  | _ => b.done

/-! ## Tables -/

/-- Treats a token as in the body, where what it puts into a table goes before the table. -/
def inBodyFostering (b : Builder) (t : Token) : Builder × Verdict :=
  let (b, verdict) := ({ b with fostering := true } : Builder).inBody t
  ({ b with fostering := false }, verdict)

/-- Places the text that a table was found to hold. White space alone may stay. -/
def flushTableText (b : Builder) : Builder :=
  let text := b.tableText.reverse
  let b := { b with tableText := [] }
  if text.all isHtmlSpace then text.foldl appendChar b
  else text.foldl (fun b c => (b.inBodyFostering (.char c)).1) b

def inTableText (b : Builder) (t : Token) : Builder × Verdict :=
  match t with
  | .char c =>
    if c == '\x00' then b.done else ({ b with tableText := c :: b.tableText } : Builder).done
  | _ => b.flushTableText.again b.returnMode

def tableContext : List String := ["table", "template", "html"]

def tableBodyContext : List String := ["tbody", "tfoot", "thead", "template", "html"]

def rowContext : List String := ["tr", "template", "html"]

def closeTable (b : Builder) : Builder :=
  let b := b.popThroughNamed "table"
  b.setMode b.resetMode

def startInTable (b : Builder) (tag : Tag) : Builder × Verdict :=
  let name := tag.name
  let b' := b.popTo tableContext
  if name == "caption" then ((b'.pushMarker.insert tag).setMode .inCaption).done
  else if name == "colgroup" then ((b'.insert tag).setMode .inColumnGroup).done
  else if name == "col" then (b'.insertNamed "colgroup").again .inColumnGroup
  else if ["tbody", "tfoot", "thead"].contains name then ((b'.insert tag).setMode .inTableBody).done
  else if ["td", "th", "tr"].contains name then (b'.insertNamed "tbody").again .inTableBody
  else if name == "table" then
    if b.inTableScope "table" then (b.closeTable, .again) else b.done
  else if ["style", "script", "template"].contains name then b.inHead (.startTag tag)
  else if name == "input" && isHiddenInput tag then (b.insertLeaf tag).done
  else if name == "form" then
    if b.hasOpen "template" || b.form.isSome then b.done
    else
      let (b, id) := b.insertLeafIn .html tag
      ({ b with form := some id } : Builder).done
  else b.inBodyFostering (.startTag tag)

def inTable (b : Builder) (t : Token) : Builder × Verdict :=
  match t with
  | .char _ =>
    if b.currentOneOf fosterers then
      ({ b with returnMode := b.mode } : Builder).again .inTableText
    else b.inBodyFostering t
  | .startTag tag => b.startInTable tag
  | .endTag name =>
    if name == "table" then (if b.inTableScope "table" then b.closeTable else b).done
    else if ["body", "caption", "col", "colgroup", "html", "tbody", "td", "tfoot", "th", "thead",
        "tr"].contains name then b.done
    else if name == "template" then b.closeTemplate.done
    else b.inBodyFostering t
  | .stop => b.inBody t
  | _ => b.done

def inCaption (b : Builder) (t : Token) : Builder × Verdict :=
  let closed := (b.closeImplied.popThroughNamed "caption").clearToMarker
  match t with
  | .startTag tag =>
    if ["caption", "col", "colgroup", "tbody", "td", "tfoot", "th", "thead", "tr"].contains
        tag.name then
      if b.inTableScope "caption" then closed.again .inTable else b.done
    else b.inBody t
  | .endTag name =>
    if name == "caption" then
      (if b.inTableScope "caption" then closed.setMode .inTable else b).done
    else if name == "table" then
      if b.inTableScope "caption" then closed.again .inTable else b.done
    else if ["body", "col", "colgroup", "html", "tbody", "td", "tfoot", "th", "thead",
        "tr"].contains name then b.done
    else b.inBody t
  | _ => b.inBody t

def inColumnGroup (b : Builder) (t : Token) : Builder × Verdict :=
  let leave := if b.currentNamed "colgroup" then b.pop.again .inTable else b.done
  match t with
  | .comment => b.done
  | .char c => if isHtmlSpace c then (b.appendChar c).done else leave
  | .startTag tag =>
    if tag.name == "html" then b.done
    else if tag.name == "col" then (b.insertLeaf tag).done
    else if tag.name == "template" then b.inHead t
    else leave
  | .endTag name =>
    if name == "colgroup" then
      (if b.currentNamed "colgroup" then b.pop.setMode .inTable else b).done
    else if name == "col" then b.done
    else if name == "template" then b.closeTemplate.done
    else leave
  | .stop => b.inBody t
  | _ => leave

def inTableBody (b : Builder) (t : Token) : Builder × Verdict :=
  let b' := b.popTo tableBodyContext
  let leave :=
    if b.inScope tableBoundary (b.oneOf ["table", "tbody", "tfoot"]) then b'.pop.again .inTable
    else b.done
  match t with
  | .startTag tag =>
    if tag.name == "tr" then ((b'.insert tag).setMode .inRow).done
    else if tag.name == "th" || tag.name == "td" then (b'.insertNamed "tr").again .inRow
    else if ["caption", "col", "colgroup", "tbody", "tfoot", "thead"].contains tag.name then leave
    else b.inTable t
  | .endTag name =>
    if ["tbody", "tfoot", "thead"].contains name then
      (if b.inTableScope name then b'.pop.setMode .inTable else b).done
    else if name == "table" then leave
    else if ["body", "caption", "col", "colgroup", "html", "td", "th", "tr"].contains name then
      b.done
    else b.inTable t
  | _ => b.inTable t

def inRow (b : Builder) (t : Token) : Builder × Verdict :=
  let b' := b.popTo rowContext
  let leave := if b.inTableScope "tr" then b'.pop.again .inTableBody else b.done
  match t with
  | .startTag tag =>
    if tag.name == "th" || tag.name == "td" then ((b'.insert tag).setMode .inCell).pushMarker.done
    else if ["caption", "col", "colgroup", "tbody", "tfoot", "thead", "tr"].contains tag.name then
      leave
    else b.inTable t
  | .endTag name =>
    if name == "tr" then (if b.inTableScope "tr" then b'.pop.setMode .inTableBody else b).done
    else if name == "table" then leave
    else if ["tbody", "tfoot", "thead"].contains name then
      if b.inTableScope name then leave else b.done
    else if ["body", "caption", "col", "colgroup", "html", "td", "th"].contains name then b.done
    else b.inTable t
  | _ => b.inTable t

def closeCell (b : Builder) : Builder :=
  let b := b.closeImplied
  (b.popThrough (b.oneOf ["td", "th"])).clearToMarker

def inCell (b : Builder) (t : Token) : Builder × Verdict :=
  match t with
  | .startTag tag =>
    if ["caption", "col", "colgroup", "tbody", "td", "tfoot", "th", "thead", "tr"].contains
        tag.name then
      if b.inScope tableBoundary (b.oneOf ["td", "th"]) then b.closeCell.again .inRow else b.done
    else b.inBody t
  | .endTag name =>
    if name == "td" || name == "th" then
      (if b.inTableScope name then
        ((b.closeImplied.popThroughNamed name).clearToMarker).setMode .inRow
      else b).done
    else if ["body", "caption", "col", "colgroup", "html"].contains name then b.done
    else if ["table", "tbody", "tfoot", "thead", "tr"].contains name then
      if b.inTableScope name then b.closeCell.again .inRow else b.done
    else b.inBody t
  | _ => b.inBody t

/-! ## Choices, templates and what follows the body -/

def closeSelect (b : Builder) : Builder :=
  let b := b.popThroughNamed "select"
  b.setMode b.resetMode

def closeOption (b : Builder) : Builder := if b.currentNamed "option" then b.pop else b

def inSelect (b : Builder) (t : Token) : Builder × Verdict :=
  match t with
  | .char c => (if c == '\x00' then b else b.appendChar c).done
  | .startTag tag =>
    if tag.name == "option" then (b.closeOption.insert tag).done
    else if tag.name == "optgroup" then
      let b := b.closeOption
      ((if b.currentNamed "optgroup" then b.pop else b).insert tag).done
    else if tag.name == "select" then (if b.inSelectScope "select" then b.closeSelect else b).done
    else if ["input", "keygen", "textarea"].contains tag.name then
      if b.inSelectScope "select" then (b.closeSelect, .again) else b.done
    else if tag.name == "script" || tag.name == "template" then b.inHead t
    else b.done
  | .endTag name =>
    if name == "optgroup" then
      let inGroup := (b.stack.tail.head?).any (b.named "optgroup")
      let b := if inGroup then b.closeOption else b
      (if b.currentNamed "optgroup" then b.pop else b).done
    else if name == "option" then b.closeOption.done
    else if name == "select" then (if b.inSelectScope "select" then b.closeSelect else b).done
    else if name == "template" then b.closeTemplate.done
    else b.done
  | .stop => b.inBody t
  | _ => b.done

def inSelectInTable (b : Builder) (t : Token) : Builder × Verdict :=
  let parts := ["caption", "table", "tbody", "tfoot", "thead", "tr", "td", "th"]
  match t with
  | .startTag tag => if parts.contains tag.name then (b.closeSelect, .again) else b.inSelect t
  | .endTag name =>
    if parts.contains name then
      if b.inTableScope name then (b.closeSelect, .again) else b.done
    else b.inSelect t
  | _ => b.inSelect t

/-- Goes on in a template as in `mode`. -/
def asIn (b : Builder) (mode : Mode) : Builder × Verdict :=
  ({ b with templateModes := mode :: b.templateModes.tail } : Builder).again mode

def inTemplate (b : Builder) (t : Token) : Builder × Verdict :=
  match t with
  | .char c => if c == '\x00' then b.done else b.inBody t
  | .startTag tag =>
    if headTags.contains tag.name then b.inHead t
    else if ["caption", "colgroup", "tbody", "tfoot", "thead"].contains tag.name then
      b.asIn .inTable
    else if tag.name == "col" then b.asIn .inColumnGroup
    else if tag.name == "tr" then b.asIn .inTableBody
    else if tag.name == "td" || tag.name == "th" then b.asIn .inRow
    else b.asIn .inBody
  | .endTag name => if name == "template" then b.closeTemplate.done else b.done
  | .stop => b.stopInTemplate
  | _ => b.done

/-- After the end tag of the body, and after that of the root. -/
def afterBody (final : Bool) (b : Builder) (t : Token) : Builder × Verdict :=
  match t with
  | .comment => b.done
  | .stop => b.done
  | .char c => if isHtmlSpace c then b.inBody t else b.again .inBody
  | .startTag tag => if tag.name == "html" then b.done else b.again .inBody
  | .endTag name =>
    if name == "html" && !final then (b.setMode .afterAfterBody).done else b.again .inBody
  | _ => b.again .inBody

def inFrameset (b : Builder) (t : Token) : Builder × Verdict :=
  match t with
  | .char c => (if isHtmlSpace c then b.appendChar c else b).done
  | .startTag tag =>
    if tag.name == "frameset" then (b.insert tag).done
    else if tag.name == "frame" then (b.insertLeaf tag).done
    else if tag.name == "noframes" then b.inHead t
    else b.done
  | .endTag name =>
    if name == "frameset" && b.stack.length != 1 then
      let b := b.pop
      (if b.currentNamed "frameset" then b else b.setMode .afterFrameset).done
    else b.done
  | _ => b.done

def afterFrameset (b : Builder) (t : Token) : Builder × Verdict :=
  match t with
  | .char c => (if isHtmlSpace c then b.appendChar c else b).done
  | .startTag tag => if tag.name == "noframes" then b.inHead t else b.done
  | .endTag name => (if name == "html" then b.setMode .afterAfterFrameset else b).done
  | _ => b.done

def afterAfterFrameset (b : Builder) (t : Token) : Builder × Verdict :=
  match t with
  | .char c => if isHtmlSpace c then b.inBody t else b.done
  | .startTag tag => if tag.name == "noframes" then b.inHead t else b.done
  | _ => b.done

/-- Treats a token in the mode that is set. -/
def step (b : Builder) (t : Token) : Builder × Verdict :=
  match b.mode with
  | .initial => b.initial t
  | .beforeHtml => b.beforeHtml t
  | .beforeHead => b.beforeHead t
  | .inHead => b.inHead t
  | .afterHead => b.afterHead t
  | .inBody => b.inBody t
  | .text => b.inText t
  | .inTable => b.inTable t
  | .inTableText => b.inTableText t
  | .inCaption => b.inCaption t
  | .inColumnGroup => b.inColumnGroup t
  | .inTableBody => b.inTableBody t
  | .inRow => b.inRow t
  | .inCell => b.inCell t
  | .inSelect => b.inSelect t
  | .inSelectInTable => b.inSelectInTable t
  | .inTemplate => b.inTemplate t
  | .afterBody => b.afterBody false t
  | .inFrameset => b.inFrameset t
  | .afterFrameset => b.afterFrameset t
  | .afterAfterBody => b.afterBody true t
  | .afterAfterFrameset => b.afterAfterFrameset t

end Builder

end Flashcard.Html
