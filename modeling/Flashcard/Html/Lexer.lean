import Flashcard.Html.Reference

/-!
# Cutting a document into tokens

A lexer reads one character at a time and gives out the tokens that are complete. `Lexer.step` is
a state machine in which every character is read once: a character that ends one construct without
belonging to it is handed to the state that follows at once.

Whether tags are read at all is not for the lexer to decide. The tree says so by putting the lexer
into a state with `Lexer.readRaw` when it opens an element of raw text.
-/

namespace Flashcard.Html

/-- The kinds of text in which only the end tag of the open element is read. -/
inductive RawKind where
  /-- References are read, as in titles. -/
  | escapable
  | plain
  | script
  /-- Inside a comment in a script. -/
  | scriptComment
  /-- Inside a script in a comment in a script. -/
  | scriptInComment
deriving DecidableEq, Repr

inductive Quote where
  | double
  | single
  | none
deriving DecidableEq, Repr

/-- Where a character reference stands. -/
inductive ReferenceSite where
  | data
  | escapable
  | value (quote : Quote)
deriving DecidableEq, Repr

inductive LexerState where
  | data
  /-- Text to the end of the document. -/
  | rest
  | raw (kind : RawKind)
  | rawLess (kind : RawKind)
  | rawEndTag (kind : RawKind)
  /-- The letters of the end tag's name, as written, newest first. -/
  | rawEndTagName (kind : RawKind) (letters : List Char)
  | commentInScript (dashes : Nat)
  | dashInScript (kind : RawKind) (dashes : Nat)
  | scriptInCommentStart (letters : List Char)
  | scriptInCommentEnd (letters : List Char)
  | tag
  | endTag
  | tagName
  | beforeAttribute
  | attributeName
  | afterAttribute
  | beforeValue
  | value (quote : Quote)
  | afterValue
  | selfClosing
  /-- What has been read of the keyword after an exclamation mark. -/
  | declaration (read : List Char)
  | bogusComment
  | doctype
  | commentStart
  | commentStartDash
  | comment
  | commentDash
  | commentEnd
  | commentEndBang
  /-- A marked section, after this many closing brackets. -/
  | cdata (brackets : Nat)
  | reference (site : ReferenceSite) (r : Reference)
deriving DecidableEq, Repr

/-- A tag while it is read; texts are newest first. -/
structure TagDraft where
  isEnd : Bool := false
  name : List Char := []
  attributes : List (String × String) := []
  /-- The name and the value of the attribute that is being read. -/
  current : Option (List Char × List Char) := none
  selfClosing : Bool := false
deriving DecidableEq, Repr

namespace TagDraft

/-- Ends the attribute that is being read. The first attribute of a name counts. -/
def endAttribute (d : TagDraft) : TagDraft :=
  match d.current with
  | none => d
  | some (name, value) =>
    let name := String.ofList name.reverse
    let attributes :=
      if d.attributes.any (·.1 == name) then d.attributes
      else (name, String.ofList value.reverse) :: d.attributes
    { d with attributes := attributes, current := none }

def pushName (d : TagDraft) (c : Char) : TagDraft := { d with name := c.toLower :: d.name }

def startAttribute (d : TagDraft) (c : Char) : TagDraft :=
  { d.endAttribute with current := some ([c.toLower], []) }

def pushAttributeName (d : TagDraft) (c : Char) : TagDraft :=
  { d with current := d.current.map fun (name, value) => (c.toLower :: name, value) }

def pushValue (d : TagDraft) (cs : List Char) : TagDraft :=
  { d with current := d.current.map fun (name, value) => (name, cs.reverse ++ value) }

def nameText (d : TagDraft) : String := String.ofList d.name.reverse

def token (d : TagDraft) : Token :=
  if d.isEnd then .endTag d.nameText
  else .startTag ⟨d.nameText, d.endAttribute.attributes, d.selfClosing⟩

end TagDraft

structure Lexer where
  state : LexerState
  draft : TagDraft
  /-- The name of the last start tag, which alone can end a raw text. -/
  lastStart : String

namespace Lexer

def start : Lexer := ⟨.data, {}, ""⟩

/-- Reads the content of the element just opened as raw text. -/
def readRaw (lx : Lexer) (kind : RawKind) : Lexer := { lx with state := .raw kind }

/-- Reads all that is left as text. -/
def readRest (lx : Lexer) : Lexer := { lx with state := .rest }

def goto (lx : Lexer) (s : LexerState) : Lexer × List Token := ({ lx with state := s }, [])

def emit (lx : Lexer) (s : LexerState) (cs : List Char) : Lexer × List Token :=
  ({ lx with state := s }, cs.map .char)

def draftTo (lx : Lexer) (s : LexerState) (d : TagDraft) : Lexer × List Token :=
  ({ lx with state := s, draft := d }, [])

/-- Gives out the tag that has been read. -/
def emitTag (lx : Lexer) (d : TagDraft) : Lexer × List Token :=
  (⟨.data, {}, if d.isEnd then lx.lastStart else d.nameText⟩, [d.token])

/-- Puts characters in front of the tokens given out. -/
def after (cs : List Char) (out : Lexer × List Token) : Lexer × List Token :=
  (out.1, cs.map .char ++ out.2)

def stepData (lx : Lexer) (c : Char) : Lexer × List Token :=
  if c == '&' then lx.goto (.reference .data .start)
  else if c == '<' then lx.goto .tag
  else lx.emit .data [c]

def stepRaw (lx : Lexer) (kind : RawKind) (c : Char) : Lexer × List Token :=
  match kind, c with
  | .escapable, '&' => lx.goto (.reference .escapable .start)
  | .scriptComment, '-' => lx.emit (.dashInScript kind 1) [c]
  | .scriptInComment, '-' => lx.emit (.dashInScript kind 1) [c]
  | .scriptInComment, '<' => lx.emit (.rawLess kind) [c]
  | _, '<' => lx.goto (.rawLess kind)
  | _, c => lx.emit (.raw kind) [replaceNull c]

def stepRawLess (lx : Lexer) (kind : RawKind) (c : Char) : Lexer × List Token :=
  match kind with
  | .scriptInComment =>
    if c == '/' then lx.emit (.scriptInCommentEnd []) [c] else lx.stepRaw kind c
  | _ =>
    if c == '/' then lx.goto (.rawEndTag kind)
    else if kind == .script && c == '!' then lx.emit (.commentInScript 0) ['<', c]
    else if kind == .scriptComment && c.isAlpha then
      lx.emit (.scriptInCommentStart [c.toLower]) ['<', c]
    else after ['<'] (lx.stepRaw kind c)

def stepRawEndTag (lx : Lexer) (kind : RawKind) (c : Char) : Lexer × List Token :=
  if c.isAlpha then
    lx.draftTo (.rawEndTagName kind [c]) (TagDraft.pushName { isEnd := true } c)
  else after ['<', '/'] (lx.stepRaw kind c)

def stepRawEndTagName (lx : Lexer) (kind : RawKind) (letters : List Char) (c : Char) :
    Lexer × List Token :=
  let appropriate := lx.draft.nameText == lx.lastStart
  if appropriate && isHtmlSpace c then lx.goto .beforeAttribute
  else if appropriate && c == '/' then lx.goto .selfClosing
  else if appropriate && c == '>' then lx.emitTag lx.draft
  else if c.isAlpha then lx.draftTo (.rawEndTagName kind (c :: letters)) (lx.draft.pushName c)
  else after (['<', '/'] ++ letters.reverse) (lx.stepRaw kind c)

/-- A comment in a script begins with two dashes. -/
def stepCommentInScript (lx : Lexer) (dashes : Nat) (c : Char) : Lexer × List Token :=
  if c != '-' then lx.stepRaw .script c
  else if dashes == 0 then lx.emit (.commentInScript 1) [c]
  else lx.emit (.dashInScript .scriptComment 2) [c]

/-- After dashes inside a comment in a script, which two dashes and a closing sign end. -/
def stepDashInScript (lx : Lexer) (kind : RawKind) (dashes : Nat) (c : Char) : Lexer × List Token :=
  if c == '-' then lx.emit (.dashInScript kind 2) [c]
  else if c == '>' && dashes == 2 then lx.emit (.raw .script) [c]
  else lx.stepRaw kind c

/-- After a name in a comment in a script: the name of the script element changes the kind of
text. -/
def stepScriptName (lx : Lexer) (letters : List Char) (again : List Char → LexerState)
    (same changed : RawKind) (c : Char) : Lexer × List Token :=
  if isHtmlSpace c || c == '/' || c == '>' then
    lx.emit (.raw (if letters.reverse == "script".toList then changed else same)) [c]
  else if c.isAlpha then lx.emit (again (c.toLower :: letters)) [c]
  else lx.stepRaw same c

def stepBogusComment (lx : Lexer) (c : Char) : Lexer × List Token :=
  if c == '>' then ({ lx with state := .data }, [.comment]) else lx.goto .bogusComment

def stepTag (lx : Lexer) (c : Char) : Lexer × List Token :=
  if c == '!' then lx.goto (.declaration [])
  else if c == '/' then lx.goto .endTag
  else if c == '?' then lx.goto .bogusComment
  else if c.isAlpha then lx.draftTo .tagName (TagDraft.pushName {} c)
  else after ['<'] (lx.stepData c)

def stepEndTag (lx : Lexer) (c : Char) : Lexer × List Token :=
  if c.isAlpha then lx.draftTo .tagName (TagDraft.pushName { isEnd := true } c)
  else if c == '>' then ({ lx with state := .data }, [.fault])
  else lx.goto .bogusComment

def stepBeforeAttribute (lx : Lexer) (c : Char) : Lexer × List Token :=
  if isHtmlSpace c then lx.goto .beforeAttribute
  else if c == '/' then lx.goto .selfClosing
  else if c == '>' then lx.emitTag lx.draft
  else lx.draftTo .attributeName (lx.draft.startAttribute (replaceNull c))

def stepTagName (lx : Lexer) (c : Char) : Lexer × List Token :=
  if isHtmlSpace c then lx.goto .beforeAttribute
  else if c == '/' then lx.goto .selfClosing
  else if c == '>' then lx.emitTag lx.draft
  else lx.draftTo .tagName (lx.draft.pushName (replaceNull c))

def stepAttributeName (lx : Lexer) (c : Char) : Lexer × List Token :=
  if isHtmlSpace c then lx.goto .afterAttribute
  else if c == '/' then lx.goto .selfClosing
  else if c == '=' then lx.goto .beforeValue
  else if c == '>' then lx.emitTag lx.draft
  else lx.draftTo .attributeName (lx.draft.pushAttributeName (replaceNull c))

def stepAfterAttribute (lx : Lexer) (c : Char) : Lexer × List Token :=
  if isHtmlSpace c then lx.goto .afterAttribute
  else if c == '=' then lx.goto .beforeValue
  else lx.stepBeforeAttribute c

def stepValue (lx : Lexer) (quote : Quote) (c : Char) : Lexer × List Token :=
  match quote, c with
  | .double, '"' => lx.goto .afterValue
  | .single, '\'' => lx.goto .afterValue
  | .none, '>' => lx.emitTag lx.draft
  | _, '&' => lx.goto (.reference (.value quote) .start)
  | _, c =>
    if quote == .none && isHtmlSpace c then lx.goto .beforeAttribute
    else lx.draftTo (.value quote) (lx.draft.pushValue [replaceNull c])

def stepBeforeValue (lx : Lexer) (c : Char) : Lexer × List Token :=
  if isHtmlSpace c then lx.goto .beforeValue
  else if c == '"' then lx.goto (.value .double)
  else if c == '\'' then lx.goto (.value .single)
  else lx.stepValue .none c

def stepAfterValue (lx : Lexer) (c : Char) : Lexer × List Token :=
  if isHtmlSpace c then lx.goto .beforeAttribute else lx.stepBeforeAttribute c

def stepSelfClosing (lx : Lexer) (c : Char) : Lexer × List Token :=
  if c == '>' then lx.emitTag { lx.draft with selfClosing := true } else lx.stepBeforeAttribute c

def stepComment (lx : Lexer) (c : Char) : Lexer × List Token :=
  if c == '-' then lx.goto .commentDash else lx.goto .comment

def endComment (lx : Lexer) : Lexer × List Token := ({ lx with state := .data }, [.comment])

/-- Marked sections are read in foreign elements only, and elsewhere are bogus comments. -/
def stepDeclaration (lx : Lexer) (inForeign : Bool) (read : List Char) (c : Char) :
    Lexer × List Token :=
  let longer := read ++ [c]
  let lower := longer.map Char.toLower
  if longer == ['-', '-'] then lx.goto .commentStart
  else if lower == "doctype".toList then lx.goto .doctype
  else if inForeign && longer == "[CDATA[".toList then lx.goto (.cdata 0)
  else if longer == ['-'] || lower.isPrefixOf "doctype".toList ||
      (inForeign && longer.isPrefixOf "[CDATA[".toList) then
    lx.goto (.declaration longer)
  else lx.stepBogusComment c

def stepCdata (lx : Lexer) (brackets : Nat) (c : Char) : Lexer × List Token :=
  if c == ']' then
    if brackets == 2 then lx.emit (.cdata 2) [c] else lx.goto (.cdata (brackets + 1))
  else if c == '>' && brackets == 2 then lx.goto .data
  else lx.emit (.cdata 0) (List.replicate brackets ']' ++ [c])

/-- Puts the characters of a reference where it stands. -/
def resolve (lx : Lexer) (site : ReferenceSite) (unclosed : Bool) (cs : List Char) :
    Lexer × List Token :=
  let fault := if unclosed then [Token.fault] else []
  match site with
  | .data => ({ lx with state := .data }, fault ++ cs.map .char)
  | .escapable => ({ lx with state := .raw .escapable }, fault ++ cs.map .char)
  | .value quote => lx.draftTo (.value quote) (lx.draft.pushValue cs)

/-- Reads a character where a reference has just ended. -/
def stepSite (lx : Lexer) (site : ReferenceSite) (c : Char) : Lexer × List Token :=
  match site with
  | .data => lx.stepData c
  | .escapable => lx.stepRaw .escapable c
  | .value quote => lx.stepValue quote c

def stepReference (lx : Lexer) (site : ReferenceSite) (r : Reference) (c : Char) :
    Lexer × List Token :=
  let inAttribute := match site with
    | .value _ => true
    | _ => false
  match r.step inAttribute c with
  | .more r => lx.goto (.reference site r)
  | .over cs unclosed true => lx.resolve site unclosed cs
  | .over cs unclosed false =>
    let (lx, first) := lx.resolve site unclosed cs
    let (lx, second) := lx.stepSite site c
    (lx, first ++ second)

/-- Ends a reference that is so far exactly a name. -/
def endName? (lx : Lexer) : Option (Lexer × List Token) :=
  match lx.state with
  | .reference site (.name read (some (length, chars))) =>
    if length == read.length then
      some (lx.resolve site (!Reference.isClosed read (some (length, chars))) chars)
    else none
  | _ => none

/-- Whether the lexer is in the name of a reference. -/
def inName (lx : Lexer) : Bool :=
  match lx.state with
  | .reference _ (.name _ _) => true
  | _ => false

/-- Reads one character, in an element of HTML or in a foreign one. -/
def step (lx : Lexer) (inForeign : Bool) (c : Char) : Lexer × List Token :=
  match lx.state with
  | .data => lx.stepData c
  | .rest => lx.emit .rest [replaceNull c]
  | .raw kind => lx.stepRaw kind c
  | .rawLess kind => lx.stepRawLess kind c
  | .rawEndTag kind => lx.stepRawEndTag kind c
  | .rawEndTagName kind letters => lx.stepRawEndTagName kind letters c
  | .commentInScript dashes => lx.stepCommentInScript dashes c
  | .dashInScript kind dashes => lx.stepDashInScript kind dashes c
  | .scriptInCommentStart letters =>
    lx.stepScriptName letters .scriptInCommentStart .scriptComment .scriptInComment c
  | .scriptInCommentEnd letters =>
    lx.stepScriptName letters .scriptInCommentEnd .scriptInComment .scriptComment c
  | .tag => lx.stepTag c
  | .endTag => lx.stepEndTag c
  | .tagName => lx.stepTagName c
  | .beforeAttribute => lx.stepBeforeAttribute c
  | .attributeName => lx.stepAttributeName c
  | .afterAttribute => lx.stepAfterAttribute c
  | .beforeValue => lx.stepBeforeValue c
  | .value quote => lx.stepValue quote c
  | .afterValue => lx.stepAfterValue c
  | .selfClosing => lx.stepSelfClosing c
  | .declaration read => lx.stepDeclaration inForeign read c
  | .bogusComment => lx.stepBogusComment c
  | .doctype => if c == '>' then ({ lx with state := .data }, [.doctype]) else lx.goto .doctype
  | .commentStart =>
    if c == '-' then lx.goto .commentStartDash
    else if c == '>' then lx.endComment
    else lx.stepComment c
  | .commentStartDash =>
    if c == '-' then lx.goto .commentEnd
    else if c == '>' then lx.endComment
    else lx.stepComment c
  | .comment => lx.stepComment c
  | .commentDash => if c == '-' then lx.goto .commentEnd else lx.stepComment c
  | .commentEnd =>
    if c == '>' then lx.endComment
    else if c == '!' then lx.goto .commentEndBang
    else if c == '-' then lx.goto .commentEnd
    else lx.stepComment c
  | .commentEndBang => if c == '>' then lx.endComment else lx.stepComment c
  | .cdata brackets => lx.stepCdata brackets c
  | .reference site r => lx.stepReference site r c

/-- The tokens that are left when the document ends. A tag that is not complete is dropped. -/
def finish (lx : Lexer) : List Token :=
  match lx.state with
  | .rawLess .scriptInComment => []
  | .rawLess _ => [.char '<']
  | .rawEndTag _ => ['<', '/'].map .char
  | .rawEndTagName _ letters => (['<', '/'] ++ letters.reverse).map .char
  | .tag => [.char '<']
  | .endTag => ['<', '/'].map .char
  | .declaration _ | .bogusComment | .commentStart | .commentStartDash | .comment | .commentDash
  | .commentEnd | .commentEndBang => [.comment]
  | .doctype => [.doctype]
  | .cdata brackets => List.replicate brackets (.char ']')
  | .reference (.value _) _ => []
  | .reference _ r =>
    (if r.isComplete then [] else [Token.fault]) ++ r.finish.map .char
  | _ => []

end Lexer

end Flashcard.Html
