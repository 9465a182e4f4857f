import Flashcard.Html.Foreign

/-!
# Reading a document

`readDocument` reads any text as an HTML document, as a browser with scripting does. The lexer and
the builder take turns: every character may complete tokens, and a token may tell the lexer
to read on in raw text.
-/

namespace Flashcard.Html

namespace Builder

/-- Treats a token until nothing is left to do with it. -/
def run : Nat → Builder → Token → Builder × Verdict
  | 0, b, _ => b.done
  | fuel + 1, b, t =>
    match if b.isForeign t then b.stepForeign t else b.step t with
    | (b, .again) => run fuel b t
    | out => out

/-- Treats a token. Between two treatments in which no element is closed, the modes only go forward,
so there are never more than a few for each open element. -/
def treat (b : Builder) (t : Token) : Builder × Verdict :=
  let skip := b.skipNewline
  let b := { b with skipNewline := false }
  match t with
  | .fault => b.done
  | .doctype => (if b.mode = .initial then b.setMode .beforeHtml else b).done
  | .char '\n' => if skip then b.done else run (4 * b.stack.length + 40) b t
  | _ => run (4 * b.stack.length + 40) b t

/-- Whether the innermost open element is foreign. -/
def atForeign (b : Builder) : Bool :=
  (b.stack.head?.bind b.element?).any fun e => e.space != .html

end Builder

structure Reader where
  lexer : Lexer
  builder : Builder
  /-- Whether the last character was a carriage return. -/
  afterReturn : Bool

namespace Reader

def start : Reader := ⟨.start, .start, false⟩

/-- Hands a token to the builder. -/
def treat (r : Reader) (t : Token) : Reader :=
  match r.builder.treat t with
  | (b, .raw kind) => { r with lexer := r.lexer.readRaw kind, builder := b }
  | (b, .rest) => { r with lexer := r.lexer.readRest, builder := b }
  | (b, _) => { r with builder := b }

/-- Goes on with a lexer that has completed tokens. -/
def accept (r : Reader) (out : Lexer × List Token) : Reader :=
  out.2.foldl treat { r with lexer := out.1 }

/-- Reads one character, where every line end is a line feed. -/
def feed (r : Reader) (c : Char) : Reader := r.accept (r.lexer.step r.builder.atForeign c)

/-- Reads a carriage return. It is a line feed, and a line feed after it is passed over. But
where a reference's name ends, the line feed is read twice, so it is passed over itself after exactly
a name, and after other letters a second line feed counts. -/
def carriageReturn (r : Reader) : Reader :=
  match r.lexer.endName? with
  | some out => r.accept out
  | none => { r.feed '\n' with afterReturn := !r.lexer.inName }

/-- Reads one character. -/
def step (r : Reader) (c : Char) : Reader :=
  if c == '\r' then r.carriageReturn
  else if c == '\n' && r.afterReturn then { r with afterReturn := false }
  else { r.feed c with afterReturn := false }

/-- Ends the document. -/
def finish (r : Reader) : Reader := (r.lexer.finish ++ [Token.stop]).foldl treat r

end Reader

/-- Drops a byte order mark at the front. -/
def dropByteOrderMark : List Char → List Char
  | '\uFEFF' :: s => s
  | s => s

/-- Reads a text as a document. -/
def readDocument (s : List Char) : Tree :=
  ((dropByteOrderMark s).foldl Reader.step .start).finish.builder.tree

/-- The text of a document. Its root is the first element made. -/
def documentText (s : List Char) : List Char := (readDocument s).text 0

end Flashcard.Html
