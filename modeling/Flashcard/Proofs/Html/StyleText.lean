import Flashcard.Proofs.Html.RawText

/-!
# Style elements

The text of a style element is raw, so the element ends with the first `</style`, in any letter
case, and with nothing else. A text that does not hold it is read into the element as a whole
(`reads_style`): comments, tags and references in it are not read as such.
-/

namespace Flashcard.Html

theorem eq_of_toLower_eq {c d : Char} (h : c.toLower = d) (hd : d.isLower = false) : c = d := by
  unfold Char.toLower at h
  split at h
  · next hupper =>
    subst h
    exfalso
    unfold Char.isLower at hd
    simp [UInt32.le_iff_toNat_le] at hd hupper
    omega
  · exact h

/-- Whether a text holds the beginning of the end tag of a style element, in any letter case. -/
def HoldsStyleEnd (s : List Char) : Prop := "</style".toList <:+: s.map Char.toLower

instance (s : List Char) : Decidable (HoldsStyleEnd s) :=
  inferInstanceAs (Decidable ("</style".toList <:+: s.map Char.toLower))

theorem styleEnd_eq : "</style".toList = '<' :: '/' :: "style".toList := by decide

/-- A character that the end tag does not hold stands between two texts. -/
theorem holdsStyleEnd_append_cons {c : Char} (hc : c.toLower ∉ "</style".toList)
    (s t : List Char) : HoldsStyleEnd (s ++ c :: t) ↔ HoldsStyleEnd s ∨ HoldsStyleEnd t := by
  rw [HoldsStyleEnd, List.map_append, List.map_cons, infix_append_cons_iff hc]
  rfl

theorem holdsStyleEnd_append {s : List Char} (hs : '<' ∉ s) (t : List Char) :
    HoldsStyleEnd (s ++ t) ↔ HoldsStyleEnd t := by
  have hlower : '<' ∉ s.map Char.toLower := by
    intro hmem
    obtain ⟨c, hc, hlower⟩ := List.mem_map.1 hmem
    exact hs (eq_of_toLower_eq hlower rfl ▸ hc)
  rw [HoldsStyleEnd, styleEnd_eq, List.map_append, infix_append_iff_of_notMem hlower,
    ← styleEnd_eq, HoldsStyleEnd]

theorem not_holdsStyleEnd {s : List Char} (hs : '<' ∉ s) : ¬ HoldsStyleEnd s := by
  rw [← List.append_nil s, holdsStyleEnd_append hs, HoldsStyleEnd]
  decide

theorem holdsStyleEnd_of_lineEnds {s : List Char} (h : HoldsStyleEnd (lineEnds s)) :
    HoldsStyleEnd s := by
  obtain ⟨k, hk, heq⟩ := List.infix_map_iff.1 h
  have hline : '\n' ∉ k := by
    intro hmem
    have : '\n' ∈ "</style".toList := heq ▸ List.mem_map_of_mem hmem
    exact absurd this (by decide)
  rw [HoldsStyleEnd, heq]
  exact (infix_of_infix_lineEnds hline hk).map Char.toLower

namespace Tree

variable {t : Tree}

/-- Puts a new element without attributes at the end of an element. -/
def add (t : Tree) (parent : Nat) (name : String) : Tree :=
  (t.create .html name []).1.append parent (.element t.elements.size)

theorem IsHtml.append {i : Nat} (h : t.IsHtml i) (parent id : Nat) :
    (t.append parent (.element id)).IsHtml i := by
  have hparent := h.update id (f := fun e => { e with parent := some parent }) fun _ => rfl
  exact hparent.update parent (f := fun e => { e with content := .element id :: e.content })
    fun _ => rfl

theorem isHtml_add (t : Tree) (parent : Nat) (name : String) :
    (t.add parent name).IsHtml t.elements.size := by
  have hnew : (t.create .html name []).1.IsHtml t.elements.size := by
    refine ⟨⟨.html, name, [], none, []⟩, ?_, rfl⟩
    rw [create, element?, Array.getElem?_push_size]
  exact hnew.append parent t.elements.size

theorem IsHtml.add {i : Nat} (h : t.IsHtml i) (parent : Nat) (name : String) :
    (t.add parent name).IsHtml i := by
  obtain ⟨e, he, hspace⟩ := h
  have hlt : i < t.elements.size := (Array.getElem?_eq_some_iff.1 he).1
  have hold : (t.create .html name []).1.IsHtml i := by
    refine ⟨e, ?_, hspace⟩
    rw [create, element?, Array.getElem?_push_lt hlt]
    exact (Array.getElem?_eq_getElem hlt).symm.trans he
  exact hold.append parent t.elements.size

end Tree

namespace Builder

variable {b : Builder} {mode : Mode} {id : Nat}

theorem Open.insert_eq (h : b.Open mode id) (name : String) :
    b.insert ⟨name, [], false⟩ =
      { b with tree := b.tree.add id name, stack := b.tree.elements.size :: b.stack } := by
  simp only [insert, insertIn, insertLeafIn, place, placeIn, Tree.create, h.fostering_eq,
    h.headD_stack]
  rfl

/-- Opens a style element in an element. -/
def openStyle (b : Builder) (id : Nat) : Builder :=
  { b with
    tree := b.tree.add id "style"
    stack := b.tree.elements.size :: b.stack
    returnMode := .inHead
    mode := .text }

/-- Puts a style element with a text into an element. -/
def addStyle (b : Builder) (id : Nat) (cs : List Char) : Builder :=
  { b with
    tree := (b.tree.add id "style").putText b.tree.elements.size (withoutNull cs)
    returnMode := .inHead }

theorem Open.openStyle (h : b.Open mode id) : (b.openStyle id).Open .text b.tree.elements.size where
  mode_eq := rfl
  head?_stack := rfl
  html := Tree.isHtml_add _ _ _
  formatting_eq := h.formatting_eq
  fostering_eq := h.fostering_eq
  skipNewline_eq := h.skipNewline_eq

theorem Open.addStyle (h : b.Open mode id) (cs : List Char) : (b.addStyle id cs).Open mode id where
  mode_eq := h.mode_eq
  head?_stack := h.head?_stack
  html := (h.html.add id "style").putText _ _
  formatting_eq := h.formatting_eq
  fostering_eq := h.fostering_eq
  skipNewline_eq := h.skipNewline_eq

theorem Open.treat_style (h : b.Open .inHead id) :
    b.treat (.startTag ⟨"style", [], false⟩) = (b.openStyle id, .raw .plain) := by
  refine h.treat_eq ?_ nofun nofun nofun
  simp [step, h.mode_eq, inHead, readRaw, h.insert_eq, Builder.openStyle]

theorem Open.treat_endTag_style (h : b.Open .inHead id) (cs : List Char) (name : String) :
    ((b.openStyle id).put b.tree.elements.size cs).treat (.endTag name) =
      (b.addStyle id cs).done := by
  refine (h.openStyle.put cs).treat_eq ?_ nofun nofun nofun
  simp [step, inText.eq_def, Builder.put, Builder.openStyle, Builder.addStyle, pop, setMode,
    h.mode_eq, done]

end Builder

variable {r : Reader} {id : Nat}

/-- A style element is read as a whole, whatever its text holds but its end tag. -/
theorem reads_style (h : r.builder.Open .inHead id) (hlexer : r.lexer.state = .data)
    {s : List Char} (hs : ¬ HoldsStyleEnd s) :
    Reads r ("<style>".toList ++ (s ++ "</style>".toList))
      { r with
        lexer := ⟨.data, {}, "style"⟩
        builder := r.builder.addStyle id (s.map replaceNull) } := by
  have hname : IsTagName "style" := by decide
  have hopening : "<style>".toList = '<' :: "style".toList ++ ['>'] := by decide
  have hclosing : "</style>".toList = '<' :: '/' :: "style".toList ++ ['>'] := by decide
  rw [HoldsStyleEnd, styleEnd_eq] at hs
  have hstart := reads_startTag hlexer hname
  rw [← hopening, Reader.treat_eq_readRaw (r := { r with lexer := ⟨.data, {}, "style"⟩ })
    h.treat_style] at hstart
  have hrest := reads_rawText (r := { r with
    lexer := ⟨.raw .plain, {}, "style"⟩
    builder := r.builder.openStyle id }) h.openStyle rfl hname hs
  have hend := h.treat_endTag_style (s.map replaceNull) "style"
  rw [← hclosing, Reader.treat_eq (r := { r with
    lexer := ⟨.data, {}, "style"⟩
    builder := (r.builder.openStyle id).put r.builder.tree.elements.size (s.map replaceNull) })
    hend] at hrest
  exact hstart.append hrest

end Flashcard.Html
