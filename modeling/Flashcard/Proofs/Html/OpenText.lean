import Flashcard.Proofs.Html.LineEnds
import Mathlib.Data.List.Basic

/-!
# Text and tags

While text is read, the characters go into the innermost open element and nothing else changes
(`Open.treat_char`, `reads_text`). Which characters are text depends on the insertion mode
(`Mode.admits`). Null characters are left out.

A tag without attributes is one token (`reads_startTag`, `reads_endTag`).
-/

namespace Flashcard.Html

namespace Tree

/-- Puts characters at the end of an element. -/
def putText (t : Tree) (id : Nat) (cs : List Char) : Tree :=
  t.update id fun e => { e with content := cs.reverse.map .char ++ e.content }

theorem element?_update (t : Tree) (id i : Nat) (f : Element → Element) :
    (t.update id f).element? i = if id = i then (t.element? i).map f else t.element? i :=
  Array.getElem?_modify

theorem update_update (t : Tree) (id : Nat) (f g : Element → Element) :
    (t.update id f).update id g = t.update id (g ∘ f) := by
  simp only [update, mk.injEq, ← Array.toList_inj, Array.toList_modify, List.modify_modify_eq]

theorem update_id (t : Tree) (id : Nat) : t.update id (fun e => e) = t := by
  obtain ⟨elements⟩ := t
  simp only [update, mk.injEq]
  refine Array.ext_getElem? fun i => ?_
  rw [Array.getElem?_modify]
  split <;> simp

theorem putText_nil (t : Tree) (id : Nat) : t.putText id [] = t := t.update_id id

theorem putText_putText (t : Tree) (id : Nat) (cs ds : List Char) :
    (t.putText id cs).putText id ds = t.putText id (cs ++ ds) := by
  rw [putText, putText, putText, update_update]
  congr 1
  funext e
  simp

/-- Whether there is an element of this number, and it is one of HTML. -/
def IsHtml (t : Tree) (id : Nat) : Prop := ∃ e, t.element? id = some e ∧ e.space = .html

theorem IsHtml.update {t : Tree} {i : Nat} (h : t.IsHtml i) (id : Nat) {f : Element → Element}
    (hf : ∀ e, (f e).space = e.space) : (t.update id f).IsHtml i := by
  obtain ⟨e, he, hspace⟩ := h
  rw [IsHtml, element?_update, he]
  split
  · exact ⟨f e, rfl, (hf e).trans hspace⟩
  · exact ⟨e, rfl, hspace⟩

theorem IsHtml.putText {t : Tree} {i : Nat} (h : t.IsHtml i) (id : Nat) (cs : List Char) :
    (t.putText id cs).IsHtml i :=
  h.update id fun _ => rfl

end Tree

/-- A text without its null characters. -/
def withoutNull (cs : List Char) : List Char := cs.filter (· != '\x00')

theorem withoutNull_eq_self {s : List Char} (hs : '\x00' ∉ s) : withoutNull s = s :=
  List.filter_eq_self.2 fun _ hc => bne_iff_ne.2 fun hnull => hs (hnull ▸ hc)

/-- Whether a character is text in a mode, and changes nothing but the text. -/
def Mode.admits : Mode → Char → Bool
  | .inBody, _ => true
  | .text, c => c != '\x00'
  | .inHead, c | .afterHead, c | .afterBody, c | .afterAfterBody, c => isHtmlSpace c
  | _, _ => false

namespace Builder

/-- Puts text into an element. In the body no frameset can take its place any longer if the text
shows something. -/
def put (b : Builder) (id : Nat) (cs : List Char) : Builder :=
  { b with
    tree := b.tree.putText id (withoutNull cs)
    framesetOk := b.framesetOk && (b.mode != .inBody || (withoutNull cs).all isHtmlSpace) }

theorem put_nil (b : Builder) (id : Nat) : b.put id [] = b := by
  simp [put, withoutNull, Tree.putText_nil]

theorem put_put (b : Builder) (id : Nat) (cs ds : List Char) :
    (b.put id cs).put id ds = b.put id (cs ++ ds) := by
  simp only [put, withoutNull, Tree.putText_putText, List.filter_append, List.all_append]
  cases b.mode != .inBody <;> simp [Bool.and_assoc]

/-- Whether text goes into the element `id` of HTML. -/
structure Open (b : Builder) (mode : Mode) (id : Nat) : Prop where
  mode_eq : b.mode = mode
  head?_stack : b.stack.head? = some id
  html : b.tree.IsHtml id
  formatting_eq : b.formatting = []
  fostering_eq : b.fostering = false
  skipNewline_eq : b.skipNewline = false

theorem treat_eq_run {b : Builder} (h : b.skipNewline = false) (t : Token) (hfault : t ≠ .fault)
    (hdoctype : t ≠ .doctype) : b.treat t = run (4 * b.stack.length + 40) b t := by
  have hb : { b with skipNewline := false } = b := by rw [← h]
  unfold treat
  simp only [h, hb]
  split <;> simp_all

theorem reopenFormatting_eq {b : Builder} (h : b.formatting = []) : b.reopenFormatting = b := by
  unfold reopenFormatting
  simp only [h, List.takeWhile_nil, List.reverse_nil, List.foldl_nil, List.drop_nil]
  rw [← h]

namespace Open

variable {b : Builder} {mode : Mode} {id : Nat}

theorem put (h : b.Open mode id) (cs : List Char) : (b.put id cs).Open mode id where
  mode_eq := h.mode_eq
  head?_stack := h.head?_stack
  html := h.html.putText id _
  formatting_eq := h.formatting_eq
  fostering_eq := h.fostering_eq
  skipNewline_eq := h.skipNewline_eq

theorem headD_stack (h : b.Open mode id) : b.stack.headD 0 = id := by
  rw [List.headD_eq_head?_getD, h.head?_stack, Option.getD_some]

theorem isForeign_eq (h : b.Open mode id) (t : Token) : b.isForeign t = false := by
  obtain ⟨e, he, hspace⟩ := h.html
  rw [isForeign, h.head?_stack, Option.bind_some, element?, he]
  simp only [isForeignIn, hspace]

/-- A token that its mode has done with is done with. -/
theorem treat_eq (h : b.Open mode id) {t : Token} {out : Builder × Verdict}
    (hstep : b.step t = out) (hout : out.2 ≠ .again) (hfault : t ≠ .fault)
    (hdoctype : t ≠ .doctype) : b.treat t = out := by
  rw [treat_eq_run h.skipNewline_eq t hfault hdoctype, run, h.isForeign_eq,
    if_neg Bool.false_ne_true, hstep]
  obtain ⟨b', _ | _ | _ | _⟩ := out
  case again => exact absurd rfl hout
  all_goals rfl

theorem appendChar_eq (h : b.Open mode id) (c : Char) :
    b.appendChar c = { b with tree := b.tree.putText id [c] } := by
  rw [appendChar, place, placeIn, h.fostering_eq, h.headD_stack]
  rfl

theorem put_eq_appendChar (h : b.Open mode id) {c : Char} (hnull : c ≠ '\x00')
    (hframes : b.mode ≠ .inBody ∨ isHtmlSpace c = true) : b.put id [c] = b.appendChar c := by
  have hkept : withoutNull [c] = [c] := by simp [withoutNull, hnull]
  rw [h.appendChar_eq, Builder.put, hkept]
  rcases hframes with hmode | hspace
  · simp [hmode]
  · simp [hspace]

theorem inBody_char (h : b.Open mode id) {c : Char}
    (hc : b.mode = .inBody ∨ isHtmlSpace c = true) :
    b.inBody (.char c) = (b.put id [c]).done := by
  -- opened as a whole: the equations of the single cases exceed the recursion limit
  rw [inBody.eq_def, reopenFormatting_eq h.formatting_eq]
  by_cases hnull : c = '\x00'
  · subst hnull
    simp [Builder.put, withoutNull, Tree.putText_nil]
  have hother : (c == '\x00') = false := beq_eq_false_iff_ne.2 hnull
  simp only [hother, Bool.false_eq_true, if_false]
  by_cases hspace : isHtmlSpace c = true
  · simp only [hspace, if_true, h.put_eq_appendChar hnull (.inr hspace)]
  · have hopen : (b.setFramesetOk false).Open mode id := { h with }
    have hmode := hc.resolve_right hspace
    simp only [hspace, if_false, Bool.false_eq_true, hopen.appendChar_eq]
    simp [Builder.put, withoutNull, hnull, hmode, hspace, setFramesetOk]

/-- A character that is text goes into the open element. -/
theorem step_char (h : b.Open mode id) {c : Char} (hc : mode.admits c = true) :
    b.step (.char c) = (b.put id [c]).done := by
  have hspace : isHtmlSpace c = true → c ≠ '\x00' := by rintro hc rfl; simp [isHtmlSpace] at hc
  obtain rfl := h.mode_eq
  rw [step]
  cases hmode : b.mode <;> simp only [hmode, Mode.admits, reduceCtorEq] at hc ⊢
  case inHead | afterHead =>
    rw [h.put_eq_appendChar (hspace hc) (.inr hc)]
    simp only [inHead, afterHead, hc, if_true]
  case inBody => exact h.inBody_char (.inl hmode)
  case text =>
    rw [h.put_eq_appendChar (by simpa using hc) (.inl (by simp [hmode]))]
    rfl
  case afterBody | afterAfterBody =>
    rw [← h.inBody_char (.inr hc)]
    simp only [afterBody, hc, if_true]

/-- A character that is text goes into the open element. -/
theorem treat_char (h : b.Open mode id) {c : Char} (hc : mode.admits c = true) :
    b.treat (.char c) = (b.put id [c]).done :=
  h.treat_eq (h.step_char hc) nofun nofun nofun

/-- The end of the document leaves the body as it is. -/
theorem treat_stop (h : b.Open mode id) (htemplates : b.templateModes = [])
    (hmode : mode ∈ [Mode.inBody, .afterBody, .afterAfterBody]) : b.treat .stop = b.done := by
  obtain rfl := h.mode_eq
  have hbody : b.inBody .stop = b.done := by
    rw [inBody.eq_def]
    simp [htemplates]
  have hstep : b.step .stop = b.done := by
    simp only [List.mem_cons, List.not_mem_nil, or_false] at hmode
    rcases hmode with hmode | hmode | hmode <;> simp [step, hmode, hbody, afterBody]
  exact h.treat_eq hstep nofun nofun nofun

end Open

end Builder

/-! ### Reading -/

namespace Reader

variable {r : Reader} {mode : Mode} {id : Nat}

theorem treat_eq {t : Token} {b : Builder} (h : r.builder.treat t = b.done) :
    r.treat t = { r with builder := b } := by
  rw [treat, h]
  rfl

theorem treat_eq_readRaw {t : Token} {b : Builder} {kind : RawKind}
    (h : r.builder.treat t = (b, .raw kind)) :
    r.treat t = { r with lexer := r.lexer.readRaw kind, builder := b } := by
  rw [treat, h]

/-- Characters that come out of the lexer go into the open element. -/
theorem foldl_treat_chars (h : r.builder.Open mode id) {cs : List Char}
    (hcs : ∀ c ∈ cs, mode.admits c = true) :
    (cs.map Token.char).foldl treat r = { r with builder := r.builder.put id cs } := by
  induction cs generalizing r with
  | nil => rw [Builder.put_nil, List.map_nil, List.foldl_nil]
  | cons c cs ih =>
    have hfirst := treat_eq (h.treat_char (hcs c List.mem_cons_self))
    rw [List.map_cons, List.foldl_cons, hfirst, ih (h.put [c]) fun d hd =>
      hcs d (List.mem_cons_of_mem c hd), Builder.put_put, List.singleton_append]

end Reader

variable {r : Reader} {mode : Mode} {id : Nat}

/-- Between tags every character is a token of its own. -/
theorem Reader.feed_data (hlexer : r.lexer.state = .data) {c : Char} (hless : c ≠ '<')
    (hand : c ≠ '&') : r.feed c = r.treat (.char c) := by
  obtain ⟨⟨state, draft, lastStart⟩, b, a⟩ := r
  obtain rfl : state = .data := hlexer
  rw [feed, Lexer.step, Lexer.stepData, if_neg (by simpa using hand), if_neg (by simpa using hless)]
  rfl

/-- Characters that the builder passes over leave the reader as it is. -/
theorem reads_ignored (hlexer : r.lexer.state = .data) {s : List Char}
    (hs : ∀ c ∈ s, c ≠ '<' ∧ c ≠ '&' ∧ r.builder.treat (.char c) = r.builder.done) :
    Reads r s r := by
  induction s with
  | nil => exact .nil r
  | cons c s ih =>
    obtain ⟨hless, hand, htreat⟩ := hs c List.mem_cons_self
    refine .cons (by rw [Lexer.inName, hlexer]) ?_
    rw [Reader.feed_data hlexer hless hand, Reader.treat_eq htreat]
    exact ih fun d hd => hs d (List.mem_cons_of_mem c hd)

/-- Text between tags goes into the open element. -/
theorem reads_text (h : r.builder.Open mode id) (hlexer : r.lexer.state = .data) {s : List Char}
    (hs : ∀ c ∈ s, mode.admits c = true ∧ c ≠ '<' ∧ c ≠ '&') :
    Reads r s { r with builder := r.builder.put id s } := by
  induction s generalizing r with
  | nil =>
    rw [Builder.put_nil]
    exact .nil r
  | cons c s ih =>
    obtain ⟨hc, hless, hand⟩ := hs c List.mem_cons_self
    refine .cons (by rw [Lexer.inName, hlexer]) ?_
    rw [Reader.feed_data hlexer hless hand, Reader.treat_eq (h.treat_char hc)]
    have := ih (r := { r with builder := r.builder.put id [c] }) (h.put [c]) hlexer
      fun d hd => hs d (List.mem_cons_of_mem c hd)
    rwa [Builder.put_put] at this

/-- The end of the document after text outside of tags. -/
theorem Reader.builder_finish (hlexer : r.lexer.state = .data) {b : Builder}
    (h : r.builder.treat .stop = b.done) : r.finish.builder = b := by
  rw [finish, Lexer.finish, hlexer, List.nil_append, List.foldl_cons, treat_eq h, List.foldl_nil]

/-! ### Tags -/

theorem ne_of_test {p : Char → Bool} {c d : Char} (hc : p c = true) (hd : p d = false) : c ≠ d := by
  rintro rfl
  exact Bool.false_ne_true (hd.symm.trans hc)

theorem toLower_of_isLower {c : Char} (hc : c.isLower = true) : c.toLower = c := by
  unfold Char.isLower at hc
  rw [Bool.and_eq_true, decide_eq_true_eq, decide_eq_true_eq] at hc
  have hcapital : ¬ (c.val ≥ 'A'.val ∧ c.val ≤ 'Z'.val) := fun h =>
    absurd (UInt32.le_trans hc.1 h.2) (by decide)
  unfold Char.toLower
  rw [dif_neg hcapital]

theorem isAlpha_of_isLower {c : Char} (hc : c.isLower = true) : c.isAlpha = true := by
  unfold Char.isAlpha
  rw [hc, Bool.or_true]

theorem isHtmlSpace_of_isLower {c : Char} (hc : c.isLower = true) : isHtmlSpace c = false := by
  simp [isHtmlSpace, ne_of_test hc]

namespace Lexer

variable {c : Char} (draft : TagDraft) (last : String) (inForeign : Bool)

/-- A small letter goes on with the name of a tag. -/
theorem step_tagName_lower (hc : c.isLower = true) :
    step ⟨.tagName, draft, last⟩ inForeign c =
      (⟨.tagName, { draft with name := c :: draft.name }, last⟩, []) := by
  simp [step, stepTagName, draftTo, TagDraft.pushName, replaceNull, isHtmlSpace_of_isLower hc,
    ne_of_test hc, toLower_of_isLower hc]

theorem step_tag_lower (hc : c.isLower = true) :
    step ⟨.tag, draft, last⟩ inForeign c = (⟨.tagName, { name := [c] }, last⟩, []) := by
  simp [step, stepTag, draftTo, TagDraft.pushName, ne_of_test hc, toLower_of_isLower hc,
    isAlpha_of_isLower hc]

theorem step_endTag_lower (hc : c.isLower = true) :
    step ⟨.endTag, draft, last⟩ inForeign c =
      (⟨.tagName, { isEnd := true, name := [c] }, last⟩, []) := by
  simp [step, stepEndTag, draftTo, TagDraft.pushName, toLower_of_isLower hc,
    isAlpha_of_isLower hc]

end Lexer

theorem Reader.feed_eq {lx : Lexer} {c : Char} (h : r.lexer.step r.builder.atForeign c = (lx, [])) :
    r.feed c = { r with lexer := lx } := by
  rw [feed, h]
  rfl

theorem reads_tagNameRest {cs : List Char} (hlower : ∀ c ∈ cs, c.isLower = true) (draft : TagDraft)
    (last : String) :
    Reads { r with lexer := ⟨.tagName, draft, last⟩ } (cs ++ ['>'])
      (r.accept ((⟨.tagName, draft, last⟩ : Lexer).emitTag
        { draft with name := cs.reverse ++ draft.name })) := by
  induction cs generalizing draft with
  | nil => exact .cons rfl (.nil _)
  | cons c cs ih =>
    have hrest := ih (fun d hd => hlower d (List.mem_cons_of_mem c hd))
      { draft with name := c :: draft.name }
    refine .cons rfl ?_
    rw [Reader.feed_eq (Lexer.step_tagName_lower _ _ _ (hlower c List.mem_cons_self))]
    simpa [Lexer.emitTag] using hrest

/-- Whether a text can be the name of a tag as it is. -/
def IsTagName (name : String) : Prop :=
  name.toList ≠ [] ∧ name.toList.all Char.isLower = true

instance (name : String) : Decidable (IsTagName name) :=
  inferInstanceAs (Decidable (name.toList ≠ [] ∧ name.toList.all Char.isLower = true))

theorem IsTagName.exists_eq_cons {name : String} (h : IsTagName name) :
    ∃ c cs, name.toList = c :: cs ∧ ∀ d ∈ c :: cs, d.isLower = true := by
  obtain ⟨c, cs, hlist⟩ := List.exists_cons_of_ne_nil h.1
  exact ⟨c, cs, hlist, hlist ▸ List.all_eq_true.1 h.2⟩

/-- Reads a tag behind the first letter of its name. -/
theorem reads_tagName {name : String} {c : Char} {cs : List Char} (hname : name.toList = c :: cs)
    (hlower : ∀ d ∈ c :: cs, d.isLower = true) (isEnd : Bool) (last : String) :
    Reads { r with lexer := ⟨.tagName, { isEnd := isEnd, name := [c] }, last⟩ } (cs ++ ['>'])
      (({ r with lexer := ⟨.data, {}, if isEnd then last else name⟩ } : Reader).treat
        (if isEnd then .endTag name else .startTag ⟨name, [], false⟩)) := by
  have hrest := reads_tagNameRest (r := r) (fun d hd => hlower d (List.mem_cons_of_mem c hd))
    { isEnd := isEnd, name := [c] } last
  have hwhole : String.ofList (c :: cs) = name := by rw [← hname, String.ofList_toList]
  simpa [Lexer.emitTag, TagDraft.nameText, TagDraft.token, TagDraft.endAttribute, hwhole,
    Reader.accept] using hrest

/-- Reads a start tag. -/
theorem reads_startTag (hlexer : r.lexer.state = .data) {name : String} (hname : IsTagName name) :
    Reads r ('<' :: name.toList ++ ['>'])
      (({ r with lexer := ⟨.data, {}, name⟩ } : Reader).treat (.startTag ⟨name, [], false⟩)) := by
  obtain ⟨c, cs, hlist, hlower⟩ := hname.exists_eq_cons
  obtain ⟨⟨state, draft, last⟩, b, a⟩ := r
  obtain rfl : state = .data := hlexer
  have hless : Reader.feed ⟨⟨.data, draft, last⟩, b, a⟩ '<' = ⟨⟨.tag, draft, last⟩, b, a⟩ := rfl
  rw [hlist]
  refine .cons rfl (.cons rfl ?_)
  rw [hless, Reader.feed_eq (Lexer.step_tag_lower _ _ _ (hlower c List.mem_cons_self))]
  exact reads_tagName (r := ⟨⟨.data, draft, last⟩, b, a⟩) hlist hlower false last

/-- Reads an end tag. -/
theorem reads_endTag (hlexer : r.lexer.state = .data) {name : String} (hname : IsTagName name)
    {b' : Builder} (htreat : r.builder.treat (.endTag name) = b'.done) :
    Reads r ('<' :: '/' :: name.toList ++ ['>'])
      { r with lexer := ⟨.data, {}, r.lexer.lastStart⟩, builder := b' } := by
  rw [← Reader.treat_eq (r := { r with lexer := ⟨.data, {}, r.lexer.lastStart⟩ }) htreat]
  obtain ⟨c, cs, hlist, hlower⟩ := hname.exists_eq_cons
  obtain ⟨⟨state, draft, last⟩, b, a⟩ := r
  obtain rfl : state = .data := hlexer
  have hless : Reader.feed ⟨⟨.data, draft, last⟩, b, a⟩ '<' = ⟨⟨.tag, draft, last⟩, b, a⟩ := rfl
  have hslash : Reader.feed ⟨⟨.tag, draft, last⟩, b, a⟩ '/' = ⟨⟨.endTag, draft, last⟩, b, a⟩ := rfl
  rw [hlist]
  refine .cons rfl (.cons rfl (.cons rfl ?_))
  rw [hless, hslash, Reader.feed_eq (Lexer.step_endTag_lower _ _ _ (hlower c List.mem_cons_self))]
  exact reads_tagName (r := ⟨⟨.data, draft, last⟩, b, a⟩) hlist hlower true last

end Flashcard.Html
