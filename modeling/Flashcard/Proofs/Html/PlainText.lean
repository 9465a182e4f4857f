import Flashcard.Proofs.Html.OpenText
import Flashcard.Stripper
import Mathlib.Data.List.TakeWhile

/-!
# Documents without markup

A text without tags and references is a document whose body holds the text. Reading it is not
the identity: a byte order mark and white space at the front are passed over, null characters are
left out, and every line end becomes a line feed. `documentText_plain` says that nothing else
changes, so `visibleText`, which does not read such a text, shows it as reading it would
exactly if it has none of these.
-/

namespace Flashcard

namespace Html

/-- What a text without markup shows when it is read as a document. -/
def plainText (s : List Char) : List Char :=
  withoutNull ((lineEnds (dropByteOrderMark s)).dropWhile isHtmlSpace)

namespace Builder

/-- A builder in the empty body of a document that leaves out all of its tags. -/
def bareBody : Builder :=
  { start with
    tree := ⟨#[⟨.html, "html", [], none, [.element 2, .element 1]⟩,
      ⟨.html, "head", [], some 0, []⟩, ⟨.html, "body", [], some 0, []⟩]⟩
    mode := .inBody
    stack := [2, 0]
    head := some 1 }

theorem open_bareBody : bareBody.Open .inBody 2 where
  mode_eq := rfl
  head?_stack := rfl
  html := ⟨_, rfl, rfl⟩
  formatting_eq := rfl
  fostering_eq := rfl
  skipNewline_eq := rfl

theorem start_treat_space {c : Char} (hc : isHtmlSpace c = true) :
    start.treat (.char c) = start.done := by
  rw [treat_eq_run rfl (.char c) nofun nofun]
  simp [run, step, start, isForeign, initial, hc, done]

theorem run_again {fuel : Nat} {b b' : Builder} {t : Token} (hforeign : b.isForeign t = false)
    (hstep : b.step t = (b', .again)) : run (fuel + 1) b t = run fuel b' t := by
  rw [run, hforeign, if_neg Bool.false_ne_true, hstep]

/-- The first character that is not white space opens the root, the head and the body. -/
theorem run_start {c : Char} (hc : isHtmlSpace c = false) :
    run 40 start (.char c) = run 35 bareBody (.char c) := by
  let root := (start.setMode .beforeHtml).insertRoot.setMode .beforeHead
  let head := (root.openHead ⟨"head", [], false⟩).setMode .inHead
  calc run 40 start (.char c)
    _ = run 39 (start.setMode .beforeHtml) (.char c) :=
      run_again rfl (by simp [step, start, initial, hc, again])
    _ = run 38 root (.char c) :=
      run_again rfl (by simp [step, setMode, beforeHtml, hc, again, root])
    _ = run 37 head (.char c) :=
      run_again rfl (by simp [root, step, setMode, beforeHead, hc, again, head])
    _ = run 36 (head.pop.setMode .afterHead) (.char c) :=
      run_again rfl (by simp [head, step, setMode, inHead, hc, again])
    _ = run 35 bareBody (.char c) :=
      run_again rfl (by simp only [step, setMode, afterHead, hc, if_neg Bool.false_ne_true]; rfl)

theorem start_treat_char {c : Char} (hc : isHtmlSpace c = false) :
    start.treat (.char c) = (bareBody.put 2 [c]).done := by
  rw [treat_eq_run rfl (.char c) nofun nofun]
  change run 40 start (.char c) = _
  rw [run_start hc, run, open_bareBody.isForeign_eq, if_neg Bool.false_ne_true,
    open_bareBody.step_char rfl]
  rfl

theorem text_bareBody (cs : List Char) : (bareBody.put 2 cs).tree.text 0 = withoutNull cs := by
  have htree : (bareBody.put 2 cs).tree = ⟨#[⟨.html, "html", [], none, [.element 2, .element 1]⟩,
      ⟨.html, "head", [], some 0, []⟩,
      ⟨.html, "body", [], some 0, (withoutNull cs).reverse.map .char ++ []⟩]⟩ := rfl
  rw [htree]
  simp [Tree.text, Tree.textWithin, Tree.element?, Tree.hidden, List.flatMap_map]

end Builder

/-- Reads a text without tags and references from the front of a document to its end. -/
theorem exists_reads_plain {s : List Char} (hs : ∀ c ∈ s, c ≠ '<' ∧ c ≠ '&') :
    ∃ r, Reads .start s r ∧
      r.finish.builder = Builder.bareBody.put 2 (s.dropWhile isHtmlSpace) := by
  have hfront : Reads .start (s.takeWhile isHtmlSpace) .start := by
    refine reads_ignored rfl fun c hc => ?_
    obtain ⟨hless, hand⟩ := hs c ((List.takeWhile_prefix _).subset hc)
    exact ⟨hless, hand, Builder.start_treat_space (List.mem_takeWhile_imp hc)⟩
  rw [← List.takeWhile_append_dropWhile (p := isHtmlSpace) (l := s)] at hs
  have hwhole := List.takeWhile_append_dropWhile (p := isHtmlSpace) (l := s)
  cases hrest : s.dropWhile isHtmlSpace with
  | nil =>
    rw [hrest, List.append_nil] at hwhole
    exact ⟨.start, hwhole ▸ hfront, rfl⟩
  | cons c rest =>
    rw [hrest] at hs hwhole
    have hc : isHtmlSpace c = false := by
      have := List.head?_dropWhile_not isHtmlSpace s
      simpa [hrest] using this
    obtain ⟨hless, hand⟩ := hs c (by simp)
    let r : Reader := { Reader.start with builder := Builder.bareBody.put 2 [c] }
    have hopen := Builder.open_bareBody.put [c]
    have hfirst : Reader.start.feed c = r := by
      rw [Reader.feed_data rfl hless hand, Reader.treat_eq (Builder.start_treat_char hc)]
    have hbody : Reads .start (c :: rest) { r with builder := r.builder.put 2 rest } := by
      refine .cons rfl ?_
      rw [hfirst]
      exact reads_text hopen rfl fun d hd => ⟨rfl, hs d (by simp [hd])⟩
    refine ⟨_, hwhole ▸ hfront.append hbody, ?_⟩
    rw [Reader.builder_finish rfl ((hopen.put rest).treat_stop rfl (by simp)), Builder.put_put]
    rfl

theorem dropByteOrderMark_suffix (s : List Char) : dropByteOrderMark s <:+ s := by
  rw [dropByteOrderMark.eq_def]
  split
  · exact List.suffix_cons _ _
  · exact List.suffix_rfl

theorem dropByteOrderMark_eq_self_iff {s : List Char} :
    dropByteOrderMark s = s ↔ s.head? ≠ some '\uFEFF' := by
  rw [dropByteOrderMark.eq_def]
  split
  · simp
  · next h =>
    cases s with
    | nil => simp
    | cons c s => simpa using fun hc => h s (by rw [hc])

theorem documentText_eq_plainText {s : List Char} (hs : ∀ c ∈ s, c ≠ '<' ∧ c ≠ '&') :
    documentText s = plainText s := by
  have hlines : ∀ c ∈ lineEnds (dropByteOrderMark s), c ≠ '<' ∧ c ≠ '&' :=
    forall_mem_lineEnds (by decide) fun c hc => hs c ((dropByteOrderMark_suffix s).subset hc)
  obtain ⟨r, hreads, hfinish⟩ := exists_reads_plain hlines
  rw [documentText, hreads.readDocument_eq, hfinish, Builder.text_bareBody, plainText]

/-- Reading changes a text without markup if it begins with a byte order mark or white space, and
if it holds a carriage return or a null character. -/
theorem plainText_eq_self_iff {s : List Char} :
    plainText s = s ↔
      (∀ c ∈ s.head?, c ≠ '\uFEFF' ∧ isHtmlSpace c = false) ∧ '\r' ∉ s ∧ '\x00' ∉ s := by
  have hspace : s.dropWhile isHtmlSpace = s ↔ ∀ c ∈ s.head?, isHtmlSpace c = false := by
    rw [List.dropWhile_eq_self_iff]
    cases s <;> simp
  constructor
  · intro h
    have hnull : '\x00' ∉ s := by
      rw [← h]
      simp [plainText, withoutNull]
    have hreturn : '\r' ∉ s := by
      intro hmem
      rw [← h] at hmem
      have hline := (List.dropWhile_suffix _).subset (List.mem_of_mem_filter hmem)
      exact (mem_of_mem_lineEnds hline (by decide)).2 rfl
    have hmark := dropByteOrderMark_suffix s
    have hfront := List.dropWhile_suffix (l := dropByteOrderMark s) isHtmlSpace
    rw [plainText, lineEnds_eq_self fun hc => hreturn (hmark.subset hc),
      withoutNull_eq_self fun hc => hnull (hmark.subset (hfront.subset hc))] at h
    -- what is passed over at the front is nothing, as the rest is the whole text
    rw [h] at hfront
    have hself : dropByteOrderMark s = s := hmark.eq_of_length_le hfront.length_le
    rw [hself, hspace] at h
    refine ⟨fun c hc => ⟨?_, h c hc⟩, hreturn, hnull⟩
    rintro rfl
    exact dropByteOrderMark_eq_self_iff.1 hself hc
  · rintro ⟨hhead, hreturn, hnull⟩
    have hself : dropByteOrderMark s = s :=
      dropByteOrderMark_eq_self_iff.2 fun h => (hhead _ h).1 rfl
    rw [plainText, hself, lineEnds_eq_self hreturn, hspace.2 fun c hc => (hhead c hc).2,
      withoutNull_eq_self hnull]

end Html

/-- What a text without markup shows when it is read as a document, and when that is the text
itself, which `visibleText` shows without reading it. -/
theorem documentText_plain (s : String) (h : mayHoldMarkup s = false) :
    Html.documentText s.toList = Html.plainText s.toList ∧
    (String.ofList (Html.documentText s.toList) = visibleText s ↔
      (∀ c ∈ s.toList.head?, c ≠ '\uFEFF' ∧ Html.isHtmlSpace c = false) ∧
        '\r' ∉ s.toList ∧ '\x00' ∉ s.toList) := by
  have hs : ∀ c ∈ s.toList, c ≠ '<' ∧ c ≠ '&' := by simpa [mayHoldMarkup] using h
  have hvisible : visibleText s = s := by rw [visibleText, h, if_neg Bool.false_ne_true]
  refine ⟨Html.documentText_eq_plainText hs, ?_⟩
  rw [Html.documentText_eq_plainText hs, hvisible, ← Html.plainText_eq_self_iff,
    ← String.toList_inj, String.toList_ofList]

theorem documentText_plain_marked_line_ends :
    mayHoldMarkup "\uFEFF\t a\r\nb\r\x00 " = false ∧
    Html.documentText "\uFEFF\t a\r\nb\r\x00 ".toList = "a\nb\n ".toList ∧
    ¬ String.ofList (Html.documentText "\uFEFF\t a\r\nb\r\x00 ".toList) =
      visibleText "\uFEFF\t a\r\nb\r\x00 " := by
  obtain ⟨htext, hself⟩ := documentText_plain "\uFEFF\t a\r\nb\r\x00 " (by decide)
  refine ⟨by decide, htext.trans (by decide), fun h => ?_⟩
  exact (hself.1 h).2.1 (by decide)

/-- A text without markup that shows otherwise when it is read: without the white space or the byte
order mark at its front, with another line end, or without a null character. A comment, which
shows nothing, is enough to have it read. -/
theorem visibleText_ne_documentText :
    (mayHoldMarkup " x" = false ∧ visibleText " x" = " x" ∧
      String.ofList (Html.documentText " x".toList) = "x" ∧ visibleText " x<!---->" = "x") ∧
    (mayHoldMarkup "\uFEFFx" = false ∧ visibleText "\uFEFFx" = "\uFEFFx" ∧
      String.ofList (Html.documentText "\uFEFFx".toList) = "x" ∧
      visibleText "\uFEFFx<!---->" = "x") ∧
    (mayHoldMarkup "x\r\ny" = false ∧ visibleText "x\r\ny" = "x\r\ny" ∧
      String.ofList (Html.documentText "x\r\ny".toList) = "x\ny" ∧
      visibleText "x\r\ny<!---->" = "x\ny") ∧
    (mayHoldMarkup "x\x00y" = false ∧ visibleText "x\x00y" = "x\x00y" ∧
      String.ofList (Html.documentText "x\x00y".toList) = "xy" ∧
      visibleText "x\x00y<!---->" = "xy") := by
  decide +kernel

end Flashcard
