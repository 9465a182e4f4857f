import Flashcard.Proofs.Html.OpenText

/-!
# Raw text

In the raw text of an element only the end tag of that element is read, in any letter case. What
may be the beginning of it is held back until the next characters decide. So all characters come
out in the order of the text (`Passes`), and a text in which the beginning of the end tag stands
nowhere is the content of the element, whatever else it holds (`reads_rawText`).
-/

namespace Flashcard.Html

theorem replaceNull_ne (c : Char) : replaceNull c ≠ '\x00' := by
  rw [replaceNull]
  split
  · decide
  · next h => simpa using h

/-- The characters that a lexer in raw text holds back, as the beginning of an end tag. -/
inductive Held : Lexer → List Char → Prop
  | text (draft : TagDraft) (last : String) : Held ⟨.raw .plain, draft, last⟩ []
  | less (draft : TagDraft) (last : String) : Held ⟨.rawLess .plain, draft, last⟩ ['<']
  | slash (draft : TagDraft) (last : String) : Held ⟨.rawEndTag .plain, draft, last⟩ ['<', '/']
  | name (letters : List Char) (draft : TagDraft) (last : String)
      (halpha : ∀ c ∈ letters, c.isAlpha = true)
      (hname : draft.name = letters.map Char.toLower) :
      Held ⟨.rawEndTagName .plain letters, draft, last⟩ ('<' :: '/' :: letters.reverse)

/-- Whether a lexer that holds back `held` gives out `given` and holds back `kept` after the text
`s`: no character is lost. -/
structure Passes (lx : Lexer) (held s : List Char) (lx' : Lexer) (given kept : List Char) :
    Prop where
  holds : Held lx' kept
  lastStart_eq : lx'.lastStart = lx.lastStart
  append_eq : given ++ kept = held ++ s.map replaceNull
  suffix : kept <:+ held ++ s

namespace Passes

variable {lx lx' lx'' : Lexer} {held kept kept' given given' s t : List Char}

theorem nil (h : Held lx held) : Passes lx held [] lx [] held :=
  ⟨h, rfl, by simp, by simp⟩

theorem append (h : Passes lx held s lx' given kept) (h' : Passes lx' kept t lx'' given' kept') :
    Passes lx held (s ++ t) lx'' (given ++ given') kept' where
  holds := h'.holds
  lastStart_eq := h'.lastStart_eq.trans h.lastStart_eq
  append_eq := by
    rw [List.append_assoc, h'.append_eq, ← List.append_assoc, h.append_eq, List.append_assoc,
      List.map_append]
  suffix := by
    obtain ⟨front, hfront⟩ := h.suffix
    exact h'.suffix.trans ⟨front, by rw [← List.append_assoc, hfront, List.append_assoc]⟩

/-- A character that the end tag may go on with is held back as well. -/
theorem of_longer {c : Char} (hholds : Held lx' (held ++ [c]))
    (hlast : lx'.lastStart = lx.lastStart) (hnull : c ≠ '\x00') :
    Passes lx held [c] lx' [] (held ++ [c]) where
  holds := hholds
  lastStart_eq := hlast
  append_eq := by simp [replaceNull, hnull]
  suffix := List.suffix_rfl

end Passes

/-- Whether a lexer takes one character of raw text. An opening sign begins the end tag anew. -/
def PassesOne (lx : Lexer) (held : List Char) (c : Char) (out : Lexer × List Token) : Prop :=
  ∃ given kept, out.2 = given.map .char ∧ Passes lx held [c] out.1 given kept ∧
    (c = '<' → kept = ['<'])

namespace PassesOne

/-- What is held back comes out if the next character does not belong to an end tag. -/
theorem after (lx : Lexer) (held : List Char) (c : Char) :
    PassesOne lx held c (Lexer.after held (lx.stepRaw .plain c)) := by
  by_cases hc : c = '<'
  · subst hc
    exact ⟨held, ['<'], by simp [Lexer.after, Lexer.stepRaw, Lexer.goto],
      ⟨.less _ _, rfl, rfl, List.suffix_append _ _⟩, fun _ => rfl⟩
  · have hraw : lx.stepRaw .plain c = lx.emit (.raw .plain) [replaceNull c] := by
      rw [Lexer.stepRaw.eq_def]
      split <;> simp_all
    rw [hraw]
    exact ⟨held ++ [replaceNull c], [], by simp [Lexer.after, Lexer.emit],
      ⟨.text _ _, rfl, List.append_nil _, List.nil_suffix⟩, fun h => absurd h hc⟩

theorem of_longer {lx lx' : Lexer} {held : List Char} {c : Char} (hholds : Held lx' (held ++ [c]))
    (hlast : lx'.lastStart = lx.lastStart) (hnull : c ≠ '\x00') (hless : c ≠ '<') :
    PassesOne lx held c (lx', []) :=
  ⟨[], _, rfl, .of_longer hholds hlast hnull, fun h => absurd h hless⟩

end PassesOne

namespace Held

variable {lx : Lexer} {held : List Char}

/-- The step lemma of raw text: as long as the name of the end tag is not complete, every character
passes. -/
theorem passesOne (h : Held lx held)
    (hend : held.map Char.toLower ≠ '<' :: '/' :: lx.lastStart.toList) (inForeign : Bool)
    (c : Char) : PassesOne lx held c (lx.step inForeign c) := by
  cases h with
  | text draft last => exact PassesOne.after ⟨.raw .plain, draft, last⟩ [] c
  | less draft last =>
    by_cases hslash : c = '/'
    · subst hslash
      exact .of_longer (.slash draft last) rfl (by decide) (by decide)
    · have hstep : Lexer.step ⟨.rawLess .plain, draft, last⟩ inForeign c =
          Lexer.after ['<'] (Lexer.stepRaw ⟨.rawLess .plain, draft, last⟩ .plain c) := by
        simp [Lexer.step, Lexer.stepRawLess, hslash]
      exact hstep ▸ PassesOne.after _ _ c
  | slash draft last =>
    by_cases halpha : c.isAlpha = true
    · have hstep : Lexer.step ⟨.rawEndTag .plain, draft, last⟩ inForeign c =
          (⟨.rawEndTagName .plain [c], { isEnd := true, name := [c.toLower] }, last⟩, []) := by
        simp [Lexer.step, Lexer.stepRawEndTag, halpha, Lexer.draftTo, TagDraft.pushName]
      rw [hstep]
      exact .of_longer (.name [c] _ last (by simpa using halpha) rfl) rfl
        (ne_of_test halpha (by decide)) (ne_of_test halpha (by decide))
    · have hstep : Lexer.step ⟨.rawEndTag .plain, draft, last⟩ inForeign c =
          Lexer.after ['<', '/'] (Lexer.stepRaw ⟨.rawEndTag .plain, draft, last⟩ .plain c) := by
        simp [Lexer.step, Lexer.stepRawEndTag, halpha]
      exact hstep ▸ PassesOne.after _ _ c
  | name letters draft last hletters hname =>
    have hother : (draft.nameText == last) = false := by
      rw [beq_eq_false_iff_ne]
      rintro rfl
      simp [TagDraft.nameText, hname, List.map_reverse] at hend
    by_cases halpha : c.isAlpha = true
    · have hstep : Lexer.step ⟨.rawEndTagName .plain letters, draft, last⟩ inForeign c =
          (⟨.rawEndTagName .plain (c :: letters), draft.pushName c, last⟩, []) := by
        simp [Lexer.step, Lexer.stepRawEndTagName, hother, halpha, Lexer.draftTo]
      have hlonger := Held.name (c :: letters) (draft.pushName c) last
        (List.forall_mem_cons.2 ⟨halpha, hletters⟩) (by simp [TagDraft.pushName, hname])
      rw [hstep]
      exact .of_longer (by simpa using hlonger) rfl (ne_of_test halpha (by decide))
        (ne_of_test halpha (by decide))
    · have hstep : Lexer.step ⟨.rawEndTagName .plain letters, draft, last⟩ inForeign c =
          Lexer.after (['<', '/'] ++ letters.reverse)
            (Lexer.stepRaw ⟨.rawEndTagName .plain letters, draft, last⟩ .plain c) := by
        simp [Lexer.step, Lexer.stepRawEndTagName, hother, halpha]
      exact hstep ▸ PassesOne.after _ _ c

theorem null_notMem (h : Held lx held) : '\x00' ∉ held := by
  cases h with
  | text | less | slash => simp
  | name letters _ _ hletters =>
    simp only [List.mem_cons, List.mem_reverse, not_or]
    exact ⟨by decide, by decide, fun hnull => absurd (hletters _ hnull) (by decide)⟩

theorem inName_eq (h : Held lx held) : lx.inName = false := by
  cases h <;> rfl

end Held

theorem Passes.null_notMem {lx lx' : Lexer} {held s given kept : List Char}
    (h : Passes lx held s lx' given kept) (hheld : Held lx held) : '\x00' ∉ given := by
  intro hmem
  have hmem : '\x00' ∈ held ++ s.map replaceNull := h.append_eq ▸ List.mem_append_left kept hmem
  rcases List.mem_append.1 hmem with hmem | hmem
  · exact hheld.null_notMem hmem
  · obtain ⟨c, -, hc⟩ := List.mem_map.1 hmem
    exact replaceNull_ne c hc

namespace Held

variable {lx : Lexer} {held : List Char} {r : Reader} {id : Nat}

/-- A character of raw text as the reader takes it. -/
theorem exists_feed (hopen : r.builder.Open .text id) (h : Held r.lexer held)
    (hend : held.map Char.toLower ≠ '<' :: '/' :: r.lexer.lastStart.toList) (c : Char) :
    ∃ lx given kept, r.feed c = { r with lexer := lx, builder := r.builder.put id given } ∧
      Passes r.lexer held [c] lx given kept ∧ (c = '<' → kept = ['<']) := by
  obtain ⟨given, kept, htokens, hpasses, hless⟩ := h.passesOne hend r.builder.atForeign c
  refine ⟨_, given, kept, ?_, hpasses, hless⟩
  have htext : ∀ d ∈ given, Mode.text.admits d = true := fun d hd =>
    bne_iff_ne.2 fun hnull => hpasses.null_notMem h (hnull ▸ hd)
  rw [Reader.feed, Reader.accept, htokens]
  exact Reader.foldl_treat_chars (r := { r with lexer := (r.lexer.step r.builder.atForeign c).1 })
    hopen htext

/-- The run lemma of raw text: the text goes into the open element, except for what may
still be the beginning of the end tag. -/
theorem exists_reads (hopen : r.builder.Open .text id) (h : Held r.lexer held) {s : List Char}
    (hend : ¬ '<' :: '/' :: r.lexer.lastStart.toList <:+: (held ++ s).map Char.toLower) :
    ∃ lx given kept, Reads r s { r with lexer := lx, builder := r.builder.put id given } ∧
      Passes r.lexer held s lx given kept := by
  induction s generalizing r held with
  | nil =>
    refine ⟨r.lexer, [], held, ?_, .nil h⟩
    rw [Builder.put_nil]
    exact .nil r
  | cons c s ih =>
    -- what is held back is no complete end tag, as it begins a text that holds none
    have hhere : held.map Char.toLower ≠ '<' :: '/' :: r.lexer.lastStart.toList := by
      intro hheld
      exact hend (hheld ▸ ((List.prefix_append held (c :: s)).map Char.toLower).isInfix)
    obtain ⟨lx, given, kept, hfeed, hpasses, -⟩ := h.exists_feed hopen hhere c
    have hrest : kept ++ s <:+ held ++ c :: s := by
      obtain ⟨front, hfront⟩ := hpasses.suffix
      exact ⟨front, by rw [← List.append_assoc, hfront, List.append_assoc, List.singleton_append]⟩
    obtain ⟨lx', given', kept', hreads, hpasses'⟩ :=
      ih (r := { r with lexer := lx, builder := r.builder.put id given }) (hopen.put given)
        hpasses.holds (by
          rw [hpasses.lastStart_eq]
          exact fun hlater => hend (hlater.trans (hrest.map Char.toLower).isInfix))
    refine ⟨lx', given ++ given', kept', .cons h.inName_eq ?_, hpasses.append hpasses'⟩
    rw [hfeed]
    rwa [Builder.put_put] at hreads

end Held

/-! ### The end tag -/

variable {r : Reader} {id : Nat}

theorem Lexer.step_rawEndTagName_lower {c : Char} (hc : c.isLower = true) (letters : List Char)
    (draft : TagDraft) (last : String) (inForeign : Bool) :
    step ⟨.rawEndTagName .plain letters, draft, last⟩ inForeign c =
      (⟨.rawEndTagName .plain (c :: letters), { draft with name := c :: draft.name }, last⟩,
        []) := by
  simp [step, stepRawEndTagName, draftTo, TagDraft.pushName, isHtmlSpace_of_isLower hc,
    ne_of_test hc, toLower_of_isLower hc, isAlpha_of_isLower hc]

/-- Reads the rest of the end tag that ends the raw text. -/
theorem reads_rawEndTagName {cs : List Char} (hlower : ∀ c ∈ cs, c.isLower = true)
    (letters : List Char) {draft : TagDraft} {name : String} (hend : draft.isEnd = true)
    (hname : String.ofList (draft.name.reverse ++ cs) = name) :
    Reads { r with lexer := ⟨.rawEndTagName .plain letters, draft, name⟩ } (cs ++ ['>'])
      (({ r with lexer := ⟨.data, {}, name⟩ } : Reader).treat (.endTag name)) := by
  induction cs generalizing letters draft with
  | nil =>
    have hwhole : draft.nameText = name := by rw [TagDraft.nameText, ← hname, List.append_nil]
    have hfeed : Reader.feed { r with lexer := ⟨.rawEndTagName .plain letters, draft, name⟩ } '>' =
        (({ r with lexer := ⟨.data, {}, name⟩ } : Reader).treat (.endTag name)) := by
      simp [Reader.feed, Lexer.step, Lexer.stepRawEndTagName, Lexer.emitTag, TagDraft.token, hwhole,
        hend, Reader.accept, isHtmlSpace]
    exact .cons rfl (hfeed ▸ .nil _)
  | cons c cs ih =>
    refine .cons rfl ?_
    rw [Reader.feed_eq (Lexer.step_rawEndTagName_lower (hlower c List.mem_cons_self) _ _ _ _)]
    exact ih (fun d hd => hlower d (List.mem_cons_of_mem c hd)) _ hend (by simpa using hname)

theorem reads_rawEndTag {name : String} (hname : IsTagName name) (draft : TagDraft) :
    Reads { r with lexer := ⟨.rawEndTag .plain, draft, name⟩ } (name.toList ++ ['>'])
      (({ r with lexer := ⟨.data, {}, name⟩ } : Reader).treat (.endTag name)) := by
  obtain ⟨c, cs, hlist, hlower⟩ := hname.exists_eq_cons
  have hc := hlower c List.mem_cons_self
  have hstep (inForeign : Bool) : Lexer.step ⟨.rawEndTag .plain, draft, name⟩ inForeign c =
      (⟨.rawEndTagName .plain [c], { isEnd := true, name := [c] }, name⟩, []) := by
    simp [Lexer.step, Lexer.stepRawEndTag, Lexer.draftTo, TagDraft.pushName, isAlpha_of_isLower hc,
      toLower_of_isLower hc]
  have hwhole : String.ofList (c :: cs) = name := by rw [← hlist, String.ofList_toList]
  rw [hlist]
  refine .cons rfl ?_
  rw [Reader.feed_eq (hstep _)]
  exact reads_rawEndTagName (fun d hd => hlower d (List.mem_cons_of_mem c hd)) _ rfl hwhole

/-- A text in raw text that holds no beginning of the end tag is the content of the element. -/
theorem reads_rawText (hopen : r.builder.Open .text id) (hlexer : r.lexer.state = .raw .plain)
    (hname : IsTagName r.lexer.lastStart) {s : List Char}
    (hs : ¬ '<' :: '/' :: r.lexer.lastStart.toList <:+: s.map Char.toLower) :
    Reads r (s ++ ('<' :: '/' :: r.lexer.lastStart.toList ++ ['>']))
      (({ r with
        lexer := ⟨.data, {}, r.lexer.lastStart⟩
        builder := r.builder.put id (s.map replaceNull) } : Reader).treat
          (.endTag r.lexer.lastStart)) := by
  have hstart : Held r.lexer [] := by
    obtain ⟨⟨state, draft, last⟩, b, a⟩ := r
    obtain rfl : state = .raw .plain := hlexer
    exact .text draft last
  obtain ⟨lx, given, kept, hreads, hpasses⟩ := hstart.exists_reads hopen hs
  have hhere : kept.map Char.toLower ≠ '<' :: '/' :: lx.lastStart.toList := by
    rw [hpasses.lastStart_eq]
    exact fun hkept => hs (hkept ▸ (hpasses.suffix.map Char.toLower).isInfix)
  -- the opening sign of the end tag brings out what has been held back until then
  obtain ⟨lx', given', kept', hfeed, hpasses', hless⟩ :=
    hpasses.holds.exists_feed (r := { r with lexer := lx, builder := r.builder.put id given })
      (hopen.put given) hhere '<'
  obtain rfl := hless rfl
  have hlast : lx'.lastStart = r.lexer.lastStart := by
    rw [hpasses'.lastStart_eq, hpasses.lastStart_eq]
  have htext : given ++ given' = s.map replaceNull := by
    have hall := (hpasses.append hpasses').append_eq
    rw [List.nil_append, List.map_append] at hall
    exact (List.append_inj' hall rfl).1
  refine hreads.append (.cons hpasses.holds.inName_eq ?_)
  rw [hfeed, Builder.put_put, htext]
  cases hpasses'.holds with
  | less draft last =>
    obtain rfl : last = r.lexer.lastStart := hlast
    exact .cons rfl (reads_rawEndTag
      (r := { r with builder := r.builder.put id (s.map replaceNull) }) hname draft)

end Flashcard.Html
