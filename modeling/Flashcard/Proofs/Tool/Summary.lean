import Flashcard.Proofs.Html.PageText
import Flashcard.Proofs.Text.Decimal
import Flashcard.Proofs.Text.Words
import Flashcard.Tool.Output

/-!
# The summary of a card

The line of a card holds its ordinal and the words of its two sides, and nothing of the documents
around them (`summarize_pages`): what a page shows around its side is white space
(`documentText_page`), and white space does not reach the line.
-/

namespace Flashcard

namespace Html

theorem wordsFrom_lineEnds (word s : List Char) :
    wordsFrom word (lineEnds s) = wordsFrom word s := by
  have hreturn : isSpace '\r' = true := by decide
  have hfeed : isSpace '\n' = true := by decide
  induction s using lineEnds_induction generalizing word with
  | nil => rfl
  | pair s ih =>
    simp only [lineEnds_pair, wordsFrom, hreturn, hfeed, if_true, ih]
    rfl
  | alone s hs ih =>
    simp only [lineEnds_return_cons hs, wordsFrom, hreturn, hfeed, if_true, ih]
  | other c s hc ih => simp only [lineEnds_cons hc, wordsFrom, ih]

/-- A line end is white space, however it is written. -/
theorem words_lineEnds (s : List Char) : words (lineEnds s) = words s := by
  rw [← wordsFrom_nil, wordsFrom_lineEnds, wordsFrom_nil]

end Html

namespace Tool

open Html

/-- What a page shows on a line are the words of its side. -/
theorem visibleLine_page {settings : Settings} {css body : String}
    (hfront : ¬ HoldsStyleEnd settings.frontColor.toList)
    (hback : ¬ HoldsStyleEnd settings.backColor.toList) (hcss : ¬ HoldsStyleEnd css.toList)
    (hbody : ∀ c ∈ body.toList, c ≠ '<' ∧ c ≠ '&' ∧ c ≠ '\x00') :
    visibleLine (page settings css body) = joinedWords body := by
  have hplain : ∀ c ∈ body.toList, c ≠ '<' ∧ c ≠ '&' := fun c hc =>
    ⟨(hbody c hc).1, (hbody c hc).2.1⟩
  have hshown := documentText_page hfront hback hcss hplain
  have hmarkup : mayHoldMarkup (page settings css body) = true := by
    refine List.any_eq_true.2 ⟨'<', ?_, by decide⟩
    rw [toList_page, pageSource]
    exact List.mem_append_left _ (by decide)
  have hnull := forall_mem_lineEnds_side (p := fun c => c ≠ '\x00') (by decide) (by decide)
    fun c hc => (hbody c hc).2.2
  rw [visibleLine, collapseSpace_eq, joinedWords, visibleText, if_pos hmarkup, String.toList_ofList,
    hshown, withoutNull_eq_self fun h => hnull _ h rfl, words_append_of_forall,
    words_append_eq_self, words_lineEnds, String.toList_append, String.toList_append,
    words_append_eq_self, words_append_of_forall, joinedWords]
  · exact List.all_eq_true.1 rfl
  · exact List.all_eq_true.1 rfl
  · exact List.all_eq_true.1 rfl
  · intro c hc
    simp only [List.mem_append, or_assoc] at hc
    rcases hc with hc | hc | hc | hc <;>
      exact forall_mem_indent (p := fun c => isSpace c = true) rfl rfl _ c hc

/-- The summary of one card is one line with its ordinal and the words of its sides. No style
reaches it, and all its white space are single spaces. -/
theorem summarize_pages (ord : Ordinal) (settings : Settings) (css front back : String)
    (hfrontColor : ¬ HoldsStyleEnd settings.frontColor.toList)
    (hbackColor : ¬ HoldsStyleEnd settings.backColor.toList) (hcss : ¬ HoldsStyleEnd css.toList)
    (hfront : ∀ c ∈ front.toList, c ≠ '<' ∧ c ≠ '&' ∧ c ≠ '\x00')
    (hback : ∀ c ∈ back.toList, c ≠ '<' ∧ c ≠ '&' ∧ c ≠ '\x00') :
    let line := "card " ++ toString ord ++ ": " ++ joinedWords front ++ " | " ++ joinedWords back
    summarize [⟨ord, some ⟨page settings css front, page settings css back⟩⟩] = [line] ∧
      ∀ c ∈ line.toList, isSpace c = true → c = ' ' := by
  constructor
  · rw [summarize, List.map_singleton, summarizeCard]
    simp only [visibleLine_page hfrontColor hbackColor hcss hfront,
      visibleLine_page hfrontColor hbackColor hcss hback, String.append_assoc]
  · intro c hc
    simp only [String.toList_append, List.mem_append, or_assoc] at hc
    have hdigits : (toString ord).toList = Nat.toDigits 10 ord.toNat := String.toList_ofList
    have hfixed {s : String} (hs : (s.toList.all fun c => isSpace c → c = ' ') = true)
        (hc : c ∈ s.toList) : isSpace c = true → c = ' ' :=
      of_decide_eq_true (List.all_eq_true.1 hs c hc)
    rcases hc with hc | hc | hc | hc | hc | hc
    · exact hfixed rfl hc
    · rw [hdigits] at hc
      exact fun hspace =>
        absurd hspace (not_isSpace_of_isDecimalDigit (isDecimalDigit_of_mem_toDigits hc))
    · exact hfixed rfl hc
    · exact eq_space_of_mem_joinedWords hc
    · exact hfixed rfl hc
    · exact eq_space_of_mem_joinedWords hc

theorem summarize_pages_odd_styles :
    (¬ HoldsStyleEnd "red;</Styl<style>&amp;".toList ∧ ¬ HoldsStyleEnd "\"</sty</styl".toList ∧
      ¬ HoldsStyleEnd "<!-- </title><body>a</s".toList ∧
      (∀ c ∈ "\r\n\tone \u00A0 two\r".toList, c ≠ '<' ∧ c ≠ '&' ∧ c ≠ '\x00') ∧
      ∀ c ∈ "3 > 2\u2028".toList, c ≠ '<' ∧ c ≠ '&' ∧ c ≠ '\x00') ∧
    summarize [⟨.first, some
      ⟨page ⟨"...", "red;</Styl<style>&amp;", "\"</sty</styl"⟩ "<!-- </title><body>a</s"
          "\r\n\tone \u00A0 two\r",
        page ⟨"...", "red;</Styl<style>&amp;", "\"</sty</styl"⟩ "<!-- </title><body>a</s"
          "3 > 2\u2028"⟩⟩] = ["card 0: one two | 3 > 2"] := by
  have hfrontColor : ¬ HoldsStyleEnd "red;</Styl<style>&amp;".toList := by decide +kernel
  have hbackColor : ¬ HoldsStyleEnd "\"</sty</styl".toList := by decide +kernel
  have hcss : ¬ HoldsStyleEnd "<!-- </title><body>a</s".toList := by decide +kernel
  have hplain {s : String} (hs : (s.toList.all fun c => c ≠ '<' ∧ c ≠ '&' ∧ c ≠ '\x00') = true) :
      ∀ c ∈ s.toList, c ≠ '<' ∧ c ≠ '&' ∧ c ≠ '\x00' := fun c hc =>
    of_decide_eq_true (List.all_eq_true.1 hs c hc)
  have hfront : ∀ c ∈ "\r\n\tone \u00A0 two\r".toList, c ≠ '<' ∧ c ≠ '&' ∧ c ≠ '\x00' :=
    hplain (by decide)
  have hback : ∀ c ∈ "3 > 2\u2028".toList, c ≠ '<' ∧ c ≠ '&' ∧ c ≠ '\x00' := hplain (by decide)
  obtain ⟨hsummary, -⟩ := summarize_pages .first
    ⟨"...", "red;</Styl<style>&amp;", "\"</sty</styl"⟩ _ _ _ hfrontColor hbackColor hcss hfront
    hback
  refine ⟨⟨hfrontColor, hbackColor, hcss, hfront, hback⟩, ?_⟩
  rw [hsummary]
  decide +kernel

end Tool

end Flashcard
