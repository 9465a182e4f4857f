import Flashcard.Proofs.Directive.Tag

/-!
# Slots as tags

The pattern of one field's slots takes a tag exactly if the tag agrees with the keyword and the
name up to letter case (`patternFor_matchAt_tag`). The pattern of all slots takes a well-written
slot for what it is (`pattern_matchAt_slot`), and each slot that it finds stands in the text with
the keyword in some letter case (`exists_tag_of_mem_fields`).
-/

namespace Flashcard

namespace Slot

/-- What stands between the braces of a slot. -/
def inner (name : String) : List Char := slotKeyword ++ name.toList

theorem foldText_inner_inj {m n : String} :
    foldText (inner m) = foldText (inner n) ↔ foldText m.toList = foldText n.toList := by
  rw [inner, inner, foldText_append, foldText_append, List.append_cancel_left_eq]

theorem readFor?_eq_some_iff {name : String} {s rest : List Char} {a : String} :
    readFor? name s = some (a, rest) ↔
      ∃ x, foldText x = foldText (inner name) ∧ a = String.ofList (tag x) ∧ s = tag x ++ rest := by
  simp only [readFor?, Option.bind_eq_bind, Option.bind_eq_some_iff, after?_eq_some_iff,
    Prod.exists, takeFolded?_eq_some_iff, Option.some.injEq, Prod.mk.injEq]
  constructor
  · rintro ⟨_, rfl, x, _, ⟨rfl, hx⟩, _, rfl, rfl, rfl⟩
    exact ⟨x, hx, rfl, by simp [tag]⟩
  · rintro ⟨x, hx, rfl, rfl⟩
    exact ⟨x ++ closeBraces ++ rest, by simp [tag], x, _, ⟨List.append_assoc _ _ _, hx⟩, rest, rfl,
      rfl, rfl⟩

theorem patternFor_opens (name : String) : (patternFor name).Opens := by
  intro s hs
  obtain ⟨⟨a, rest⟩, hmatch⟩ := Option.ne_none_iff_exists'.1 hs
  obtain ⟨x, -, -, rfl⟩ := readFor?_eq_some_iff.1 hmatch
  exact ⟨_, (tag_append x rest).symm⟩

section PatternFor

variable {name : String} (hname : BraceFree name.toList)
include hname

theorem braceFree_inner : BraceFree (inner name) := braceFree_append.2 ⟨by decide, hname⟩

theorem patternFor_matchesTags : (patternFor name).MatchesTags := by
  intro s a rest h
  obtain ⟨x, hx, rfl, -⟩ := readFor?_eq_some_iff.1 h
  exact ⟨x, (braceFree_inner hname).of_foldText_eq hx, String.toList_ofList⟩

theorem patternFor_matchAt_tag {x : List Char} (hx : BraceFree x) (t : List Char) :
    (patternFor name).matchAt (tag x ++ t) =
      if foldText x = foldText (inner name) then some (String.ofList (tag x), t) else none := by
  change readFor? name (tag x ++ t) = _
  split
  · next h => exact readFor?_eq_some_iff.2 ⟨x, h, rfl, rfl⟩
  · next h =>
    rw [Option.eq_none_iff_forall_ne_some]
    rintro ⟨a, rest⟩ hsome
    obtain ⟨y, hy, -, heq⟩ := readFor?_eq_some_iff.1 hsome
    have hyfree := (braceFree_inner hname).of_foldText_eq hy
    obtain ⟨rfl, -⟩ := (tag_append_inj hx hyfree).1 heq
    exact h hy

end PatternFor

theorem pattern_opens : pattern.Opens :=
  Pattern.opens_of_text fun slot => by
    change openBraces <+: slot.text
    simp only [text, List.append_assoc]
    exact List.prefix_append _ _

theorem foldText_slotKeyword : foldText slotKeyword = slotKeyword := by decide

theorem read?_eq_some_keyword {s rest : List Char} {slot : Slot}
    (h : read? s = some (slot, rest)) : foldText slot.spelling.toList = slotKeyword := by
  simp only [read?, Option.bind_eq_bind, Option.bind_eq_some_iff] at h
  obtain ⟨s₁, -, ⟨written, s₂⟩, h₂, ⟨name, s₃⟩, -, h⟩ := h
  split at h
  · cases h
  · cases h
    simpa [foldText_slotKeyword] using (takeFolded?_eq_some_iff.1 h₂).2

theorem pattern_matchAt_slot {name : String} (hname : BraceFree name.toList) (hne : name ≠ "")
    (hline : '\n' ∉ name.toList) (t : List Char) :
    pattern.matchAt (tag (inner name) ++ t) = some (⟨String.ofList slotKeyword, name⟩, t) := by
  cases hcn : name.toList with
  | nil => exact absurd (String.toList_eq_nil_iff.1 hcn) hne
  | cons c n =>
    have htake : takeFolded? slotKeyword (inner name ++ (closeBraces ++ t)) =
        some (slotKeyword, name.toList ++ (closeBraces ++ t)) :=
      takeFolded?_eq_some_iff.2 ⟨List.append_assoc _ _ _, rfl⟩
    have hn : '}' ∉ n := fun h => hname.2 (hcn ▸ List.mem_cons_of_mem c h)
    have hread : readName? (name.toList ++ (closeBraces ++ t)) = some (name.toList, t) := by
      rw [hcn, List.cons_append, readName?]
      change (splitAt? ('}' :: ['}']) (n ++ ('}' :: ['}'] ++ t))).map _ = _
      rw [splitAt?_of_notMem hn]
      rfl
    change read? (openBraces ++ inner name ++ closeBraces ++ t) = _
    rw [List.append_assoc, List.append_assoc, read?, after?_append]
    simp [htake, hread, hline]

/-- Each slot that a template's scan finds stands in it as a tag. -/
theorem exists_tag_of_mem_fields {template name : String} (h : name ∈ fields template) :
    ∃ spelling before behind, foldText spelling = slotKeyword ∧
      template.toList = before ++ (tag (spelling ++ name.toList) ++ behind) := by
  rw [fields, List.mem_eraseDups, List.mem_map] at h
  obtain ⟨slot, hslot, rfl⟩ := h
  obtain ⟨before, behind, hmatch, heq⟩ := pattern.exists_matchAt_of_mem_found hslot
  refine ⟨slot.spelling.toList, before, behind, read?_eq_some_keyword hmatch, ?_⟩
  rw [heq]
  simp [pattern, text, tag]

end Slot

end Flashcard
