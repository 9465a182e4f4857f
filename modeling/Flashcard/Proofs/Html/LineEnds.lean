import Flashcard.Html.Document
import Flashcard.Proofs.Text.Literal

/-!
# Line ends of a document

A line may end with a carriage return, a line feed, or both in this order. `lineEnds` is the text
with a line feed for each line end, and `lineEnds_induction` is induction along the text.

`Reads r s r'` says that a reader gets from `r` to `r'` when it is fed the characters of `s`, and
that no name of a reference is open at any of them. Then a text whose line ends these are leads to
`r'` as well, however its line ends are written (`Reads.readDocument_eq`).
-/

namespace Flashcard.Html

/-- A text with a line feed for each line end. -/
def lineEnds : List Char → List Char
  | [] => []
  | '\r' :: '\n' :: s => '\n' :: lineEnds s
  | '\r' :: s => '\n' :: lineEnds s
  | c :: s => c :: lineEnds s

@[simp] theorem lineEnds_nil : lineEnds [] = [] := rfl

theorem lineEnds_pair (s : List Char) : lineEnds ('\r' :: '\n' :: s) = '\n' :: lineEnds s := rfl

theorem lineEnds_cons {c : Char} (hc : c ≠ '\r') (s : List Char) :
    lineEnds (c :: s) = c :: lineEnds s := by
  rw [lineEnds.eq_def]
  split <;> simp_all

theorem lineEnds_return_cons {s : List Char} (hs : s.head? ≠ some '\n') :
    lineEnds ('\r' :: s) = '\n' :: lineEnds s :=
  lineEnds.eq_3 s fun s' heq => hs (by rw [heq, List.head?_cons])

/-- Induction along a text: over its line ends, and over the characters within its lines. -/
theorem lineEnds_induction {motive : List Char → Prop} (nil : motive [])
    (pair : ∀ s, motive s → motive ('\r' :: '\n' :: s))
    (alone : ∀ s, s.head? ≠ some '\n' → motive s → motive ('\r' :: s))
    (other : ∀ c s, c ≠ '\r' → motive s → motive (c :: s)) (s : List Char) : motive s := by
  fun_induction lineEnds s with
  | case1 => exact nil
  | case2 s ih => exact pair s ih
  | case3 s hs ih =>
    refine alone s (fun hhead => ?_) ih
    obtain ⟨s', rfl⟩ := List.head?_eq_some_iff.1 hhead
    exact hs s' rfl
  | case4 c s _ hc ih => exact other c s hc ih

theorem lineEnds_append_of_notMem {s : List Char} (hs : '\r' ∉ s) (t : List Char) :
    lineEnds (s ++ t) = s ++ lineEnds t := by
  induction s with
  | nil => rfl
  | cons c s ih =>
    rw [List.mem_cons, not_or] at hs
    rw [List.cons_append, lineEnds_cons (Ne.symm hs.1), ih hs.2, List.cons_append]

theorem lineEnds_eq_self {s : List Char} (hs : '\r' ∉ s) : lineEnds s = s := by
  simpa using lineEnds_append_of_notMem hs []

/-- Line ends on two sides of another character have nothing to do with each other. -/
theorem lineEnds_append_cons (s : List Char) {c : Char} (hfeed : c ≠ '\n') (hreturn : c ≠ '\r')
    (t : List Char) : lineEnds (s ++ c :: t) = lineEnds s ++ c :: lineEnds t := by
  induction s using lineEnds_induction with
  | nil => exact lineEnds_cons hreturn t
  | pair s ih =>
    rw [List.cons_append, List.cons_append, lineEnds_pair, lineEnds_pair, ih, List.cons_append]
  | alone s hs ih =>
    have hnext : (s ++ c :: t).head? ≠ some '\n' := by
      cases s with
      | nil => simpa using hfeed
      | cons d s => simpa using hs
    rw [List.cons_append, lineEnds_return_cons hnext, lineEnds_return_cons hs, ih,
      List.cons_append]
  | other d s hd ih =>
    rw [List.cons_append, lineEnds_cons hd, lineEnds_cons hd, ih, List.cons_append]

theorem lineEnds_append_append (s : List Char) {q : List Char} (hhead : q.head? ∉ [none, some '\n'])
    (hq : '\r' ∉ q) (t : List Char) :
    lineEnds (s ++ (q ++ t)) = lineEnds s ++ (q ++ lineEnds t) := by
  cases q with
  | nil => simp at hhead
  | cons c q =>
    simp only [List.head?_cons, List.mem_cons, reduceCtorEq, Option.some.injEq, List.not_mem_nil,
      or_false, false_or] at hhead
    rw [List.mem_cons, not_or] at hq
    rw [List.cons_append, lineEnds_append_cons s hhead (Ne.symm hq.1),
      lineEnds_append_of_notMem hq.2, List.cons_append]

theorem mem_of_mem_lineEnds {s : List Char} {c : Char} (h : c ∈ lineEnds s) (hfeed : c ≠ '\n') :
    c ∈ s ∧ c ≠ '\r' := by
  induction s using lineEnds_induction with
  | nil => cases h
  | pair s ih =>
    rw [lineEnds_pair] at h
    have hmem := ih ((List.mem_cons.1 h).resolve_left hfeed)
    exact ⟨by simp [hmem.1], hmem.2⟩
  | alone s hs ih =>
    rw [lineEnds_return_cons hs] at h
    have hmem := ih ((List.mem_cons.1 h).resolve_left hfeed)
    exact ⟨by simp [hmem.1], hmem.2⟩
  | other d s hd ih =>
    rw [lineEnds_cons hd] at h
    obtain rfl | hmem := List.mem_cons.1 h
    · exact ⟨List.mem_cons_self, hd⟩
    · exact ⟨List.mem_cons_of_mem d (ih hmem).1, (ih hmem).2⟩

/-- Line ends written otherwise keep what all characters have, if a line feed has it. -/
theorem forall_mem_lineEnds {p : Char → Prop} (hfeed : p '\n') {s : List Char}
    (hs : ∀ c ∈ s, p c) : ∀ c ∈ lineEnds s, p c := by
  intro c hc
  by_cases h : c = '\n'
  · exact h ▸ hfeed
  · exact hs c (mem_of_mem_lineEnds hc h).1

theorem eq_nil_of_prefix_cons {k t : List Char} {c : Char} (hk : c ∉ k) (h : k <+: c :: t) :
    k = [] := by
  cases k with
  | nil => rfl
  | cons d k => exact absurd ((List.cons_prefix_cons.1 h).1 ▸ List.mem_cons_self) hk

/-- A text within a line begins where it began. -/
theorem prefix_of_prefix_lineEnds {k s : List Char} (hk : '\n' ∉ k) (h : k <+: lineEnds s) :
    k <+: s := by
  induction s using lineEnds_induction generalizing k with
  | nil => exact h
  | pair s =>
    rw [lineEnds_pair] at h
    exact eq_nil_of_prefix_cons hk h ▸ List.nil_prefix
  | alone s hs =>
    rw [lineEnds_return_cons hs] at h
    exact eq_nil_of_prefix_cons hk h ▸ List.nil_prefix
  | other c s hc ih =>
    rw [lineEnds_cons hc] at h
    cases k with
    | nil => exact List.nil_prefix
    | cons d k =>
      obtain ⟨rfl, hrest⟩ := List.cons_prefix_cons.1 h
      exact List.cons_prefix_cons.2 ⟨rfl, ih (List.not_mem_of_not_mem_cons hk) hrest⟩

/-- Line ends written otherwise hold no other text within a line. -/
theorem infix_of_infix_lineEnds {k s : List Char} (hk : '\n' ∉ k) (h : k <:+: lineEnds s) :
    k <:+: s := by
  induction s using lineEnds_induction with
  | nil => exact h
  | pair s ih =>
    rw [lineEnds_pair] at h
    rcases (infix_append_cons_iff hk [] _).1 h with h | h
    · exact (List.infix_nil.1 h) ▸ List.nil_infix
    · exact (ih h).trans (List.suffix_append ['\r', '\n'] s).isInfix
  | alone s hs ih =>
    rw [lineEnds_return_cons hs] at h
    rcases (infix_append_cons_iff hk [] _).1 h with h | h
    · exact (List.infix_nil.1 h) ▸ List.nil_infix
    · exact (ih h).trans (List.suffix_cons '\r' s).isInfix
  | other c s hc ih =>
    rw [lineEnds_cons hc] at h
    rcases List.infix_cons_iff.1 h with h | h
    · rw [← lineEnds_cons hc] at h
      exact (prefix_of_prefix_lineEnds hk h).isInfix
    · exact (ih h).trans (List.suffix_cons c s).isInfix

/-! ### Readers -/

namespace Reader

/-- Whether the last character was a carriage return matters to `step` alone. -/
theorem treat_setAfterReturn (r : Reader) (a : Bool) (t : Token) :
    ({ r with afterReturn := a } : Reader).treat t = { r.treat t with afterReturn := a } := by
  simp only [treat]
  split <;> simp_all

theorem foldl_treat_setAfterReturn (ts : List Token) (r : Reader) (a : Bool) :
    ts.foldl treat { r with afterReturn := a } = { ts.foldl treat r with afterReturn := a } := by
  induction ts generalizing r with
  | nil => rfl
  | cons t ts ih => rw [List.foldl_cons, treat_setAfterReturn, ih, List.foldl_cons]

theorem feed_setAfterReturn (r : Reader) (a : Bool) (c : Char) :
    ({ r with afterReturn := a } : Reader).feed c = { r.feed c with afterReturn := a } :=
  foldl_treat_setAfterReturn _ { r with lexer := (r.lexer.step r.builder.atForeign c).1 } a

end Reader

theorem Lexer.endName?_eq_none {lx : Lexer} (h : lx.inName = false) : lx.endName? = none := by
  rw [endName?]
  split
  · next heq => simp [inName, heq] at h
  · rfl

/-- Whether feeding `s` leads from one reader to another, with no name of a reference open. -/
inductive Reads : Reader → List Char → Reader → Prop
  | nil (r : Reader) : Reads r [] r
  | cons {r r' : Reader} {c : Char} {s : List Char} (outside : r.lexer.inName = false)
    (later : Reads (r.feed c) s r') : Reads r (c :: s) r'

namespace Reads

variable {r r' r'' : Reader}

theorem append {s t : List Char} (h : Reads r s r') (h' : Reads r' t r'') :
    Reads r (s ++ t) r'' := by
  induction h with
  | nil => exact h'
  | cons outside _ ih => exact .cons outside (ih h')

theorem step_return (h : r.lexer.inName = false) (a : Bool) :
    ({ r with afterReturn := a } : Reader).step '\r' =
      { r.feed '\n' with afterReturn := true } := by
  simp only [Reader.step, beq_self_eq_true, if_true, Reader.carriageReturn,
    Lexer.endName?_eq_none h, h, Bool.not_false, Reader.feed_setAfterReturn]

theorem step_other {c : Char} (hc : c ≠ '\r') {a : Bool} (ha : a = true → c ≠ '\n') :
    ({ r with afterReturn := a } : Reader).step c = { r.feed c with afterReturn := false } := by
  have hskip : ¬ (c == '\n' && a) = true := by
    simp only [Bool.and_eq_true, beq_iff_eq, not_and]
    exact fun hfeed h => ha h hfeed
  rw [Reader.step, if_neg (by simpa using hc), if_neg hskip, Reader.feed_setAfterReturn]

/-- A text leads where its line ends lead, if it does not begin with the second half of one. -/
theorem exists_foldl_step_eq {s : List Char} (h : Reads r (lineEnds s) r') {a : Bool}
    (ha : a = true → s.head? ≠ some '\n') :
    ∃ b, s.foldl Reader.step { r with afterReturn := a } = { r' with afterReturn := b } := by
  induction s using lineEnds_induction generalizing r a with
  | nil =>
    cases h
    exact ⟨a, rfl⟩
  | pair s ih =>
    rw [lineEnds_pair] at h
    cases h with
    | cons outside later =>
      have hfeed : ({ r.feed '\n' with afterReturn := true } : Reader).step '\n' =
          { r.feed '\n' with afterReturn := false } := rfl
      rw [List.foldl_cons, step_return outside, List.foldl_cons, hfeed]
      exact ih later (by simp)
  | alone s hs ih =>
    rw [lineEnds_return_cons hs] at h
    cases h with
    | cons outside later =>
      rw [List.foldl_cons, step_return outside]
      exact ih later fun _ => hs
  | other c s hc ih =>
    rw [lineEnds_cons hc] at h
    cases h with
    | cons outside later =>
      rw [List.foldl_cons, step_other hc fun h => by simpa using ha h]
      exact ih later (by simp)

theorem readDocument_eq {s : List Char} (h : Reads .start (lineEnds (dropByteOrderMark s)) r') :
    readDocument s = r'.finish.builder.tree := by
  have hstart : ({ Reader.start with afterReturn := false } : Reader) = .start := rfl
  obtain ⟨b, hb⟩ := h.exists_foldl_step_eq (a := false) (by simp)
  rw [hstart] at hb
  rw [readDocument, hb, Reader.finish, Reader.foldl_treat_setAfterReturn, Reader.finish]

end Reads

end Flashcard.Html
