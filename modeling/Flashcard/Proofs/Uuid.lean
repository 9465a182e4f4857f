import Flashcard.Uuid
import Mathlib.Data.List.Basic

/-!
# Identifiers are read as they are written

The hyphens between the groups come out again (`joinGroups?_splitGroups`), and each digit is read
back, so an identifier that is written is read as itself (`parse?_print`).
-/

namespace Flashcard.Uuid

theorem joinGroups?_splitGroups {sizes : List Nat} {cs : List Char}
    (h : cs.length = sizes.foldr (· + ·) 0) :
    joinGroups? sizes (splitGroups sizes cs) = some cs := by
  fun_induction splitGroups sizes cs with
  | case1 cs => simp_all [joinGroups?]
  | case2 size cs =>
    have hlen : cs.length = size := by simpa using h
    rw [← hlen, List.take_length, joinGroups?, if_pos rfl]
  | case3 size sizes cs hne ih =>
    have hlen : cs.length = size + sizes.foldr (· + ·) 0 := h
    have htake : (cs.take size).length = size := by simp [hlen]
    rw [joinGroups?, List.drop_left' htake, List.take_left' htake]
    · simp [ih (by simp [hlen]), List.take_append_drop]
    · exact hne

theorem mapM_hexDigit? (ds : List (Fin 16)) : ds.mapM (hexDigit? ∘ hexDigit) = some ds := by
  induction ds with
  | nil => rfl
  | cons d ds ih => simp [hexDigit?_hexDigit, ih]

theorem hexDigit_ne (d : Fin 16) : hexDigit d ≠ '\x7b' ∧ hexDigit d ≠ 'u' := by
  revert d
  decide

/-- A text that begins with a digit stands alone. -/
theorem unwrap_hexDigit (d : Fin 16) (cs : List Char) :
    unwrap (hexDigit d :: cs) = hexDigit d :: cs := by
  obtain ⟨hbrace, hu⟩ := hexDigit_ne d
  unfold unwrap
  split
  · next h => exact absurd (List.cons.inj h).1 hbrace
  · next h => exact absurd (List.cons.inj h).1 hu
  · rfl

theorem parse?_print (id : Uuid) : parse? id.print = some id := by
  obtain ⟨⟨ds⟩, hlen⟩ := id
  replace hlen : ds.length = 32 := hlen
  have hsplit : (splitGroups groupSizes (ds.map hexDigit)).length = 36 := by
    simp [groupSizes, splitGroups, hlen]
  have hunwrap : unwrap (splitGroups groupSizes (ds.map hexDigit)) =
      splitGroups groupSizes (ds.map hexDigit) := by
    obtain ⟨d, ds, rfl⟩ := List.exists_cons_of_length_eq_add_one hlen
    exact unwrap_hexDigit d _
  have hjoin : joinGroups? groupSizes (splitGroups groupSizes (ds.map hexDigit)) =
      some (ds.map hexDigit) :=
    joinGroups?_splitGroups (by simp [hlen, groupSizes])
  simp [parse?, print, hsplit, hunwrap, hjoin, mapM_hexDigit?, ofDigits?, hlen]

end Flashcard.Uuid
