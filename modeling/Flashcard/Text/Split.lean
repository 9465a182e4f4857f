/-!
# Parts of a list

`splitAll p s` cuts `s` at every element that passes `p` and drops those elements, so the parts are
one more than they. `splitAfter p s` keeps each of them at the end of its part and has no empty
part.
-/

namespace Flashcard

variable {α : Type}

def splitAll (p : α → Bool) : List α → List (List α)
  | [] => [[]]
  | a :: s =>
    if p a then [] :: splitAll p s
    else
      match splitAll p s with
      | [] => [[a]]
      | part :: parts => (a :: part) :: parts

def splitAfter (p : α → Bool) : List α → List (List α)
  | [] => []
  | a :: s =>
    if p a then [a] :: splitAfter p s
    else
      match splitAfter p s with
      | [] => [[a]]
      | part :: parts => (a :: part) :: parts

/-- No element is lost, and none is moved. -/
theorem flatten_splitAfter (p : α → Bool) (s : List α) : (splitAfter p s).flatten = s := by
  fun_induction splitAfter p s with
  | case1 => rfl
  | case2 a s _ ih => simp [ih]
  | case3 a s _ h ih =>
    rw [h] at ih
    simpa using ih
  | case4 a s _ part parts h ih =>
    rw [h] at ih
    simpa using ih

end Flashcard
