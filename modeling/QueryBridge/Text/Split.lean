/-!
# Splitting at a character

* `split`: the parts of a text between the places where a character stands.
-/

namespace QueryBridge.Text

/-- The parts between the places where `sep` stands; there is one more of them
than of such places. -/
def split (sep : Char) (cs : List Char) : List (List Char) :=
  cs.foldr (fun c parts =>
    if c = sep then [] :: parts
    else match parts with
      | [] => [[c]]
      | part :: rest => (c :: part) :: rest) [[]]

theorem split_cons_self (sep : Char) (cs : List Char) :
    split sep (sep :: cs) = [] :: split sep cs := by
  simp [split]

/-- What has no separator is one part. -/
theorem split_of_not_mem {sep : Char} {cs : List Char} (h : sep ∉ cs) : split sep cs = [cs] := by
  induction cs with
  | nil => rfl
  | cons c cs ih =>
    simp only [List.mem_cons, not_or] at h
    have := ih h.2
    simp only [split] at this ⊢
    simp [List.foldr_cons, this, Ne.symm h.1]

end QueryBridge.Text
