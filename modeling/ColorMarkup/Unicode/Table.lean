/-!
# Property tables

A property of characters is kept as an array whose entries each cover a closed interval of code
points, the intervals in rising order and apart from one another.  This file holds

* `seek`, the entry that covers a code point, found by bisection;
* `covers`, membership for the tables that hold intervals and nothing else;
* `mem_of_seek`, which says that what `seek` finds is an entry and covers the code point asked for.
-/

namespace ColorMarkup.Unicode

variable {α : Type}

/-- The entry covering `n` among those from place `lo` up to but not including place `hi`; `bounds`
gives the first and the last code point of an entry. -/
def seekBetween (bounds : α → Nat × Nat) (table : Array α) (n lo hi : Nat) : Option α :=
  if lo < hi then
    let middle := (lo + hi) / 2
    match table[middle]? with
    | none => none
    | some entry =>
      if n < (bounds entry).1 then seekBetween bounds table n lo middle
      else if (bounds entry).2 < n then seekBetween bounds table n (middle + 1) hi
      else some entry
  else none
termination_by hi - lo
decreasing_by all_goals omega

/-- The entry of `table` that covers the code point `n`. -/
def seek (bounds : α → Nat × Nat) (table : Array α) (n : Nat) : Option α :=
  seekBetween bounds table n 0 table.size

/-- Whether one of the intervals of `table` holds the character `c`. -/
def covers (table : Array (Nat × Nat)) (c : Char) : Bool :=
  (seek id table c.toNat).isSome

private theorem mem_of_seekBetween {bounds : α → Nat × Nat} {table : Array α} {n lo hi : Nat}
    {entry : α} (h : seekBetween bounds table n lo hi = some entry) :
    entry ∈ table ∧ (bounds entry).1 ≤ n ∧ n ≤ (bounds entry).2 := by
  fun_induction seekBetween bounds table n lo hi with
  | case1 => simp at h
  | case2 lo hi _ middle candidate hfound hbefore ih => exact ih h
  | case3 lo hi _ middle candidate hfound hbefore hafter ih => exact ih h
  | case4 lo hi _ middle candidate hfound hbefore hafter =>
    obtain rfl : candidate = entry := by simpa using h
    exact ⟨Array.mem_of_getElem? hfound, by omega, by omega⟩
  | case5 => simp at h

/-- What `seek` finds is an entry of the table and covers the code point. -/
theorem mem_of_seek {bounds : α → Nat × Nat} {table : Array α} {n : Nat} {entry : α}
    (h : seek bounds table n = some entry) :
    entry ∈ table ∧ (bounds entry).1 ≤ n ∧ n ≤ (bounds entry).2 :=
  mem_of_seekBetween h

end ColorMarkup.Unicode
