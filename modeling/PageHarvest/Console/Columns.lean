/-! # Widths of columns

Columns that are too wide for a console give up cells: the widest ones until they are as wide as
the next widest, and so on. If nothing else helps, all give up the same.
-/

namespace PageHarvest.Console

/-- The whole number nearest to a quotient, the even one of two. -/
def nearestQuotient (num den : Nat) : Nat :=
  let low := num / den
  let rest := 2 * (num % den)
  if rest < den || (rest = den && low % 2 = 0) then low else low + 1

/-- Takes `total` cells away from the columns that share in it, the same from each, but not more
than `most`. -/
def giveUp (total sharing : Nat) : List (Nat × Bool × Nat) → List Nat
  | [] => []
  | (width, shares, most) :: rest =>
    if shares && sharing != 0 then
      let taken := min most (nearestQuotient total sharing)
      (width - taken) :: giveUp (total - taken) (sharing - 1) rest
    else width :: giveUp total sharing rest

/-- Takes `total` cells away from columns that may lose `most` cells each. -/
def reduce (total : Nat) (shares : Nat → Bool) (most : Nat → Nat) (widths : List Nat) : List Nat :=
  let parts := widths.map fun width => (width, shares width && most width != 0, most width)
  giveUp total (parts.countP (·.2.1)) parts

def totalWidth (widths : List Nat) : Nat := widths.foldr (· + ·) 0

/-- Makes the widest columns narrower until all fit, or nothing changes any more. -/
def narrowWidest (room : Nat) : (rounds : Nat) → List Nat → List Nat
  | 0, widths => widths
  | rounds + 1, widths =>
    let excess := totalWidth widths - room
    let widest := widths.foldl max 0
    let next := (widths.filter (· != widest)).foldl max 0
    if excess = 0 || widest = next then widths
    else narrowWidest room rounds
      (reduce excess (· == widest) (fun _ => min excess (widest - next)) widths)

/-- The widths of columns in a room, none of which gets more than all of it. -/
def fitColumns (room : Nat) (widths : List Nat) : List Nat :=
  let widths := widths.map (min room)
  if totalWidth widths ≤ room then widths
  else
    let narrowed := narrowWidest room (totalWidth widths - room) widths
    reduce (totalWidth narrowed - room) (fun _ => true) id narrowed

end PageHarvest.Console
