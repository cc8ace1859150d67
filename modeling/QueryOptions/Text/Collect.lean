import QueryOptions.Text.Basic

/-!
# Reading again and again

A reader of something repeated is given by one step: it stops, or it goes on behind what it has
read.  A step that reads nothing and wants to go on is a failure, so reading always ends.
-/

namespace QueryOptions

/-- What one step of a repeated reading gives. -/
inductive Progress (α : Type) where
  /-- The last pieces, and the text behind them. -/
  | stop (last : List α) (rest : Text)
  /-- Some pieces, and the text to go on with. -/
  | go (pieces : List α) (rest : Text)

/-- The pieces of all steps, and the text behind the last. -/
def collect {α : Type} (step : Text → Option (Progress α)) (t : Text) : Option (List α × Text) :=
  match step t with
  | none => none
  | some (.stop last rest) => some (last, rest)
  | some (.go pieces rest) =>
    if rest.length < t.length then
      (collect step rest).map fun (more, rest) => (pieces ++ more, rest)
    else none
termination_by t.length

end QueryOptions
