/-
Progress: one line on standard error for each stage of a run, with a bar.
-/

namespace SpriteScribe.Command

/-- A bar of some width, filled in proportion to the steps done. -/
def progressBar (step total width : Nat) : String :=
  let width := max width 1
  let filled := (step * width + total / 2) / total
  String.ofList ('[' :: (List.range width).map (fun i => if i < filled then '=' else '-') ++ [']'])

/-- How a run shows its progress. -/
structure Progress where
  title : String
  /-- How many stages there are. -/
  total : Nat
  /-- Whether nothing is shown. -/
  quiet : Bool

namespace Progress

/-- There is at least one stage. -/
def new (title : String) (total : Nat) (quiet : Bool) : Progress := ⟨title, max total 1, quiet⟩

/-- The width of the bar. -/
def barWidth : Nat := 14

/-- The line for a stage. They are counted from one, and no count is greater than their number. -/
def line (p : Progress) (step : Nat) (label : String) : String :=
  let step := min (max step 1) p.total
  "[" ++ p.title ++ "] " ++ label ++ "... (" ++ toString step ++ "/" ++ toString p.total ++ ") " ++
    progressBar step p.total barWidth ++ "\n"

/-- What is shown when a stage begins. -/
def announce (p : Progress) (step : Nat) (label : String) : String :=
  if p.quiet then "" else p.line step label

end Progress

end SpriteScribe.Command
