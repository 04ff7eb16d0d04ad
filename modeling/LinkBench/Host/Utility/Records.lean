import LinkBench.Path
/-!
Records: the pieces of a text that each end in the same character, mostly a line end and sometimes a
zero. The last one may lack its end.
-/

namespace LinkBench.Host.Utility

/-- Cuts a list into pieces of a length. The fuel bounds the number of pieces. -/
def chunks {α : Type} (size : Nat) : Nat → List α → List (List α)
  | 0, _ | _, [] => []
  | fuel + 1, xs => xs.take size :: chunks size fuel (xs.drop size)

namespace Records

/-- The records with their ends. -/
def withEnds (ending : Char) (text : List Char) : List (List Char) :=
  let pieces := splitAtEach ending text
  pieces.dropLast.map (· ++ [ending]) ++ (pieces.getLast?.toList.filter (· != []))

/-- The records without their ends, and whether the last one has an end. -/
def split (ending : Char) (text : String) : List String × Bool :=
  let pieces := (splitAtEach ending text.toList).map String.ofList
  if pieces.getLast? = some "" then (pieces.dropLast, true) else (pieces, false)

/-- The text of records. -/
def joined (ending : Char) (records : List String) : String :=
  String.join (records.map fun record => record ++ String.singleton ending)

end Records

/-- The lines of a text without their ends, and whether the last one has an end. -/
def splitLines (text : String) : List String × Bool := Records.split '\n' text

def joinLines (lines : List String) : String :=
  String.join (lines.map (· ++ "\n"))

/-- The lines of a text with their ends. -/
def linesWithEnds (text : String) : List (List Char) := Records.withEnds '\n' text.toList

end LinkBench.Host.Utility
