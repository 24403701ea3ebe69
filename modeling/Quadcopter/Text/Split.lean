/-!
# Quadcopter.Text.Split

Cutting a list where a class of elements ends, and cutting it at every occurrence of a separator.

Main statements: nothing is lost (`splitWhile_append`), and the second part is no longer than the
whole (`length_of_splitWhile`).
-/

namespace Quadcopter
namespace Text

variable {α : Type}

/-- The longest start of a list that is all in a class, and the rest. -/
def splitWhile (p : α → Bool) (s : List α) : List α × List α := (s.takeWhile p, s.dropWhile p)

theorem splitWhile_append {p : α → Bool} {s a b : List α} (h : splitWhile p s = (a, b)) :
    a ++ b = s := by
  cases h; exact List.takeWhile_append_dropWhile

theorem length_of_splitWhile {p : α → Bool} {s a b : List α} (h : splitWhile p s = (a, b)) :
    b.length ≤ s.length := by
  cases h; exact (List.dropWhile_sublist p).length_le

/-- The pieces of a list between the occurrences of a separator; there is always at least one. -/
def splitAt [BEq α] (sep : α) (s : List α) : List (List α) :=
  s.foldr (fun c pieces =>
    if c == sep then [] :: pieces
    else
      match pieces with
      | [] => [[c]]
      | piece :: more => (c :: piece) :: more) [[]]

/-- A list without one mark at its end. -/
def dropMark [BEq α] (mark : α) (s : List α) : List α :=
  if s.getLast? == some mark then s.dropLast else s

/-- The lines of a text: each ends at a newline, together with one carriage return before it. What
follows the last newline is a line too unless it is empty. -/
def linesOf [BEq α] (newline ret : α) (s : List α) : List (List α) :=
  let pieces := splitAt newline s
  let tail := pieces.getLast?.getD []
  pieces.dropLast.map (dropMark ret) ++ if tail.isEmpty then [] else [tail]

def lines (s : String) : List String := (linesOf '\n' '\r' s.toList).map String.ofList

end Text
end Quadcopter
