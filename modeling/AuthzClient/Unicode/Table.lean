import AuthzClient.Text.Digit

/-!
Tables of characters, written in lines of words. A word has parts with commas between them, and a part has numbers in
base sixteen with points between them. In a table of ranges a word has the first and the last number of a range, only
one if they are the same, and perhaps a value.
-/

namespace AuthzClient.Unicode

def readTable (lines : List String) : List (List (List Nat)) :=
  (lines.flatMap (·.splitOn " ")).map fun word =>
    (word.splitOn ",").map fun part =>
      (part.splitOn ".").map fun number => (Text.inBase? 16 number.toList).getD 0

def isInTable (ranges : List (List (List Nat))) (n : Nat) : Bool :=
  ranges.any fun
    | [[first], [last]] => first ≤ n && n ≤ last
    | [[only]] => n == only
    | _ => false

def valueInTable? (ranges : List (List (List Nat))) (n : Nat) : Option Nat :=
  ranges.findSome? fun
    | [[first], [last], [value]] => if first ≤ n ∧ n ≤ last then some value else none
    | _ => none

end AuthzClient.Unicode
