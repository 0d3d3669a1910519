/-!
# Grouped digits

Numbers in limits are written with a comma before every third digit from the right.
-/

namespace MarkdownLint

def groupThousands : List Char → List Char
  | [] => []
  | d :: ds =>
    if ds.length % 3 = 0 ∧ ds ≠ [] then d :: ',' :: groupThousands ds else d :: groupThousands ds

def grouped (n : Int) : String :=
  let digits := groupThousands (Nat.toDigits 10 n.natAbs)
  String.ofList (if n < 0 then '-' :: digits else digits)

end MarkdownLint
