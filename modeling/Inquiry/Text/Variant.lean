import Inquiry.Text.CaseTable

/-!
# Letters that differ by case alone

Where case counts for nothing and the letters of all scripts have case, a letter
stands for every letter with the same small form.  A few small letters share a
capital one, and stand for each other too.
-/

namespace Inquiry.Text

/-- The small form of a code point, which is one code point. -/
def smallPoint (point : Nat) : Nat :=
  if point < 128 then if 65 ≤ point ∧ point ≤ 90 then point + 32 else point
  else if point = 304 then 105
  else (lowerShifts.findSome? (·.shifted? point)).getD point

/-- The code point that a run moves to the given one. -/
def Shift.source? (run : Shift) (point : Nat) : Option Nat :=
  let source := (point - run.shift).toNat
  if run.shifted? source = some point then some source else none

/-- The code points with a given small form, apart from it. -/
def capitalPoints (small : Nat) : List Nat :=
  let ascii := if 97 ≤ small ∧ small ≤ 122 then [small - 32] else []
  let dotted := if small = 105 then [304] else []
  ascii ++ dotted ++ lowerShifts.filterMap (·.source? small)

/-- The small letters that share a capital one. -/
def smallFamilies : List (List Nat) :=
  [[105, 305], [115, 383], [181, 956], [837, 953, 8126], [912, 8147],
   [944, 8163], [946, 976], [949, 1013], [952, 977], [954, 1008], [960, 982],
   [961, 1009], [962, 963], [966, 981], [1074, 7296], [1076, 7297],
   [1086, 7298], [1089, 7299], [1090, 7300, 7301], [1098, 7302], [1123, 7303],
   [7304, 42571], [7777, 7835], [64261, 64262]]

/-- The code points that differ from the given one by case alone, with itself. -/
def caseVariants (point : Nat) : List Nat :=
  let small := smallPoint point
  let family := (smallFamilies.find? (·.contains small)).getD [small]
  family.flatMap fun small => small :: capitalPoints small

end Inquiry.Text
