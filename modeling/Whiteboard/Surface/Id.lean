import Whiteboard.Text.Basic

/-!
# Surface ids

A surface names what it draws by numbers of its own. They are written in at least 32 hexadecimal
digits, with hyphens before the last 24, 20, 16 and 12 of them.
-/

namespace Whiteboard

/-- The name that a surface gave to a shape. -/
structure SurfaceId where
  number : Nat
  deriving DecidableEq, Inhabited

namespace SurfaceId

/-- The digits in groups. The first group takes what the others leave. -/
def hyphenate (digits : Text) : Text :=
  let head := digits.take (digits.length - 24)
  let tail := digits.drop (digits.length - 24)
  head ++ '-' :: tail.take 4 ++ '-' :: (tail.drop 4).take 4 ++ '-' :: (tail.drop 8).take 4 ++
    '-' :: tail.drop 12

/-- The written form, in small letters. -/
def text (id : SurfaceId) : Text := hyphenate ((Nat.toDigits 16 id.number).leftpad 32 '0')

/-- The value of a hexadecimal digit, in small or capital letters. -/
def hexValue? (c : Char) : Option Nat :=
  if c.isDigit then some (c.toNat - '0'.toNat)
  else if 'a' ≤ c && c ≤ 'f' then some (c.toNat - 'a'.toNat + 10)
  else if 'A' ≤ c && c ≤ 'F' then some (c.toNat - 'A'.toNat + 10)
  else none

/-- The id with these 32 digits. -/
def ofDigits? (digits : Text) : Option SurfaceId :=
  if digits.length = 32 then
    (digits.mapM hexValue?).map fun ds => ⟨ds.foldl (fun n d => 16 * n + d) 0⟩
  else none

/-- The id with these digits in groups of 8, 4, 4, 4 and 12. -/
def ofGroups? (s : Text) : Option SurfaceId :=
  match s.splitOn '-' with
  | [a, b, c, d, e] =>
    if [a, b, c, d, e].map List.length = [8, 4, 4, 4, 12] then ofDigits? (a ++ b ++ c ++ d ++ e)
    else none
  | _ => none

/-- The id that a text spells: the digits alone, in groups, in groups between braces, or in groups
behind `urn:uuid:`, in small or capital letters. -/
def read? (s : Text) : Option SurfaceId :=
  if s.length = 32 then ofDigits? s
  else if s.length = 36 then ofGroups? s
  else if s.length = 38 && s.head? = some '\x7b' && s.getLast? = some '\x7d' then
    ofGroups? (s.drop 1).dropLast
  else if s.length = 45 && Text.lower (s.take 9) = "urn:uuid:".toList then ofGroups? (s.drop 9)
  else none

end SurfaceId

end Whiteboard
