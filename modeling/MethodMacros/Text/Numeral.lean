import MethodMacros.Text.CodePoints

/-!
# Decimal digits, digits and numerals

Three properties of the Unicode character database, version 14, each wider than the one before:
a *decimal digit* stands in a positional numeral of its script, a *digit* also covers
superscripts and circled digits, and a *numeral* any character that has a numeric value, such as
a fraction or a Roman numeral.
-/

namespace MethodMacros.Text

/-- The zero of every script that has decimal digits.  The other nine digits follow it. -/
def decimalZeros : List Nat :=
  [48, 1632, 1776, 1984, 2406, 2534, 2662, 2790, 2918, 3046, 3174, 3302, 3430, 3558, 3664, 3792,
   3872, 4160, 4240, 6112, 6160, 6470, 6608, 6784, 6800, 6992, 7088, 7232, 7248, 42528, 43216,
   43264, 43472, 43504, 43600, 44016, 65296, 66720, 68912, 69734, 69872, 69942, 70096, 70384,
   70736, 70864, 71248, 71360, 71472, 71904, 72016, 72784, 73040, 73120, 92768, 92864, 93008,
   120782, 120792, 120802, 120812, 120822, 123200, 123632, 125264, 130032]

/-- The digits that are not decimal digits. -/
def digitIntervals : List (Nat × Nat) :=
  [(178, 179), (185, 185), (4969, 4977), (6618, 6618), (8304, 8304), (8308, 8313), (8320, 8329),
   (9312, 9320), (9332, 9340), (9352, 9360), (9450, 9450), (9461, 9469), (9471, 9471),
   (10102, 10110), (10112, 10120), (10122, 10130), (68160, 68163), (69216, 69224),
   (69714, 69722), (127232, 127242)]

/-- The numerals that are not digits. -/
def numeralIntervals : List (Nat × Nat) :=
  [(188, 190), (2548, 2553), (2930, 2935), (3056, 3058), (3192, 3198), (3416, 3422),
   (3440, 3448), (3882, 3891), (4978, 4988), (5870, 5872), (6128, 6137), (8528, 8578),
   (8581, 8585), (9321, 9331), (9341, 9351), (9361, 9371), (9451, 9460), (9470, 9470),
   (10111, 10111), (10121, 10121), (10131, 10131), (11517, 11517), (12295, 12295),
   (12321, 12329), (12344, 12346), (12690, 12693), (12832, 12841), (12872, 12879),
   (12881, 12895), (12928, 12937), (12977, 12991), (13317, 13317), (13443, 13443),
   (14378, 14378), (15181, 15181), (19968, 19968), (19971, 19971), (19975, 19975),
   (19977, 19977), (20061, 20061), (20108, 20108), (20116, 20116), (20118, 20118),
   (20159, 20160), (20191, 20191), (20200, 20200), (20237, 20237), (20336, 20336),
   (20740, 20740), (20806, 20806), (20841, 20841), (20843, 20843), (20845, 20845),
   (21313, 21313), (21315, 21317), (21324, 21324), (21441, 21444), (22235, 22235),
   (22769, 22769), (22777, 22777), (24186, 24186), (24318, 24319), (24332, 24334),
   (24336, 24336), (25342, 25342), (25420, 25420), (26578, 26578), (28422, 28422),
   (29590, 29590), (30334, 30334), (32902, 32902), (33836, 33836), (36014, 36014),
   (36019, 36019), (36144, 36144), (38433, 38433), (38470, 38470), (38476, 38476),
   (38520, 38520), (38646, 38646), (42726, 42735), (43056, 43061), (63851, 63851),
   (63859, 63859), (63864, 63864), (63922, 63922), (63953, 63953), (63955, 63955),
   (63997, 63997), (65799, 65843), (65856, 65912), (65930, 65931), (66273, 66299),
   (66336, 66339), (66369, 66369), (66378, 66378), (66513, 66517), (67672, 67679),
   (67705, 67711), (67751, 67759), (67835, 67839), (67862, 67867), (68028, 68029),
   (68032, 68047), (68050, 68095), (68164, 68168), (68221, 68222), (68253, 68255),
   (68331, 68335), (68440, 68447), (68472, 68479), (68521, 68527), (68858, 68863),
   (69225, 69246), (69405, 69414), (69457, 69460), (69573, 69579), (69723, 69733),
   (70113, 70132), (71482, 71483), (71914, 71922), (72794, 72812), (73664, 73684),
   (74752, 74862), (93019, 93025), (93824, 93846), (119520, 119539), (119648, 119672),
   (125127, 125135), (126065, 126123), (126125, 126127), (126129, 126132), (126209, 126253),
   (126255, 126269), (127243, 127244), (131073, 131073), (131172, 131172), (131298, 131298),
   (131361, 131361), (133418, 133418), (133507, 133507), (133516, 133516), (133532, 133532),
   (133866, 133866), (133885, 133885), (133913, 133913), (140176, 140176), (141720, 141720),
   (146203, 146203), (156269, 156269), (194704, 194704)]

/-- The value of a decimal digit, given the zeros in ascending order. -/
def decimalValueFrom : List Nat → Nat → Option Nat
  | [], _ => none
  | origin :: rest, n =>
      if n < origin then none
      else if n < origin + 10 then some (n - origin)
      else decimalValueFrom rest n

/-- The value of a decimal digit, and nothing for any other character. -/
def decimalValue? (c : Char) : Option Nat :=
  decimalValueFrom decimalZeros c.toNat

/-- A decimal digit of any script. -/
def isDecimal (c : Char) : Bool :=
  (decimalValue? c).isSome

/-- A digit of any script, in a positional numeral or not. -/
def isDigit (c : Char) : Bool :=
  isDecimal c || inIntervals digitIntervals c.toNat

/-- A character with a numeric value. -/
def isNumeral (c : Char) : Bool :=
  isDigit c || inIntervals numeralIntervals c.toNat

end MethodMacros.Text
