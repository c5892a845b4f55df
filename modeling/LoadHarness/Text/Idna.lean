import LoadHarness.Text.Casing
import LoadHarness.Text.Normalization
import LoadHarness.Text.Punycode
import LoadHarness.Text.Tables.Idna

/-!
# Internationalized host names

A host name written with characters beyond ASCII is sent in its ASCII form:
each label is checked under the rules of IDNA 2008 and written as `xn--`
followed by its Punycode form.  The name is lowered first, and split at full
stops, ideographic full stops and their fullwidth and halfwidth forms.

A label fits when it is not empty and

* it is in normalization form C;
* it neither starts nor ends with a hyphen, nor has hyphens in both its third
  and fourth places;
* it does not start with a combining mark;
* each of its code points is permitted, or is a joiner or contextual code
  point whose rule holds where it stands;
* it follows the bidirectional rule when it holds a right-to-left character
  or an Arabic digit: it then starts with a right-to-left letter, holds only
  right-to-left, number, separator, neutral and mark classes, does not mix
  European and Arabic digits, and ends (marks aside) with a right-to-left
  letter or a digit.

An ASCII label is kept as it is, after the same checks; one that starts with
`xn--` is checked in its decoded form.  No label may be longer than 63
characters in its ASCII form, and the whole name no longer than 253 (254
with a final full stop), nor 254 characters before encoding.
-/

namespace LoadHarness

namespace Idna

/-- Whether one of the ranges holds a code point. -/
def within (ranges : List (Nat × Nat)) (code : Nat) : Bool :=
  ranges.any fun (first, last) => first ≤ code && code ≤ last

/-- The bidirectional class of a code point a label may hold. -/
def directionOf (code : Nat) : Direction :=
  match directions.find? fun (first, last, _) => first ≤ code && code ≤ last with
  | some (_, _, direction) => direction
  | none => .leftToRight

/-- The joining type of a code point a label may hold, if it has one. -/
def joiningOf (code : Nat) : Option Joining :=
  (joiningTypes.find? fun (first, last, _) => first ≤ code && code ≤ last).map fun (_, _, joining) => joining

/-- The virama class of combining marks. -/
def viramaClass : Nat := 9

/-- Whether the first letter met, skipping transparent ones, joins as `accepted` says. -/
def joinsToward (accepted : Joining → Bool) : List Nat → Bool
  | [] => false
  | code :: rest =>
      match joiningOf code with
      | some .transparent => joinsToward accepted rest
      | some joining => accepted joining
      | none => false

/-- The rule of a joiner at `place` of a label: after a virama; or, for the
non-joiner, between a letter joining to the left and one joining to the right. -/
def joinerFits (label : List Nat) (place code : Nat) : Bool :=
  let before := (label.take place).reverse
  let afterVirama := match before with
    | previous :: _ => Canonical.combiningClass previous == viramaClass
    | [] => false
  afterVirama ||
    (code == 0x200C &&
      joinsToward (fun joining => joining == .left || joining == .dual) before &&
      joinsToward (fun joining => joining == .right || joining == .dual) (label.drop (place + 1)))

/-- Whether a label holds a code point of the range from `first` to `last`. -/
def holdsBetween (label : List Nat) (first last : Nat) : Bool :=
  label.any fun code => first ≤ code && code ≤ last

/-- The rule of a contextual code point at `place` of a label. -/
def contextFits (label : List Nat) (place code : Nat) : Bool :=
  let previous := if place = 0 then none else label[place - 1]?
  let next := label[place + 1]?
  if code == 0xB7 then previous == some 0x6C && next == some 0x6C
  else if code == 0x375 then next.any (within greek)
  else if code == 0x5F3 || code == 0x5F4 then previous.any (within hebrew)
  else if code == 0x30FB then label.any fun other => other != 0x30FB && within kanaOrHan other
  else if 0x660 ≤ code && code ≤ 0x669 then !holdsBetween label 0x6F0 0x6F9
  else if 0x6F0 ≤ code && code ≤ 0x6F9 then !holdsBetween label 0x660 0x669
  else false

/-- Whether the code point at `place` of a label may stand there. -/
def pointFits (label : List Nat) (place code : Nat) : Bool :=
  within permitted code ||
    (within joiners code && joinerFits label place code) ||
    (within contextual code && contextFits label place code)

/-- Whether a class is right-to-left: a letter or an Arabic digit. -/
def isRightToLeft (direction : Direction) : Bool :=
  direction == .rightToLeft || direction == .arabicLetter || direction == .arabicNumber

/-- The classes a right-to-left label may hold. -/
def rightToLeftAllows (direction : Direction) : Bool :=
  direction != .leftToRight && direction != .unknown

/-- The classes a right-to-left label may end with, marks aside. -/
def endsRightToLeft (direction : Direction) : Bool :=
  direction == .rightToLeft || direction == .arabicLetter || direction == .europeanNumber ||
    direction == .arabicNumber

/-- The bidirectional rule.  A label without right-to-left classes passes;
one with them must start with a right-to-left letter, since a left-to-right
start would forbid the right-to-left class it holds. -/
def bidiFits (label : List Nat) : Bool :=
  let classes := label.map directionOf
  if classes.contains .unknown then false
  else if !classes.any isRightToLeft then true
  else
    (classes.head?.any fun first => first == .rightToLeft || first == .arabicLetter) &&
      classes.all rightToLeftAllows &&
      !(classes.contains .europeanNumber && classes.contains .arabicNumber) &&
      ((classes.filter (· != .nonspacingMark)).getLast?.any endsRightToLeft)

/-- The hyphen rules of a label. -/
def hyphensFit (label : List Nat) : Bool :=
  !(label[2]? == some 0x2D && label[3]? == some 0x2D) &&
    label.head? != some 0x2D && label.getLast? != some 0x2D

/-- Whether a label fits the rules of IDNA 2008. -/
def labelFits (label : List Nat) : Bool :=
  !label.isEmpty && label.length ≤ 254 &&
    Canonical.nfc label == label &&
    hyphensFit label &&
    !(label.head?.any (within marks)) &&
    label.zipIdx.all (fun (code, place) => pointFits label place code) &&
    bidiFits label

/-- The code points of `xn--`. -/
def aceLead : List Nat := [0x78, 0x6E, 0x2D, 0x2D]

/-- The ASCII form of one label of a lowered name. -/
def encodeLabel (label : List Nat) : Option (List Char) :=
  if label.all (· < 0x80) then
    let fits :=
      if label.take 4 == aceLead then
        let rest := label.drop 4
        !rest.isEmpty && rest.getLast? != some 0x2D &&
          ((Punycode.decode rest).any labelFits)
      else labelFits label
    if fits && label.length ≤ 63 then some (label.map Char.ofNat) else none
  else if labelFits label then
    let written := "xn--".toList ++ Punycode.encode label
    if written.length ≤ 63 then some written else none
  else none

/-- Whether a character separates labels: a full stop, or an ideographic,
fullwidth or halfwidth full stop. -/
def isFullStop (code : Nat) : Bool :=
  code == 0x2E || code == 0x3002 || code == 0xFF0E || code == 0xFF61

/-- The ASCII form of a host name, or none when a label does not fit. -/
def encode (host : String) : Option String :=
  let codes := (Lowercase.lower host.toList).map Char.toNat
  let labels := codes.splitOnP isFullStop
  if codes.length > 254 || labels == [[]] then none
  else
    let finalStop := labels.getLast? == some []
    let labels := if finalStop then labels.dropLast else labels
    match labels.mapM encodeLabel with
    | none => none
    | some written =>
        let joined := String.intercalate "." (written.map String.ofList) ++ (if finalStop then "." else "")
        if joined.length ≤ (if finalStop then 254 else 253) then some joined else none

end Idna

end LoadHarness
