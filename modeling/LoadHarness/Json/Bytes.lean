import LoadHarness.Json.Decode

/-!
# JSON documents in bytes

A document that arrives as bytes is first turned into text.  Its encoding is
guessed from its first bytes:

* a byte-order mark names UTF-32 or UTF-16 (its byte order read from the
  mark) or UTF-8, and is dropped;
* otherwise zero bytes among the first four tell the wide encodings apart,
  as a document starts with an ASCII character: `00 00` is UTF-32 big-endian,
  `00 xx` UTF-16 big-endian, `xx 00 00 00` UTF-32 little-endian, and
  `xx 00` followed by a non-zero byte UTF-16 little-endian; a document of two
  bytes is read the same way with its two bytes;
* anything else is UTF-8.

Bytes that do not fit the guessed encoding (a cut-off code unit, a code point
past `10FFFF`, malformed UTF-8) make the document unreadable.  A surrogate
that is not part of a pair passes through; as no string here can hold one, it
reads as the replacement character `U+FFFD`, which takes the same one
position in the text.
-/

namespace LoadHarness

namespace Json

/-- The encodings a document in bytes may be in. -/
inductive ByteEncoding where
  | utf8
  /-- UTF-8 after a byte-order mark, which is dropped. -/
  | utf8Marked
  /-- UTF-16 in the given byte order. -/
  | utf16 (bigEndian : Bool)
  /-- UTF-32 in the given byte order. -/
  | utf32 (bigEndian : Bool)
  deriving Repr, Inhabited, BEq

/-- The encoding of a document, and how many bytes of byte-order mark lead it. -/
def detectEncoding (bytes : List UInt8) : ByteEncoding × Nat :=
  match bytes with
  | 0x00 :: 0x00 :: 0xFE :: 0xFF :: _ => (.utf32 true, 4)
  | 0xFF :: 0xFE :: 0x00 :: 0x00 :: _ => (.utf32 false, 4)
  | 0xFE :: 0xFF :: _ => (.utf16 true, 2)
  | 0xFF :: 0xFE :: _ => (.utf16 false, 2)
  | 0xEF :: 0xBB :: 0xBF :: _ => (.utf8Marked, 3)
  | [first, second] =>
      if first == 0 then (.utf16 true, 0)
      else if second == 0 then (.utf16 false, 0)
      else (.utf8, 0)
  | first :: second :: third :: fourth :: _ =>
      if first == 0 then (if second != 0 then .utf16 true else .utf32 true, 0)
      else if second == 0 then (if third != 0 || fourth != 0 then .utf16 false else .utf32 false, 0)
      else (.utf8, 0)
  | _ => (.utf8, 0)

/-- The replacement character, read for a surrogate that is not part of a pair. -/
def replacement : Char := Char.ofNat 0xFFFD

/-- The character of a code point of at most `10FFFF`: a surrogate reads as
the replacement character. -/
def pointChar (code : Nat) : Char :=
  if 0xD800 ≤ code && code ≤ 0xDFFF then replacement else Char.ofNat code

/-- The bytes cut into units of `width` bytes, each read in the given byte
order; none when bytes are left over. -/
def units (width : Nat) (bigEndian : Bool) (bytes : List UInt8) : Option (List Nat) :=
  let rec go (fuel : Nat) (bytes : List UInt8) : Option (List Nat) :=
    match fuel with
    | 0 => some []
    | fuel + 1 =>
        if bytes.isEmpty then some []
        else if bytes.length < width then none
        else
          let unit := bytes.take width
          let ordered := if bigEndian then unit else unit.reverse
          let value := ordered.foldl (fun total byte => total * 256 + byte.toNat) 0
          (go fuel (bytes.drop width)).map (value :: ·)
  go (bytes.length + 1) bytes

/-- The characters of UTF-16 code units: a high surrogate followed by a low one
makes one character. -/
def joinSurrogates : List Nat → List Char
  | high :: low :: rest =>
      if 0xD800 ≤ high && high ≤ 0xDBFF && 0xDC00 ≤ low && low ≤ 0xDFFF then
        Char.ofNat (0x10000 + (high - 0xD800) * 0x400 + (low - 0xDC00)) :: joinSurrogates rest
      else pointChar high :: joinSurrogates (low :: rest)
  | [single] => [pointChar single]
  | [] => []

/-- The text of a document in bytes, none when the bytes do not fit the
encoding guessed from them. -/
def textOfBytes (bytes : ByteArray) : Option String :=
  let all := bytes.toList
  let (encoding, mark) := detectEncoding all
  let body := all.drop mark
  match encoding with
  | .utf8 | .utf8Marked => String.fromUTF8? (ByteArray.mk body.toArray)
  | .utf16 bigEndian => (units 2 bigEndian body).map fun codes => String.ofList (joinSurrogates codes)
  | .utf32 bigEndian =>
      (units 4 bigEndian body).bind fun codes =>
        if codes.all (· ≤ 0x10FFFF) then some (String.ofList (codes.map pointChar)) else none

end Json

end LoadHarness
