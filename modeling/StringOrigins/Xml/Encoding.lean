import StringOrigins.Text.Utf8
import StringOrigins.Xml.Declaration

/-! # Encodings of documents

    The encoding of a document is told by a byte order mark, else by the
    UTF-16 form of its first two characters, else by its declaration, and
    is UTF-8 otherwise.  All octets have to be text in that encoding. -/

namespace StringOrigins.Xml

open Utf8 (Octets)

/-- An encoding of documents. -/
inductive Encoding where
  | utf8
  | utf16 (bigEndian : Bool)
  | ascii
  /-- ISO-8859-1. -/
  | latin1
  /-- ISO-8859-15. -/
  | latin9
  | windows1252
  deriving DecidableEq, Repr

namespace Encoding

/-! ## Section 1: Octets to characters -/

/-- The code points of windows-1252 from 0x80 to 0x9F; five are not defined. -/
def windows1252Table : List (Option Nat) :=
  [some 0x20AC, none, some 0x201A, some 0x0192, some 0x201E, some 0x2026, some 0x2020, some 0x2021,
   some 0x02C6, some 0x2030, some 0x0160, some 0x2039, some 0x0152, none, some 0x017D, none,
   none, some 0x2018, some 0x2019, some 0x201C, some 0x201D, some 0x2022, some 0x2013, some 0x2014,
   some 0x02DC, some 0x2122, some 0x0161, some 0x203A, some 0x0153, none, some 0x017E, some 0x0178]

/-- The code points of ISO-8859-15 that differ from ISO-8859-1. -/
def latin9Table : List (Nat × Nat) :=
  [(0xA4, 0x20AC), (0xA6, 0x160), (0xA8, 0x161), (0xB4, 0x17D), (0xB8, 0x17E), (0xBC, 0x152),
   (0xBD, 0x153), (0xBE, 0x178)]

/-- The code point of an octet in an encoding of single octets. -/
def codePoint? (encoding : Encoding) (octet : UInt8) : Option Nat :=
  let n := octet.toNat
  if n < 0x80 then some n
  else match encoding with
    | .latin1 => some n
    | .latin9 => some ((latin9Table.lookup n).getD n)
    | .windows1252 => if n < 0xA0 then windows1252Table[n - 0x80]?.join else some n
    | _ => none

/-- A code unit of UTF-16 from its two octets. -/
def unit (bigEndian : Bool) (a b : UInt8) : Nat :=
  if bigEndian then a.toNat * 256 + b.toNat else b.toNat * 256 + a.toNat

/-- The text that octets hold in UTF-16, behind a text that is done and held
    in reverse.  Surrogates come in pairs. -/
def utf16From (bigEndian : Bool) (done : List Char) : Octets → Option (List Char)
  | [] => some done.reverse
  | [_] => none
  | a :: b :: rest =>
    let high := unit bigEndian a b
    if high < 0xD800 ∨ 0xE000 ≤ high then utf16From bigEndian (Char.ofNat high :: done) rest
    else match rest with
      | c :: d :: rest =>
        let low := unit bigEndian c d
        if high < 0xDC00 ∧ 0xDC00 ≤ low ∧ low < 0xE000 then
          utf16From bigEndian
            (Char.ofNat (0x10000 + (high - 0xD800) * 0x400 + (low - 0xDC00)) :: done) rest
        else none
      | _ => none

/-- The text that octets hold in an encoding. -/
def decode? (encoding : Encoding) (octets : Octets) : Option (List Char) :=
  match encoding with
  | .utf8 => (Utf8.decode octets).toOption
  | .utf16 bigEndian => utf16From bigEndian [] octets
  | _ => octets.mapM fun octet => (encoding.codePoint? octet).map Char.ofNat

/-! ## Section 2: Which encoding -/

/-- The encodings that a declaration may name, with their names in lower case. -/
def named : List (List Char × Encoding) :=
  [("utf-8".toList, .utf8), ("utf8".toList, .utf8), ("us-ascii".toList, .ascii),
   ("ascii".toList, .ascii), ("iso-8859-1".toList, .latin1), ("latin1".toList, .latin1),
   ("iso-8859-15".toList, .latin9), ("windows-1252".toList, .windows1252),
   ("cp1252".toList, .windows1252)]

/-- The encoding that a declaration in single octets names. -/
def declared (octets : Octets) : Except Fault Encoding :=
  match Declaration.read (octets.map fun octet => Char.ofNat octet.toNat) with
  | .error fault => .error fault
  | .ok (none, _) => .ok .utf8
  | .ok (some name, _) =>
    match named.lookup (name.map Char.toLower) with
    | some encoding => .ok encoding
    | none => .error .unknownEncoding

/-- The encoding of a document, and its octets behind any byte order mark. -/
def detect (octets : Octets) : Except Fault (Encoding × Octets) :=
  match octets with
  | 0xEF :: 0xBB :: 0xBF :: rest => .ok (.utf8, rest)
  | 0xFF :: 0xFE :: rest => .ok (.utf16 false, rest)
  | 0xFE :: 0xFF :: rest => .ok (.utf16 true, rest)
  -- Without a mark, UTF-16 is told by the start of a declaration or an instruction.
  | 0x3C :: 0x00 :: 0x3F :: 0x00 :: _ => .ok (.utf16 false, octets)
  | 0x00 :: 0x3C :: 0x00 :: 0x3F :: _ => .ok (.utf16 true, octets)
  | _ => (declared octets).map (·, octets)

/-- The text of a document. -/
def decode (octets : Octets) : Except Fault (List Char) :=
  match detect octets with
  | .error fault => .error fault
  | .ok (encoding, octets) =>
    match encoding.decode? octets with
    | none => .error .undecodable
    | some text =>
      if text.all fun c => isAllowed c.toNat then .ok text else .error .forbiddenCharacter

end Encoding

end StringOrigins.Xml
