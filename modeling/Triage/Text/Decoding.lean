import Triage.Text.Quoted

/-!
# Reading bytes as text

* `decodeUtf8`, `decodeUtf16`: the characters of a byte sequence, or the first fault in it.
* `DecodingFault.message`: the wording of a fault.
* `notAsciiReason`: the wording for a text that has to be in ASCII and is not.
-/

namespace Triage.Text

/-- A fault in a byte sequence: the bytes from `start` up to `stop` stand for no character. -/
structure DecodingFault where
  encoding : String
  start : Nat
  stop : Nat
  reason : String
  deriving DecidableEq, Repr

/-- The first byte of the fault. -/
def DecodingFault.byte (f : DecodingFault) (bs : List UInt8) : UInt8 := bs.getD f.start 0

/-- The wording of a fault in the given bytes. -/
def DecodingFault.message (f : DecodingFault) (bs : List UInt8) : String :=
  if f.stop == f.start + 1 then
    let byte := String.ofList (hexPadded 2 (f.byte bs).toNat)
    s!"'{f.encoding}' codec can't decode byte 0x{byte} in position {f.start}: {f.reason}"
  else s!"'{f.encoding}' codec can't decode bytes in position {f.start}-{f.stop - 1}: {f.reason}"

/-- The fault as it is shown as a cause. -/
def DecodingFault.shown (f : DecodingFault) (bs : List UInt8) : String :=
  s!"UnicodeDecodeError({quoted f.encoding}, {quotedBytes bs}, {f.start}, {f.stop}, {quoted f.reason})"

/-- A continuation byte. -/
def isContinuation (b : UInt8) : Bool := 0x80 ≤ b && b < 0xc0

/-- The six bits of a continuation byte. -/
def lowSix (b : UInt8) : Nat := b.toNat % 64

/-- Whether the second byte fits the first one: no longer form than needed, no surrogate, and nothing
beyond the last code point. -/
def secondFits (first second : UInt8) : Bool :=
  isContinuation second &&
    (if first == 0xe0 then 0xa0 ≤ second
     else if first == 0xed then second < 0xa0
     else if first == 0xf0 then 0x90 ≤ second
     else if first == 0xf4 then second < 0x90
     else true)

/-- How many bytes a character takes that starts with the given byte; zero if none does. -/
def sequenceLength (b : UInt8) : Nat :=
  if b < 0x80 then 1
  else if b < 0xc2 then 0
  else if b < 0xe0 then 2
  else if b < 0xf0 then 3
  else if b < 0xf5 then 4
  else 0

/-- Reads one character at the head of the bytes: the character and its length, or how many bytes are at
fault and why. -/
def utf8Head (first : UInt8) (rest : List UInt8) : Except (Nat × String) (Char × Nat) :=
  let tooShort (n : Nat) : Except (Nat × String) (Char × Nat) := .error (n, "unexpected end of data")
  let broken (n : Nat) : Except (Nat × String) (Char × Nat) := .error (n, "invalid continuation byte")
  match sequenceLength first with
  | 0 => .error (1, "invalid start byte")
  | 1 => .ok (Char.ofNat first.toNat, 1)
  | 2 =>
    match rest with
    | [] => tooShort 1
    | b :: _ =>
      if isContinuation b then .ok (Char.ofNat (first.toNat % 32 * 64 + lowSix b), 2) else broken 1
  | 3 =>
    match rest with
    | [] => tooShort 1
    | b :: rest =>
      if !secondFits first b then broken 1
      else
        match rest with
        | [] => tooShort 2
        | c :: _ =>
          if isContinuation c then
            .ok (Char.ofNat (first.toNat % 16 * 4096 + lowSix b * 64 + lowSix c), 3)
          else broken 2
  | _ =>
    match rest with
    | [] => tooShort 1
    | b :: rest =>
      if !secondFits first b then broken 1
      else
        match rest with
        | [] => tooShort 2
        | c :: rest =>
          if !isContinuation c then broken 2
          else
            match rest with
            | [] => tooShort 3
            | d :: _ =>
              if isContinuation d then
                .ok (Char.ofNat
                  (first.toNat % 8 * 262144 + lowSix b * 4096 + lowSix c * 64 + lowSix d), 4)
              else broken 3

/-- Reads characters from a position on. Each step consumes a byte, so that the number of bytes is fuel
enough. -/
def utf8From : Nat → Nat → List UInt8 → Except DecodingFault (List Char)
  | 0, _, _ => .ok []
  | _ + 1, _, [] => .ok []
  | fuel + 1, i, b :: bs =>
    match utf8Head b bs with
    | .error (n, reason) => .error ⟨"utf-8", i, i + n, reason⟩
    | .ok (c, n) => (utf8From fuel (i + n) (bs.drop (n - 1))).map (c :: ·)

/-- Reads UTF-8. -/
def decodeUtf8 (bs : List UInt8) : Except DecodingFault (List Char) :=
  utf8From bs.length 0 bs

/-- A unit of two bytes. -/
def unit16 (bigEndian : Bool) (a b : UInt8) : Nat :=
  if bigEndian then a.toNat * 256 + b.toNat else b.toNat * 256 + a.toNat

/-- Reads characters of two or four bytes from a position on. -/
def utf16From (bigEndian : Bool) (encoding : String) :
    Nat → Nat → List UInt8 → Except DecodingFault (List Char)
  | 0, _, _ => .ok []
  | _ + 1, _, [] => .ok []
  | _ + 1, i, [_] => .error ⟨encoding, i, i + 1, "truncated data"⟩
  | fuel + 1, i, a :: b :: rest =>
    let n := unit16 bigEndian a b
    if n < 0xd800 || 0xe000 ≤ n then
      (utf16From bigEndian encoding fuel (i + 2) rest).map (Char.ofNat n :: ·)
    else if 0xdc00 ≤ n then .error ⟨encoding, i, i + 2, "illegal encoding"⟩
    else
      match rest with
      | c :: d :: rest =>
        let m := unit16 bigEndian c d
        if 0xdc00 ≤ m && m < 0xe000 then
          let code := 0x10000 + (n - 0xd800) * 0x400 + (m - 0xdc00)
          (utf16From bigEndian encoding fuel (i + 4) rest).map (Char.ofNat code :: ·)
        else .error ⟨encoding, i, i + 2, "illegal UTF-16 surrogate"⟩
      | rest => .error ⟨encoding, i, i + 2 + rest.length, "unexpected end of data"⟩

/-- Reads UTF-16 in the given order of bytes. -/
def decodeUtf16 (bigEndian : Bool) (bs : List UInt8) : Except DecodingFault (List Char) :=
  utf16From bigEndian (if bigEndian then "utf-16-be" else "utf-16-le") bs.length 0 bs

/-- Where the first run of characters beyond ASCII starts, and the run. -/
def beyondAscii (s : String) : Nat × List Char :=
  let cs := s.toList
  let start := (cs.takeWhile fun c => c.toNat < 128).length
  (start, (cs.drop start).takeWhile fun c => 128 ≤ c.toNat)

/-- The complaint that a text is not in ASCII. -/
def notAsciiReason (s : String) : String :=
  let (start, run) := beyondAscii s
  match run with
  | [c] =>
    let escape := String.ofList (numericEscape c.toNat)
    s!"'ascii' codec can't encode character '{escape}' in position {start}: ordinal not in range(128)"
  | run =>
    s!"'ascii' codec can't encode characters in position {start}-{start + run.length - 1}: " ++
      "ordinal not in range(128)"

/-- That complaint as it is shown as a cause. -/
def shownNotAscii (s : String) : String :=
  let (start, run) := beyondAscii s
  s!"UnicodeEncodeError('ascii', {quoted s}, {start}, {start + run.length}, 'ordinal not in range(128)')"

end Triage.Text
