import Triage.Text.Decoding
import Triage.Yaml.Error

/-!
# The characters of a document

A document comes as text or as bytes. Bytes are UTF-8 unless they start with the mark of UTF-16. Either way
only characters with a place in a document are let through.
-/

namespace Triage.Yaml

/-- What a document is read from. -/
inductive Source where
  | text (s : String)
  | bytes (bs : List UInt8)
  /-- A text that comes from the named file and is not kept for messages. -/
  | file (name : String) (s : String)
  deriving Repr

namespace Source

/-- The name of a source in messages. -/
def name : Source → String
  | text _ => "<unicode string>"
  | bytes _ => "<byte string>"
  | file n _ => n

/-- Characters that may stand in a document. -/
def admits (c : Char) : Bool :=
  let n := c.toNat
  n == 0x9 || n == 0xa || n == 0xd || (0x20 ≤ n && n ≤ 0x7e) || n == 0x85 || (0xa0 ≤ n && n ≤ 0xd7ff) ||
    (0xe000 ≤ n && n ≤ 0xfffd) || 0x10000 ≤ n

/-- The characters as they are, if all of them may stand in a document. -/
def admitted (name : String) (cs : List Char) : Except Error (List Char) :=
  match cs.dropWhile admits with
  | [] => .ok cs
  | c :: rest =>
    .error (.unreadable name (cs.length - rest.length - 1) c.toNat "unicode"
      "special characters are not allowed")

/-- Reads bytes as characters. -/
def decode (bs : List UInt8) : Except Text.DecodingFault (List Char) :=
  match bs with
  | 0xff :: 0xfe :: _ => Text.decodeUtf16 false bs
  | 0xfe :: 0xff :: _ => Text.decodeUtf16 true bs
  | _ => Text.decodeUtf8 bs

/-- The characters of a document. -/
def characters (s : Source) : Except Error (List Char) :=
  match s with
  | text t | file _ t => admitted s.name t.toList
  | bytes bs =>
    match decode bs with
    | .ok cs => admitted s.name cs
    | .error f => .error (.unreadable s.name f.start (f.byte bs).toNat f.encoding f.reason)

/-- The text that messages may show. -/
def shownText : Source → Option (List Char)
  | text t => some t.toList
  | bytes bs => (decode bs).toOption
  | file _ _ => none

end Source

end Triage.Yaml
