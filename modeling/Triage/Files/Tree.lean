import Triage.Text.Decoding

/-!
# Paths and files

* `normalPath`: a path without steps that lead nowhere.
* `FileTree`: files by path, with the directories that they lie in.
* `FileTree.readText`: the text of a file, with every kind of line end read as a line feed.
-/

namespace Triage

/-- The parts of a path between slashes, without empty ones and those that lead nowhere. -/
def pathParts (path : String) : List String :=
  (go [] path.toList).filter fun p => p != "" && p != "."
where
  /-- The parts of the rest, of which the first continues the characters in `done`, held in reverse. -/
  go (done : List Char) : List Char → List String
    | [] => [String.ofList done.reverse]
    | c :: cs => if c == '/' then String.ofList done.reverse :: go [] cs else go (c :: done) cs

/-- The slashes that a path keeps at its start: two exactly are kept, more count as one. -/
def pathRoot (path : String) : String :=
  match (path.toList.takeWhile (· == '/')).length with
  | 0 => ""
  | 2 => "//"
  | _ => "/"

/-- A path without steps that lead nowhere; the empty path is that of the directory itself. -/
def normalPath (path : String) : String :=
  let body := "/".intercalate (pathParts path)
  let whole := pathRoot path ++ body
  if whole.isEmpty then "." else whole

/-- Whether a path starts at the root. -/
def isAbsolutePath (path : String) : Bool := path.toList.head? == some '/'

/-- The steps of a path, of which the first one of an absolute path is the root. -/
def pathSteps (path : String) : List String :=
  if isAbsolutePath path then "/" :: pathParts path else pathParts path

/-- The directory around the one that steps lead to. The root is its own. -/
def outerSteps (steps : List String) : List String :=
  if steps == ["/"] then steps else steps.dropLast

/-- Files by the steps of their paths. -/
structure FileTree where
  files : List (List String × List UInt8)
  deriving Repr

namespace FileTree

/-- No files. -/
def empty : FileTree := ⟨[]⟩

/-- Files by path. -/
def ofList (files : List (String × List UInt8)) : FileTree :=
  ⟨files.map fun (p, bs) => (pathSteps p, bs)⟩

/-- The tree with one more file, which comes before another one at the same path. -/
def insert (t : FileTree) (path : String) (bytes : List UInt8) : FileTree :=
  ⟨(pathSteps path, bytes) :: t.files⟩

/-- What is found at a path. -/
inductive Entry where
  | file (bytes : List UInt8)
  | directory
  deriving Repr

/-- What is found after the given steps. The root and the directory where paths start are always there. -/
def entryAt? (t : FileTree) (steps : List String) : Option Entry :=
  match t.files.lookup steps with
  | some bs => some (.file bs)
  | none =>
    if steps.isEmpty || steps == ["/"] || t.files.any fun f => steps.isPrefixOf f.1 then some .directory
    else none

/-- Follows the parts of a path from a directory, one at a time. -/
def follow (t : FileTree) (here : List String) : List String → Option Entry
  | [] => t.entryAt? here
  | p :: ps =>
    match t.entryAt? here with
    | some .directory =>
      if p == ".." then t.follow (outerSteps here) ps else t.follow (here ++ [p]) ps
    | _ => none

/-- What is found at a path. -/
def find? (t : FileTree) (path : String) : Option Entry :=
  t.follow (if isAbsolutePath path then ["/"] else []) (pathParts path)

/-- Whether something is found at a path. -/
def «exists» (t : FileTree) (path : String) : Bool := (t.find? path).isSome

end FileTree

/-- A text with every kind of line end as a line feed. -/
def lineFeedsOnly : List Char → List Char
  | '\r' :: '\n' :: cs => '\n' :: lineFeedsOnly cs
  | '\r' :: cs => '\n' :: lineFeedsOnly cs
  | c :: cs => c :: lineFeedsOnly cs
  | [] => []

/-- Why a file cannot be read. -/
inductive ReadError where
  | missing
  | directory (path : String)
  | undecodable (bytes : List UInt8) (fault : Text.DecodingFault)
  deriving DecidableEq, Repr

namespace FileTree

/-- The text of a file in UTF-8. -/
def readText (t : FileTree) (path : String) : Except ReadError String :=
  match t.find? path with
  | none => .error .missing
  | some .directory => .error (.directory (normalPath path))
  | some (.file bs) =>
    match Text.decodeUtf8 bs with
    | .ok cs => .ok (String.ofList (lineFeedsOnly cs))
    | .error f => .error (.undecodable bs f)

end FileTree

namespace ReadError

/-- The name of the error. -/
def name : ReadError → String
  | missing => "FileNotFoundError"
  | directory _ => "IsADirectoryError"
  | undecodable .. => "UnicodeDecodeError"

/-- The wording of the error; `notFound` says that there is no such file. -/
def message (notFound : String) : ReadError → String
  | missing => notFound
  | directory path => s!"[Errno 21] Is a directory: {Text.quoted path}"
  | undecodable bytes f => f.message bytes

/-- The error as it is shown as a cause. -/
def shown (notFound : String) : ReadError → String
  | missing => s!"FileNotFoundError({Text.quoted notFound})"
  | directory _ => "IsADirectoryError(21, 'Is a directory')"
  | undecodable bytes f => f.shown bytes

end ReadError

end Triage
