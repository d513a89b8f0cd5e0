import AgentRuns.File.Name

/-!
# Paths

A path is a kind of root and its segments. Reading a path drops empty segments
and single points and keeps double points, since what they lead to depends on
the folders that are there. Exactly two slashes at the start are a root of their
own; any other positive number of them is the common root.

Writing a path that was read and reading it again yields the same path.

Any text writes a path, but not every text is a name in a file system. A path with
a segment that is none is malformed: it leads nowhere, and asking for what it
leads to is an error.
-/

namespace AgentRuns

/-- Where a path begins. -/
inductive PathRoot
  | relative
  | absolute
  | doubled
  deriving DecidableEq

/-- A path in normal form. -/
structure Path where
  root : PathRoot := .relative
  segments : List Text := []
  deriving DecidableEq

/-- What is wrong with a malformed path: it holds the null character, or halves of
    surrogate pairs that no name holds. Of those the first ones in a row are told,
    from their position in the path's text on. -/
inductive PathError
  | nullCharacter
  | halves (first : CodePoint) (position count : Nat)

/-- The error in words. -/
def PathError.message : PathError → Text
  | .nullCharacter => "embedded null byte"
  | .halves first position count =>
    let which : Text :=
      if count = 1 then
        "character '\\u" ++ Text.ofChars (Nat.toDigits 16 first.toNat) ++ "' in position " ++
          Text.ofNat position
      else
        "characters in position " ++ Text.ofNat position ++ "-" ++
          Text.ofNat (position + count - 1)
    "'utf-8' codec can't encode " ++ which ++ ": surrogates not allowed"

namespace Path

/-- Whether a segment of a written path counts. -/
def counts (segment : Text) : Bool := !segment.isEmpty && segment != "."

/-- The path that a text writes. -/
def ofText (text : Text) : Path :=
  let root :=
    match (text.takeWhile (· == .char '/')).length with
    | 0 => .relative
    | 2 => .doubled
    | _ => .absolute
  ⟨root, (text.splitOn (.char '/')).filter counts⟩

/-- The path as text; the empty relative path is a single point. -/
def text (path : Path) : Text :=
  let inside := Text.join "/" path.segments
  match path.root with
  | .relative => Text.orElse inside "."
  | .absolute => '/' :: inside
  | .doubled => '/' :: '/' :: inside

/-- A path below another one, unless it begins at a root of its own. -/
def join (path : Path) (below : Path) : Path :=
  if below.root = .relative then { path with segments := path.segments ++ below.segments }
  else below

/-- The last segment, empty if there is none. -/
def name (path : Path) : Text := path.segments.getLast?.getD []

/-- The path without its last segment. -/
def parent (path : Path) : Path := { path with segments := path.segments.dropLast }

/-- The last point of the name and what follows it, if the name has something on
    both sides of that point; else nothing. -/
def suffix (path : Path) : Text :=
  let backward := path.name.reverse
  let extension := backward.takeWhile (· != .char '.')
  let stem := (backward.drop (extension.length + 1))
  if extension.isEmpty || stem.isEmpty then [] else '.' :: extension.reverse

/-- The path with this suffix in place of its own. -/
def withSuffix (path : Path) (suffix : Text) : Path :=
  let stem := path.name.take (path.name.length - path.suffix.length)
  { path with segments := path.segments.dropLast ++ [stem ++ suffix] }

/-- The first halves in a row that no name holds, in a text that stands behind so
    many others. -/
def foreignHalves? (before : Nat) : Text → Option PathError
  | [] => none
  | c :: rest =>
    if FileName.isForeign c then
      some (.halves c before (1 + (rest.takeWhile CodePoint.isHalf).length))
    else foreignHalves? (before + 1) rest

/-- The path, if it is not malformed. Halves of pairs are told before a null
    character. -/
def wellFormed (path : Path) : Except PathError Path :=
  match foreignHalves? 0 path.text with
  | some error => .error error
  | none =>
    if path.text.contains (.char '\x00') then .error .nullCharacter else .ok path

end Path

end AgentRuns
