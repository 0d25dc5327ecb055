import CompletionCache.Url.Percent

/-!
# Paths of addresses

A path is kept as its text. `Path.append` takes one segment more: a segment of two dots takes the
last one away, a segment of one dot adds nothing, and any other is added as it stands. The slash
behind a segment that looks like a drive letter is never taken away.
-/

set_option autoImplicit false

namespace CompletionCache.Path

/-- The segments that mean the container of the last one. -/
def isDoubleDot (segment : List Char) : Bool :=
  [['.', '.'], ['.', '%', '2', 'e'], ['%', '2', 'e', '.'],
    ['%', '2', 'e', '%', '2', 'e']].contains (segment.map Char.toLower)

/-- The segments that mean nothing. -/
def isSingleDot (segment : List Char) : Bool :=
  [['.'], ['%', '2', 'e']].contains (segment.map Char.toLower)

/-- Whether a text starts with a drive letter that stands alone in its segment. -/
def startsWithDrive : List Char → Bool
  | letter :: mark :: rest =>
    letter.isAlpha && (mark == ':' || mark == '|') &&
      (rest.isEmpty || ['/', '\\', '?', '#'].contains (rest.headD '/'))
  | _ => false

/-- The text up to its last slash, with it. -/
def upToSlash (path : List Char) : List Char := (path.reverse.dropWhile (· ≠ '/')).reverse

/-- The text behind its last slash. -/
def behindSlash (path : List Char) : List Char := (path.reverse.takeWhile (· ≠ '/')).reverse

/-- Whether the slash at the end may be taken away: it is not the first one, and no drive letter
stands before it. -/
def slashCanGo (path : List Char) : Bool :=
  path.getLast? == some '/' && path.dropLast.contains '/' &&
    !startsWithDrive (behindSlash path.dropLast ++ ['/'])

/-- The path without its last segment. -/
def shorten (path : List Char) : List Char :=
  upToSlash (if slashCanGo path then path.dropLast else path)

/-- The path with a slash at its end. -/
def closed (path : List Char) : List Char :=
  if path.getLast? = some '/' then path else path ++ ['/']

/-- The path with one segment more; `slash` says whether a slash follows it. -/
def append (path segment : List Char) (slash : Bool) : List Char :=
  if isDoubleDot segment then if slash then closed (shorten path) else shorten path
  else if isSingleDot segment then closed path
  else path ++ segment ++ (if slash then ['/'] else [])

/-- Reads a path up to the query or the fragment. `segment` holds the characters of the segment that
has begun, the last one first; in a special scheme a backslash is a slash. -/
def read (special : Bool) : (path segment text : List Char) → List Char × List Char
  | path, segment, [] => (append path (Percent.encode Percent.inPath segment.reverse) false, [])
  | path, segment, c :: rest =>
    if c = '?' ∨ c = '#' then
      (append path (Percent.encode Percent.inPath segment.reverse) false, c :: rest)
    else if c = '/' ∨ (special ∧ c = '\\') then
      read special (append path (Percent.encode Percent.inPath segment.reverse) true) [] rest
    else read special path (c :: segment) rest

end CompletionCache.Path
