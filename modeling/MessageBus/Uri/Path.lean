/-!
# Paths

A path is a row of segments. A dot stands for the place where it is and two dots for the one above,
and either may be written as an encoded dot; `resolve` takes both out of a path. Nothing is above
the first segment, and nothing is above a segment that names a drive.
-/

set_option autoImplicit false

namespace MessageBus.Uri

/-- The segments of a path, which begins behind its first slash. -/
abbrev Segments := List (List Char)

/-- The forms of a dot. -/
def dots : List (List Char) := [".".toList, "%2e".toList, "%2E".toList]

/-- Whether a segment stands for the place where it is. -/
def isDot (segment : List Char) : Bool := dots.contains segment

/-- Whether a segment stands for the place above. -/
def isDoubleDot (segment : List Char) : Bool :=
  dots.any fun first => dots.any fun second => segment == first ++ second

/-- Whether a segment names a drive: a letter and a colon or a bar, and no more before the first
backslash. -/
def isDrive : List Char → Bool
  | letter :: mark :: rest =>
    letter.isAlpha && (mark = ':' || mark = '|') && (rest.isEmpty || rest.head? = some '\\')
  | _ => false

/-- The segments after a step up: the last one is gone, unless it is a drive. The last segment
stands first. -/
def stepUp : Segments → Segments
  | [] => []
  | last :: before => if isDrive last then last :: before else before

/-- The segments with the dots taken out, behind some that are done, the last one first. Where a
path ends with dots its last segment is empty. -/
def resolveFrom (done : Segments) : Segments → Segments
  | [] => done.reverse
  | [last] =>
    if isDoubleDot last then ([] :: stepUp done).reverse
    else if isDot last then ([] :: done).reverse
    else (last :: done).reverse
  | segment :: rest =>
    if isDoubleDot segment then resolveFrom (stepUp done) rest
    else if isDot segment then resolveFrom done rest
    else resolveFrom (segment :: done) rest

/-- A path behind its first slash, with the dots taken out. -/
def resolve (path : List Char) : List Char :=
  ['/'].intercalate (resolveFrom [] (path.splitOn '/'))

end MessageBus.Uri
