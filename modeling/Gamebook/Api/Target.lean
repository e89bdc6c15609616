import Gamebook.Entries
import Gamebook.Text.Percent
import Gamebook.Text.Split

/-!
# Targets

The target of a request is a path, behind which a question mark may lead a query. A scheme and a
host may stand in front, and a part behind a number sign is not sent. The names `.` and `..` of a
path are followed while it is still encoded; then it is decoded twice, once by the sender and once
by the receiver.
-/

namespace Gamebook

structure Target where
  path : String
  query : Entries String

namespace Target

/-- The text in front of the first occurrence of a character, and the text behind it. -/
def cutAt (sep : Char) (cs : List Char) : List Char × List Char :=
  (cs.takeWhile (· ≠ sep), (cs.dropWhile (· ≠ sep)).drop 1)

/-! ## Path -/

def isSchemeChar (c : Char) : Bool := c.isAlphanum || c = '+' || c = '.' || c = '-'

/-- The scheme in front, without its colon, and the rest. -/
def takeScheme (cs : List Char) : List Char × List Char :=
  let (scheme, rest) := cutAt ':' cs
  if cs.contains ':' && scheme.all isSchemeChar && !(scheme.head?.any fun c => !c.isAlpha) then
    (scheme, rest)
  else ([], cs)

/-- The host in front, behind two slashes, and the rest. -/
def takeHost : List Char → List Char × List Char
  | '/' :: '/' :: cs => (cs.takeWhile (· ≠ '/'), cs.dropWhile (· ≠ '/'))
  | cs => ([], cs)

/-- The names along a path with `.` and `..` followed, after `done` (in reverse). The first name,
which is empty, stays. -/
def followDots (done : List (List Char)) : List (List Char) → List (List Char)
  | [] => done.reverse
  | ['.'] :: names => followDots done names
  | ['.', '.'] :: names => followDots (if done = [[]] then done else done.drop 1) names
  | name :: names => followDots (name :: done) names

/-- A path with `.` and `..` followed. -/
def follow (path : List Char) : List Char :=
  ['/'].intercalate (followDots [] (Text.splitAt '/' path))

/-- The path of a target in front of its query. It is followed once if a scheme or a host stands in
front, and again as a path of the receiver, which begins with one slash unless both stand there. -/
def pathOf (front : List Char) : String :=
  let (scheme, rest) := takeScheme front
  let (host, rest) := takeHost rest
  let rest := if scheme.isEmpty && host.isEmpty then rest else follow rest
  let path := if scheme.isEmpty || host.isEmpty then '/' :: rest.dropWhile (· = '/') else rest
  String.ofList (Text.percentDecode (Text.percentDecode (follow path)))

/-! ## Query -/

/-- The text of a name or a value in a query, where a plus stands for a space. -/
def queryText (cs : List Char) : String :=
  String.ofList (Text.percentDecode (cs.map fun c => if c = '+' then ' ' else c))

/-- The parameters of a query. Of several values of one parameter the last counts. -/
def queryOf (cs : List Char) : Entries String :=
  .ofPairs (((Text.splitAt '&' cs).filter (!·.isEmpty)).map fun part =>
    let (name, value) := cutAt '=' part
    (queryText name, queryText value))

def ofText (s : String) : Target :=
  let (front, query) := cutAt '?' (s.toList.takeWhile (· ≠ '#'))
  ⟨pathOf front, queryOf query⟩

end Target

end Gamebook
