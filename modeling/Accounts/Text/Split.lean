/-!
# Splitting text

Texts are cut at every occurrence of a separator, or at its first or last one.
-/

namespace Accounts.Text

/-- The pieces between separators. There is one more piece than there are separators. -/
def split (separator : Char) : List Char → List (List Char)
  | [] => [[]]
  | c :: rest =>
    if c = separator then [] :: split separator rest
    else
      match split separator rest with
      | piece :: pieces => (c :: piece) :: pieces
      | [] => [[c]]

/-- What stands before and after the first separator. -/
def splitFirst (separator : Char) : List Char → Option (List Char × List Char)
  | [] => none
  | c :: rest =>
    if c = separator then some ([], rest)
    else (splitFirst separator rest).map fun (before, after) => (c :: before, after)

/-- What stands before and after the last separator. -/
def splitLast (separator : Char) (cs : List Char) : Option (List Char × List Char) :=
  (splitFirst separator cs.reverse).map fun (after, before) => (before.reverse, after.reverse)

/-- The rest of a text that starts with a given one. -/
def dropPrefix? : List Char → List Char → Option (List Char)
  | [], cs => some cs
  | _ :: _, [] => none
  | w :: wanted, c :: cs => if w = c then dropPrefix? wanted cs else none

def byteLength (cs : List Char) : Nat := cs.foldl (fun n c => n + c.utf8Size) 0

end Accounts.Text
