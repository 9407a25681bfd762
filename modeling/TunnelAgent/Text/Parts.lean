/-!
Texts cut at a separator. `parts` cuts at every occurrence and yields one part more than there are;
`cutFirst` and `cutLast` cut once, at the first and at the last.
-/

namespace TunnelAgent.Text

def parts (sep : Char) (cs : List Char) : List (List Char) :=
  cs.foldr
    (fun c acc =>
      if c = sep then [] :: acc
      else match acc with
        | [] => [[c]]
        | part :: rest => (c :: part) :: rest)
    [[]]

def cutFirst (sep : Char) (cs : List Char) : Option (List Char × List Char) :=
  match cs.dropWhile (· != sep) with
  | [] => none
  | _ :: after => some (cs.takeWhile (· != sep), after)

def cutLast (sep : Char) (cs : List Char) : Option (List Char × List Char) :=
  (cutFirst sep cs.reverse).map fun (after, before) => (before.reverse, after.reverse)

end TunnelAgent.Text
