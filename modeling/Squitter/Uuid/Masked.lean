import Squitter.Uuid

/-!
# Masked identities

Random identities make two outputs of the same program differ. **Masking** (`masked`) replaces each
identity in a text, except those that are known, by a number that says which of them it is, in the
order in which they first appear.
-/

namespace Squitter.Uuid

/-- The identity that a text begins with, written in lower case. -/
def front? (s : Bytes) : Option Uuid :=
  if s[8]? = some 0x2D then
    (hyphenated? (s.take 36)).filter fun id => id.ascii = s.take 36
  else none

/-- The identities that are written in a text, at any place of it. -/
def occurrences : Bytes → List Uuid
  | [] => []
  | b :: s => (front? (b :: s)).toList ++ occurrences s

/-- The identity that stands for the `n`-th one. -/
def numbered (n : Nat) : Uuid :=
  (ofBytes? ([0xFF, 0xFF, 0xFF, 0xFF, 0, 0, 0, 0, 0, 0] ++ Bytes.bigEndian 6 n)).getD nil

/-- Masking, with the identities that were replaced so far and the text so far, reversed. -/
def mask (known seen : List Uuid) (done s : Bytes) : Bytes :=
  match s with
  | [] => done.reverse
  | b :: rest =>
    match front? (b :: rest) with
    | none => mask known seen (b :: done) rest
    | some id =>
      if known.contains id then mask known seen (id.ascii.reverse ++ done) (rest.drop 35)
      else
        let seen := if seen.contains id then seen else seen ++ [id]
        mask known seen ((numbered (seen.idxOf id + 1)).ascii.reverse ++ done) (rest.drop 35)
termination_by s.length
decreasing_by all_goals simp only [List.length_cons, List.length_drop]; omega

/-- Replace the identities of a text that are not known. -/
def masked (known : List Uuid) (s : Bytes) : Bytes := mask known [] [] s

end Squitter.Uuid
