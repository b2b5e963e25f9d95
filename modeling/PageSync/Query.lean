import PageSync.Text.Percent
import PageSync.Text.Pieces

/-!
Query strings: pieces joined by `&`, each a key and a value around the first `=`, written in form
encoding (a plus is a space, `%XX` is a byte, bytes that are no UTF-8 become replacement
characters). A piece without `=` is a key with an empty value; empty pieces do not count.
-/

namespace PageSync.Query

open Text

def plusAsSpace (c : Char) : Char := if c = '+' then ' ' else c

def decode (text : List Char) : List Char :=
  decodeLossy (percentDecode (text.map plusAsSpace))

def decodePiece (piece : List Char) : List Char × List Char :=
  let (key, value) := cutAt '=' piece
  (decode key, decode (value.getD []))

def pairs (query : List Char) : List (List Char × List Char) :=
  (words (· == '&') query).map decodePiece

/-- The value of the first pair with this key. -/
def value? (query : List Char) (name : String) : Option String :=
  ((pairs query).find? fun (key, _) => key == name.toList).map fun (_, value) =>
    String.ofList value

def withoutMark (search : List Char) : List Char :=
  match search with
  | '?' :: rest => rest
  | search => search

def searchValue? (search name : String) : Option String :=
  value? (withoutMark search.toList) name

end PageSync.Query
