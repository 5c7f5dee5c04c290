import TabSearch.Text.Bytes

namespace TabSearch

structure Cursor where
  offset : Nat
  rest : List Char
  deriving DecidableEq, Repr

namespace Cursor

def ofText (text : List Char) : Cursor := ⟨0, text⟩

def pass (c : Cursor) (n : Nat) : Cursor := ⟨c.offset + byteCount (c.rest.take n), c.rest.drop n⟩

def passWhile (p : Char → Bool) (c : Cursor) : List Char × Cursor :=
  let passed := c.rest.takeWhile p
  (passed, c.pass passed.length)

end Cursor

end TabSearch
