import TabSearch.Toml.Reader

namespace TabSearch.Toml

structure Spot where
  line : Nat
  column : Nat
  deriving DecidableEq, Repr

/--
The spot of the character that holds a byte. Of a character of several bytes, any but the last
stands at the column that its byte has in the line.
-/
def spotOfByte (offset : Nat) (line lineStart column position : Nat) : List Char → Spot
  | [] => ⟨line, column⟩
  | c :: rest =>
      let next := position + c.utf8Size
      if offset < next then
        ⟨line, if offset + 1 = next then column else offset - lineStart⟩
      else if c = '\n' then spotOfByte offset (line + 1) next 0 next rest
      else spotOfByte offset line lineStart (column + 1) next rest

def spotOf (text : List Char) (offset : Nat) : Spot :=
  if text.isEmpty then ⟨0, offset⟩
  else
    let inside := min offset (byteCount text - 1)
    let s := spotOfByte inside 0 0 0 0 text
    { s with column := s.column + (offset - inside) }

def lineAt (n : Nat) (text : List Char) : List Char :=
  match n, text.dropWhile (· != '\n') with
  | 0, _ => text.takeWhile (· != '\n')
  | n + 1, _ :: rest => lineAt n rest
  | _ + 1, [] => []

def spaces (n : Nat) : String := String.ofList (List.replicate n ' ')

def marks (n : Nat) : String := String.ofList (List.replicate n '^')

def Fault.display (text : List Char) (f : Fault) : String :=
  let excerpt := match f.region with
    | none => ""
    | some region =>
        let spot := spotOf text region.start
        let content := lineAt spot.line text
        let number := toString (spot.line + 1)
        let gutter := spaces (number.length + 1)
        let width := min (region.stop - region.start) (byteCount content - spot.column)
        s!"TOML parse error at line {number}, column {spot.column + 1}\n"
          ++ s!"{gutter}|\n"
          ++ s!"{number} | {String.ofList content}\n"
          ++ s!"{gutter}|{spaces (spot.column + 1)}{marks (max width 1)}\n"
  excerpt ++ f.message ++ "\n"

end TabSearch.Toml
