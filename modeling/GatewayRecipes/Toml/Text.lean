import GatewayRecipes.Number.Integer

/-! White space, comments and strings of TOML. -/
namespace GatewayRecipes.Toml

def isBlank (c : Char) : Bool := c == ' ' || c == '\t'

def skipBlanks (text : List Char) : List Char := text.dropWhile isBlank

def passLineEnd? : List Char → Option (List Char)
  | '\n' :: rest => some rest
  | '\r' :: '\n' :: rest => some rest
  | _ => none

/-- A character that may stand in comments and strings as it is. -/
def isPlain (c : Char) : Bool := c == '\t' || (' ' ≤ c && c != '\x7f')

def skipComment : List Char → List Char
  | '#' :: rest => rest.dropWhile isPlain
  | rest => rest

/-- Pass over blanks and a comment up to the end of the line or the text. -/
def passLine? (text : List Char) : Option (List Char) :=
  match skipComment (skipBlanks text) with
  | [] => some []
  | rest => passLineEnd? rest

/-- Pass over blanks, comments and line ends. -/
def skipLines : (fuel : Nat) → List Char → List Char
  | 0, text => text
  | fuel + 1, text =>
    let rest := skipBlanks text
    if rest.isEmpty then rest
    else
      match passLine? rest with
      | some rest => skipLines fuel rest
      | none => rest

/-- The character that a letter behind a backslash stands for. -/
def escape? : Char → Option Char
  | 'b' => some '\x08'
  | 'f' => some '\x0c'
  | 'n' => some '\n'
  | 'r' => some '\r'
  | 't' => some '\t'
  | '"' => some '"'
  | '\\' => some '\\'
  | _ => none

def readCodePoint? (digits : Nat) (text : List Char) : Option (Char × List Char) := do
  guard (digits ≤ text.length)
  let n ← Number.natural? 16 (text.take digits)
  guard (n.isValidChar)
  return (Char.ofNat n, text.drop digits)

def readEscape? : List Char → Option (Char × List Char)
  | 'u' :: rest => readCodePoint? 4 rest
  | 'U' :: rest => readCodePoint? 8 rest
  | c :: rest => (escape? c).map (·, rest)
  | [] => none

/-- A string on one line, behind its opening quote. -/
def readBasic? : (fuel : Nat) → List Char → Option (List Char × List Char)
  | 0, _ => none
  | fuel + 1, text =>
    match text with
    | '"' :: rest => some ([], rest)
    | '\\' :: rest => do
      let (c, rest) ← readEscape? rest
      let (more, rest) ← readBasic? fuel rest
      return (c :: more, rest)
    | c :: rest => do
      guard (isPlain c)
      let (more, rest) ← readBasic? fuel rest
      return (c :: more, rest)
    | [] => none

/-- A string of one line without escapes, behind its opening quote. -/
def readLiteral? (text : List Char) : Option (List Char × List Char) :=
  let content := text.takeWhile fun c => isPlain c && c != '\''
  match text.drop content.length with
  | '\'' :: rest => some (content, rest)
  | _ => none

/-- The quotes at the end of a string of lines: three close it, and up to two before them belong to
it. -/
def closingQuotes? (quote : Char) (text : List Char) : Option (List Char × List Char) :=
  let n := (text.takeWhile (· == quote)).length
  if 3 ≤ n then some (List.replicate (min (n - 3) 2) quote, text.drop (min n 5)) else none

def skipGaps : (fuel : Nat) → List Char → List Char
  | 0, text => text
  | fuel + 1, text =>
    match passLineEnd? (skipBlanks text) with
    | some rest => skipGaps fuel rest
    | none => skipBlanks text

/-- Pass over the line end behind a backslash, and further ones, with blanks. -/
def passContinuation? (text : List Char) : Option (List Char) :=
  (passLineEnd? (skipBlanks text)).map fun rest => skipGaps (rest.length + 1) rest

/-- A string of lines, behind its opening quotes. -/
def readLines? (quote : Char) : (fuel : Nat) → List Char → Option (List Char × List Char)
  | 0, _ => none
  | fuel + 1, text =>
    match closingQuotes? quote text with
    | some closing => some closing
    | none =>
      match passLineEnd? text with
      | some rest => do
        let (more, rest) ← readLines? quote fuel rest
        return ('\n' :: more, rest)
      | none =>
        match text with
        | [] => none
        | c :: rest =>
          if c = '\\' ∧ quote = '"' then
            match passContinuation? rest with
            | some rest => readLines? quote fuel rest
            | none => do
              let (c, rest) ← readEscape? rest
              let (more, rest) ← readLines? quote fuel rest
              return (c :: more, rest)
          else do
            guard (isPlain c)
            let (more, rest) ← readLines? quote fuel rest
            return (c :: more, rest)

/-- A line end directly behind the opening quotes does not count. -/
def skipLineEnd (text : List Char) : List Char := (passLineEnd? text).getD text

def readLineString? : List Char → Option (List Char × List Char)
  | '"' :: rest => readBasic? (rest.length + 1) rest
  | '\'' :: rest => readLiteral? rest
  | _ => none

def readString? : List Char → Option (List Char × List Char)
  | '"' :: '"' :: '"' :: rest => readLines? '"' (rest.length + 1) (skipLineEnd rest)
  | '\'' :: '\'' :: '\'' :: rest => readLines? '\'' (rest.length + 1) (skipLineEnd rest)
  | text => readLineString? text

end GatewayRecipes.Toml
