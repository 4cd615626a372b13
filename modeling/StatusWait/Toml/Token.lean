/-!
# The tokens of TOML

A TOML text is cut into signs, line ends, runs of spaces and tabulators, quoted strings
and bare runs of other characters. The cut is the same for keys and for values: a bare
run stops at a full stop, so that `a.b` is two keys and `3.14` is put together again
where a value is read.

## The model

A scanner goes through the text one character at a time, and its `Mode` says what it
is in the middle of. Comments leave no token. A quoted string is decoded on the way, by
the escapes of TOML 1.1; a line feed in a string that spans lines may be written with a
carriage return in front, and reads as a line feed. A carriage return anywhere else, a
control character, an escape that names no character and a string without its end make
the whole text unreadable.
-/

namespace StatusWait.Toml

/-- A token. -/
inductive Token
  /-- The sign between the parts of a dotted key, and the decimal point. -/
  | dot
  /-- The sign between a key and its value. -/
  | equals
  | comma
  /-- The sign that opens an array or a heading. -/
  | openBracket
  /-- The sign that closes an array or a heading. -/
  | closeBracket
  | openBrace
  | closeBrace
  | newline
  /-- Spaces and tabulators. -/
  | blank (read : List Char)
  /-- A run of other characters. -/
  | bare (read : List Char)
  /-- A quoted string, decoded; `block` if its delimiter lets it span lines. -/
  | quoted (block : Bool) (content : List Char)
deriving DecidableEq, Repr

/-- The two kinds of quotes. -/
inductive Quote
  /-- Quotation marks: escapes are decoded. -/
  | basic
  /-- Apostrophes: every character stands for itself. -/
  | literal
deriving DecidableEq, Repr

/-- The character of a kind of quotes. -/
def Quote.char : Quote → Char
  | basic => '"'
  | literal => '\''

/-- What the scanner is in the middle of. What has been read is kept last first. -/
inductive Mode
  /-- Nothing: between two tokens. -/
  | between
  /-- Spaces and tabulators. -/
  | blank (read : List Char)
  /-- A bare run. -/
  | bare (read : List Char)
  | comment
  /-- A line end of which the line feed is missing. -/
  | lineEnd
  /-- Behind one quote. -/
  | opening (q : Quote)
  /-- Behind two quotes: an empty string, or the start of a longer delimiter. -/
  | opened (q : Quote)
  /-- A string on one line. -/
  | line (q : Quote) (read : List Char)
  /-- Behind the three quotes that open a block; a line end here is dropped. -/
  | blockStart (q : Quote)
  /-- As `blockStart`, behind a carriage return. -/
  | blockStartEnd (q : Quote)
  /-- A string that may span lines. -/
  | block (q : Quote) (read : List Char)
  /-- As `block`, behind a carriage return. -/
  | blockEnd (q : Quote) (read : List Char)
  /-- Behind `count` quotes in a block. -/
  | closing (q : Quote) (read : List Char) (count : Nat)
  /-- Behind a backslash. -/
  | escape (inBlock : Bool) (read : List Char)
  /-- Among the digits of a code point, `left` of which are missing. -/
  | code (inBlock : Bool) (read : List Char) (left value : Nat)
  /-- In the white space behind a backslash that ends a line; `broken` once the line has
  ended. -/
  | gap (read : List Char) (broken : Bool)
  /-- As `gap`, behind a carriage return. -/
  | gapEnd (read : List Char)
deriving DecidableEq, Repr

/-! ### Characters -/

/-- A space or a tabulator. -/
def isSpace (c : Char) : Bool := c = ' ' || c = '\t'

/-- A control character that may stand nowhere: all but the tabulator. -/
def isControl (c : Char) : Bool := (c.toNat < 0x20 && c != '\t') || c.toNat = 0x7F

/-- The value of a hexadecimal digit of either case. -/
def hexValue? (c : Char) : Option Nat :=
  if c.isDigit then some (c.toNat - '0'.toNat)
  else if 'a' ≤ c && c ≤ 'f' then some (c.toNat - 'a'.toNat + 10)
  else if 'A' ≤ c && c ≤ 'F' then some (c.toNat - 'A'.toNat + 10)
  else none

/-- The character that a letter behind a backslash stands for. -/
def escaped? (c : Char) : Option Char :=
  match c with
  | '"' => some '"'
  | '\\' => some '\\'
  | 'b' => some '\x08'
  | 'e' => some '\x1B'
  | 'f' => some '\x0C'
  | 'n' => some '\n'
  | 'r' => some '\r'
  | 't' => some '\t'
  | _ => none

/-- How many digits a letter behind a backslash announces. -/
def codeLength? (c : Char) : Option Nat :=
  match c with
  | 'x' => some 2
  | 'u' => some 4
  | 'U' => some 8
  | _ => none

/-- The character of a code point. -/
def charOfCode? (n : Nat) : Option Char :=
  if n.isValidChar then some (Char.ofNat n) else none

/-- The sign that a character is. -/
def sign? (c : Char) : Option Token :=
  match c with
  | '.' => some .dot
  | '=' => some .equals
  | ',' => some .comma
  | '[' => some .openBracket
  | ']' => some .closeBracket
  | '\x7B' => some .openBrace
  | '\x7D' => some .closeBrace
  | '\n' => some .newline
  | _ => none

/-! ### The scanner -/

namespace Mode

/-- A character between two tokens. -/
def start (c : Char) : Option (Mode × List Token) :=
  match sign? c with
  | some t => some (between, [t])
  | none =>
    if isSpace c then some (blank [c], [])
    else if c = '#' then some (comment, [])
    else if c = '\r' then some (lineEnd, [])
    else if c = Quote.basic.char then some (opening .basic, [])
    else if c = Quote.literal.char then some (opening .literal, [])
    else if isControl c then none
    else some (bare [c], [])

/-- A token is complete, and a character follows it. -/
def startAfter (t : Token) (c : Char) : Option (Mode × List Token) :=
  (start c).map fun (m, ts) => (m, t :: ts)

/-- A character ends a bare run. -/
def endsBare (c : Char) : Bool :=
  (sign? c).isSome || isSpace c || c = '#' || c = '\r' || c = '"' || c = '\''

/-- A character in a string on one line. -/
def inLine (q : Quote) (read : List Char) (c : Char) : Option (Mode × List Token) :=
  if c = q.char then some (between, [.quoted false read.reverse])
  else if q = .basic && c = '\\' then some (escape false read, [])
  else if isControl c then none
  else some (line q (c :: read), [])

/-- A character in a string that may span lines. -/
def inBlock (q : Quote) (read : List Char) (c : Char) : Option (Mode × List Token) :=
  if c = q.char then some (closing q read 1, [])
  else if q = .basic && c = '\\' then some (escape true read, [])
  else if c = '\n' then some (block q ('\n' :: read), [])
  else if c = '\r' then some (blockEnd q read, [])
  else if isControl c then none
  else some (block q (c :: read), [])

/-- Back in the string after an escape. -/
def resume (block? : Bool) (read : List Char) : Mode :=
  if block? then block .basic read else line .basic read

/-- What one character does, and the tokens that are complete after it; none if the text
cannot be read. -/
def step (m : Mode) (c : Char) : Option (Mode × List Token) :=
  match m with
  | between => start c
  | blank read => if isSpace c then some (blank (c :: read), []) else startAfter (.blank read.reverse) c
  | bare read => if endsBare c then startAfter (.bare read.reverse) c
      else if isControl c then none else some (bare (c :: read), [])
  | comment =>
      if c = '\n' then some (between, [.newline])
      else if c = '\r' then some (lineEnd, [])
      else if isControl c then none
      else some (comment, [])
  | lineEnd => if c = '\n' then some (between, [.newline]) else none
  | opening q => if c = q.char then some (opened q, []) else inLine q [] c
  | opened q => if c = q.char then some (blockStart q, []) else startAfter (.quoted false []) c
  | line q read => inLine q read c
  | blockStart q =>
      if c = '\n' then some (block q [], [])
      else if c = '\r' then some (blockStartEnd q, [])
      else inBlock q [] c
  | blockStartEnd q => if c = '\n' then some (block q [], []) else none
  | block q read => inBlock q read c
  | blockEnd q read => if c = '\n' then some (block q ('\n' :: read), []) else none
  | closing q read count =>
      if c = q.char then if count < 5 then some (closing q read (count + 1), []) else none
      else if count < 3 then inBlock q (List.replicate count q.char ++ read) c
      else startAfter (.quoted true (List.replicate (count - 3) q.char ++ read).reverse) c
  | escape block? read =>
      match escaped? c with
      | some d => some (resume block? (d :: read), [])
      | none =>
        match codeLength? c with
        | some n => some (code block? read n 0, [])
        | none =>
          if block? then
            if isSpace c then some (gap read false, [])
            else if c = '\n' then some (gap read true, [])
            else if c = '\r' then some (gapEnd read, [])
            else none
          else none
  | code block? read left value => do
      let d ← hexValue? c
      let value' := value * 16 + d
      if left ≤ 1 then
        let e ← charOfCode? value'
        return (resume block? (e :: read), [])
      else return (code block? read (left - 1) value', [])
  | gap read broken =>
      if isSpace c then some (gap read broken, [])
      else if c = '\n' then some (gap read true, [])
      else if c = '\r' then some (gapEnd read, [])
      else if broken then inBlock .basic read c
      else none
  | gapEnd read => if c = '\n' then some (gap read true, []) else none

/-- The tokens that are complete when the text ends; none if something lacks its end. -/
def finish : Mode → Option (List Token)
  | between | comment => some []
  | blank read => some [.blank read.reverse]
  | bare read => some [.bare read.reverse]
  | opened _ => some [.quoted false []]
  | closing q read count =>
      if count < 3 then none
      else some [.quoted true (List.replicate (count - 3) q.char ++ read).reverse]
  | _ => none

end Mode

/-- The tokens of a text, read on from a mode. -/
def scan (m : Mode) : List Char → Option (List Token)
  | [] => m.finish
  | c :: cs => do
      let (m', ts) ← m.step c
      let rest ← scan m' cs
      return ts ++ rest

/-- The tokens of a text; the end of the text ends its last line. -/
def tokens (text : List Char) : Option (List Token) := (· ++ [.newline]) <$> scan .between text

end StatusWait.Toml
