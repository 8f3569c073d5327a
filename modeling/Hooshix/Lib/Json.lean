-- SUMMARY: JSON values, the scanner and parser of JSON texts, and compact printing.
import Hooshix.Lib.StepSystem

/-! # JSON

A text is scanned into tokens by a machine that takes one character at a time, and the tokens are
parsed by a machine with a stack of the containers that are still being read. Member names keep their
order and may repeat. A number keeps its literal. An escaped surrogate that is not part of a pair
stands for U+FFFD.
-/

namespace Json

/-! ## Numbers -/

/-- Where the scanner is in the grammar of numbers. -/
inductive NumberState where
  | start
  | minus
  | zero
  | integer
  | point
  | fraction
  | exponent
  | exponentSign
  | exponentDigits
  deriving DecidableEq, Repr

namespace NumberState

def step (state : NumberState) (c : Char) : Option NumberState :=
  match state with
  | start =>
    if c = '-' then some minus else if c = '0' then some zero
    else if c.isDigit then some integer else none
  | minus => if c = '0' then some zero else if c.isDigit then some integer else none
  | zero =>
    if c = '.' then some point else if c = 'e' ∨ c = 'E' then some exponent else none
  | integer =>
    if c.isDigit then some integer
    else if c = '.' then some point else if c = 'e' ∨ c = 'E' then some exponent else none
  | point => if c.isDigit then some fraction else none
  | fraction =>
    if c.isDigit then some fraction else if c = 'e' ∨ c = 'E' then some exponent else none
  | exponent =>
    if c = '+' ∨ c = '-' then some exponentSign
    else if c.isDigit then some exponentDigits else none
  | exponentSign | exponentDigits => if c.isDigit then some exponentDigits else none

def accepts : NumberState → Bool
  | zero | integer | fraction | exponentDigits => true
  | _ => false

end NumberState

/-- The literal is a number of the grammar. -/
def isNumber (literal : List Char) : Bool :=
  match StepSystem.run NumberState.step .start literal with
  | some state => state.accepts
  | none => false

/-- A number as it is written. -/
structure Number where
  literal : List Char
  valid : isNumber literal = true
  deriving DecidableEq, Repr

/-- A character that can be part of a number. -/
def isNumberChar (c : Char) : Bool :=
  c.isDigit || c == '-' || c == '+' || c == '.' || c == 'e' || c == 'E'

/-! ## Strings -/

/-- A character of a string, or an escaped UTF-16 code unit. -/
inductive Piece where
  | char (c : Char)
  | unit (code : Nat)
  deriving DecidableEq, Repr

def isHighSurrogate (code : Nat) : Bool := 0xD800 ≤ code && code < 0xDC00

def isLowSurrogate (code : Nat) : Bool := 0xDC00 ≤ code && code < 0xE000

/-- The character of a code unit outside a surrogate pair. -/
def unitChar (code : Nat) : Char :=
  if isHighSurrogate code || isLowSurrogate code then '�' else Char.ofNat code

/-- The characters of a string. -/
def resolve : List Piece → List Char
  | [] => []
  | .char c :: rest => c :: resolve rest
  | .unit high :: .unit low :: rest =>
    if isHighSurrogate high && isLowSurrogate low then
      Char.ofNat (0x10000 + (high - 0xD800) * 0x400 + (low - 0xDC00)) :: resolve rest
    else unitChar high :: resolve (.unit low :: rest)
  | .unit code :: rest => unitChar code :: resolve rest

def hexValue (c : Char) : Option Nat :=
  if c.isDigit then some (c.toNat - 48)
  else if 'a' ≤ c ∧ c ≤ 'f' then some (c.toNat - 87)
  else if 'A' ≤ c ∧ c ≤ 'F' then some (c.toNat - 55)
  else none

/-- The character of a short escape. -/
def shortEscape : Char → Option Char
  | '"' => some '"'
  | '\\' => some '\\'
  | '/' => some '/'
  | 'b' => some '\x08'
  | 'f' => some '\x0c'
  | 'n' => some '\n'
  | 'r' => some '\r'
  | 't' => some '\t'
  | _ => none

/-! ## The scanner -/

inductive Token where
  | beginObject
  | endObject
  | beginArray
  | endArray
  | comma
  | colon
  | null
  | bool (value : Bool)
  | number (value : Number)
  | string (value : String)
  deriving DecidableEq, Repr

/-- What the scanner is in the middle of. -/
inductive Mode where
  | between
  /-- a literal name, with the characters that are left of it -/
  | word (rest : List Char) (token : Token)
  | number (literal : List Char)
  | string (pieces : List Piece)
  | escape (pieces : List Piece)
  /-- a code unit that is still being read, with the number of digits left -/
  | unit (pieces : List Piece) (left code : Nat)
  deriving DecidableEq, Repr

structure Scanner where
  tokens : List Token
  mode : Mode
  deriving DecidableEq, Repr

namespace Scanner

def start : Scanner := ⟨[], .between⟩

def emit (s : Scanner) (token : Token) : Scanner := ⟨s.tokens ++ [token], .between⟩

def isSpace (c : Char) : Bool := c == ' ' || c == '\t' || c == '\r' || c == '\n'

def punctuation : Char → Option Token
  | '{' => some .beginObject
  | '}' => some .endObject
  | '[' => some .beginArray
  | ']' => some .endArray
  | ',' => some .comma
  | ':' => some .colon
  | _ => none

/-- The first character of a token. -/
def beginToken (s : Scanner) (c : Char) : Option Scanner :=
  match punctuation c with
  | some token => some (s.emit token)
  | none =>
    if isSpace c then some s
    else if c = '"' then some { s with mode := .string [] }
    else if c = 't' then some { s with mode := .word ['r', 'u', 'e'] (.bool true) }
    else if c = 'f' then some { s with mode := .word ['a', 'l', 's', 'e'] (.bool false) }
    else if c = 'n' then some { s with mode := .word ['u', 'l', 'l'] .null }
    else if isNumberChar c then some { s with mode := .number [c] }
    else none

/-- The scanner once a number has ended. -/
def endNumber (s : Scanner) (literal : List Char) : Option Scanner :=
  if h : isNumber literal = true then some (s.emit (.number ⟨literal, h⟩)) else none

def step (s : Scanner) (c : Char) : Option Scanner :=
  match s.mode with
  | .between => s.beginToken c
  | .word rest token =>
    match rest with
    | [] => none
    | [last] => if c = last then some (s.emit token) else none
    | next :: rest => if c = next then some { s with mode := .word rest token } else none
  | .number literal =>
    if isNumberChar c then some { s with mode := .number (literal ++ [c]) }
    else (s.endNumber literal).bind (·.beginToken c)
  | .string pieces =>
    if c = '"' then some (s.emit (.string (String.ofList (resolve pieces))))
    else if c = '\\' then some { s with mode := .escape pieces }
    else if c.toNat < 0x20 then none
    else some { s with mode := .string (pieces ++ [.char c]) }
  | .escape pieces =>
    if c = 'u' then some { s with mode := .unit pieces 4 0 }
    else (shortEscape c).map fun escaped => { s with mode := .string (pieces ++ [.char escaped]) }
  | .unit pieces left code =>
    (hexValue c).map fun digit =>
      if left = 1 then { s with mode := .string (pieces ++ [.unit (code * 16 + digit)]) }
      else { s with mode := .unit pieces (left - 1) (code * 16 + digit) }

/-- The tokens at the end of the text. -/
def finish (s : Scanner) : Option (List Token) :=
  match s.mode with
  | .between => some s.tokens
  | .number literal => (s.endNumber literal).map (·.tokens)
  | _ => none

end Scanner

def scan (text : List Char) : Option (List Token) :=
  (StepSystem.run Scanner.step .start text).bind Scanner.finish

end Json

/-! ## Values and the parser -/

inductive Json where
  | null
  | bool (value : Bool)
  | number (value : Json.Number)
  | string (value : String)
  | array (items : List Json)
  | object (members : List (String × Json))

namespace Json

/-- No object of the value has a name twice. -/
inductive UniqueNames : Json → Prop
  | null : UniqueNames .null
  | bool (value : Bool) : UniqueNames (.bool value)
  | number (value : Number) : UniqueNames (.number value)
  | string (value : String) : UniqueNames (.string value)
  | array {items : List Json} (h : ∀ item ∈ items, UniqueNames item) : UniqueNames (.array items)
  | object {members : List (String × Json)} (hnames : (members.map (·.1)).Nodup)
      (h : ∀ member ∈ members, UniqueNames member.2) : UniqueNames (.object members)

/-- A container that is being read, around the value that is read next. -/
inductive Frame where
  | item (done : List Json)
  | member (done : List (String × Json)) (name : String)

inductive Phase where
  | value
  /-- after `[` -/
  | firstItem
  /-- after a `{` -/
  | firstName
  /-- after a comma between members -/
  | name (done : List (String × Json))
  | colon (done : List (String × Json)) (name : String)
  | complete (value : Json)

structure Parser where
  stack : List Frame
  phase : Phase

namespace Parser

def start : Parser := ⟨[], .value⟩

/-- The first token of a value. -/
def beginValue (stack : List Frame) : Token → Option Parser
  | .beginObject => some ⟨stack, .firstName⟩
  | .beginArray => some ⟨stack, .firstItem⟩
  | .null => some ⟨stack, .complete .null⟩
  | .bool value => some ⟨stack, .complete (.bool value)⟩
  | .number value => some ⟨stack, .complete (.number value)⟩
  | .string value => some ⟨stack, .complete (.string value)⟩
  | _ => none

/-- The token after a value. -/
def endValue (stack : List Frame) (value : Json) (token : Token) : Option Parser :=
  match stack, token with
  | .item done :: rest, .comma => some ⟨.item (done ++ [value]) :: rest, .value⟩
  | .item done :: rest, .endArray => some ⟨rest, .complete (.array (done ++ [value]))⟩
  | .member done name :: rest, .comma => some ⟨rest, .name (done ++ [(name, value)])⟩
  | .member done name :: rest, .endObject =>
    some ⟨rest, .complete (.object (done ++ [(name, value)]))⟩
  | _, _ => none

def step (p : Parser) (token : Token) : Option Parser :=
  match p.phase with
  | .value => beginValue p.stack token
  | .firstItem =>
    if token = .endArray then some ⟨p.stack, .complete (.array [])⟩
    else beginValue (.item [] :: p.stack) token
  | .firstName =>
    match token with
    | .endObject => some ⟨p.stack, .complete (.object [])⟩
    | .string name => some ⟨p.stack, .colon [] name⟩
    | _ => none
  | .name done =>
    match token with
    | .string name => some ⟨p.stack, .colon done name⟩
    | _ => none
  | .colon done name =>
    if token = .colon then some ⟨.member done name :: p.stack, .value⟩ else none
  | .complete value => endValue p.stack value token

def finish (p : Parser) : Option Json :=
  match p.stack, p.phase with
  | [], .complete value => some value
  | _, _ => none

end Parser

def parseTokens (tokens : List Token) : Option Json :=
  (StepSystem.run Parser.step .start tokens).bind Parser.finish

/-- The value of a JSON text. -/
def parse (text : List Char) : Option Json := (scan text).bind parseTokens

/-- The characters of UTF-8 bytes, if they are valid. -/
def decodeUTF8 (data : List UInt8) : Option (List Char) :=
  data.toByteArray.utf8Decode?.map (·.toList)

end Json
