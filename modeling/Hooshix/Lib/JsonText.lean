-- SUMMARY: Compact JSON texts and the theorem that parsing one gives back its value.
import Hooshix.Lib.Json

/-! # JSON texts

The text of a value without spaces. Strings escape what HTML or JavaScript would misread, so a text
can be embedded anywhere.
-/

namespace Json

open Scanner

/-! ## Printing -/

/-- A code unit with its four digits. -/
def unitEscape (code : Nat) : List Char :=
  ['\\', 'u', Nat.digitChar (code / 4096 % 16), Nat.digitChar (code / 256 % 16),
    Nat.digitChar (code / 16 % 16), Nat.digitChar (code % 16)]

/-- The characters that are written as code units. -/
def isUnitEscaped (c : Char) : Bool :=
  decide (c.toNat < 0x20) || c == '<' || c == '>' || c == '&' || c.toNat == 0x2028 ||
    c.toNat == 0x2029

/-- A character inside a string. -/
def escape (c : Char) : List Char :=
  if c = '"' then ['\\', '"']
  else if c = '\\' then ['\\', '\\']
  else if c = '\x08' then ['\\', 'b']
  else if c = '\x0c' then ['\\', 'f']
  else if c = '\n' then ['\\', 'n']
  else if c = '\r' then ['\\', 'r']
  else if c = '\t' then ['\\', 't']
  else if isUnitEscaped c then unitEscape c.toNat
  else [c]

def quote (s : String) : List Char := '"' :: (s.toList.flatMap escape ++ ['"'])

def Token.text : Token → List Char
  | beginObject => ['{']
  | endObject => ['}']
  | beginArray => ['[']
  | endArray => [']']
  | comma => [',']
  | colon => [':']
  | null => ['n', 'u', 'l', 'l']
  | bool true => ['t', 'r', 'u', 'e']
  | bool false => ['f', 'a', 'l', 's', 'e']
  | number value => value.literal
  | string value => quote value

mutual

/-- The tokens of a value. -/
def tokens : Json → List Token
  | null => [.null]
  | bool value => [.bool value]
  | number value => [.number value]
  | string value => [.string value]
  | array [] => [.beginArray, .endArray]
  | array (first :: rest) => .beginArray :: (tokens first ++ (itemTokens rest ++ [.endArray]))
  | object [] => [.beginObject, .endObject]
  | object ((name, first) :: rest) =>
    .beginObject :: .string name :: .colon :: (tokens first ++ (memberTokens rest ++ [.endObject]))

/-- The items of an array after the first. -/
def itemTokens : List Json → List Token
  | [] => []
  | value :: rest => .comma :: (tokens value ++ itemTokens rest)

/-- The members of an object after the first. -/
def memberTokens : List (String × Json) → List Token
  | [] => []
  | (name, value) :: rest =>
    .comma :: .string name :: .colon :: (tokens value ++ memberTokens rest)

end

/-- The compact text of a value. -/
def text (value : Json) : List Char := value.tokens.flatMap Token.text

/-! ## Parsing the tokens of a value -/

theorem step_firstItem {stack : List Frame} {token : Token} (h : token ≠ .endArray) :
    Parser.step ⟨stack, .firstItem⟩ token = Parser.step ⟨.item [] :: stack, .value⟩ token := by
  simp only [Parser.step, h, if_false]

attribute [local simp] Parser.step Parser.beginValue Parser.endValue tokens StepSystem.run

/-- A value never begins with the end of an array. -/
theorem exists_tokens_eq_cons (value : Json) :
    ∃ token rest, value.tokens = token :: rest ∧ token ≠ .endArray := by
  rcases value with _ | _ | _ | _ | ⟨_ | ⟨_, _⟩⟩ | ⟨_ | ⟨⟨_, _⟩, _⟩⟩ <;>
    exact ⟨_, _, by rw [tokens], by simp⟩

open StepSystem in
mutual

theorem run_tokens (value : Json) (stack : List Frame) (tail : List Token) :
    run Parser.step ⟨stack, .value⟩ (value.tokens ++ tail) =
      run Parser.step ⟨stack, .complete value⟩ tail := by
  match value with
  | null | bool _ | number _ | string _ => simp [run]
  | array [] => simp [run]
  | array (first :: rest) =>
    have hfirst : run Parser.step ⟨stack, .firstItem⟩
        (first.tokens ++ (itemTokens rest ++ .endArray :: tail)) =
        run Parser.step ⟨.item [] :: stack, .value⟩
          (first.tokens ++ (itemTokens rest ++ .endArray :: tail)) := by
      obtain ⟨token, more, htokens, hne⟩ := exists_tokens_eq_cons first
      simp only [htokens, List.cons_append, run, step_firstItem hne]
    calc run Parser.step ⟨stack, .value⟩ ((array (first :: rest)).tokens ++ tail)
        = run Parser.step ⟨stack, .firstItem⟩
            (first.tokens ++ (itemTokens rest ++ .endArray :: tail)) := by
          simp [run]
      _ = run Parser.step ⟨.item [] :: stack, .complete first⟩
            (itemTokens rest ++ .endArray :: tail) := by
          rw [hfirst, run_tokens first]
      _ = run Parser.step ⟨stack, .complete (array ([] ++ first :: rest))⟩ tail :=
          run_itemTokens rest first [] stack tail
  | object [] => simp [run]
  | object ((name, first) :: rest) =>
    calc run Parser.step ⟨stack, .value⟩ ((object ((name, first) :: rest)).tokens ++ tail)
        = run Parser.step ⟨.member [] name :: stack, .value⟩
            (first.tokens ++ (memberTokens rest ++ .endObject :: tail)) := by
          simp [run]
      _ = run Parser.step ⟨.member [] name :: stack, .complete first⟩
            (memberTokens rest ++ .endObject :: tail) := by
          rw [run_tokens first]
      _ = run Parser.step ⟨stack, .complete (object ([] ++ (name, first) :: rest))⟩ tail :=
          run_memberTokens rest name first [] stack tail

theorem run_itemTokens (rest : List Json) (value : Json) (done : List Json) (stack : List Frame)
    (tail : List Token) :
    run Parser.step ⟨.item done :: stack, .complete value⟩ (itemTokens rest ++ .endArray :: tail) =
      run Parser.step ⟨stack, .complete (array (done ++ value :: rest))⟩ tail := by
  match rest with
  | [] => simp [itemTokens, run]
  | next :: rest =>
    calc run Parser.step ⟨.item done :: stack, .complete value⟩
          (itemTokens (next :: rest) ++ .endArray :: tail)
        = run Parser.step ⟨.item (done ++ [value]) :: stack, .value⟩
            (next.tokens ++ (itemTokens rest ++ .endArray :: tail)) := by
          simp [itemTokens, run]
      _ = run Parser.step ⟨.item (done ++ [value]) :: stack, .complete next⟩
            (itemTokens rest ++ .endArray :: tail) := by
          rw [run_tokens next]
      _ = run Parser.step ⟨stack, .complete (array (done ++ value :: next :: rest))⟩ tail := by
          rw [run_itemTokens rest next]
          simp

theorem run_memberTokens (rest : List (String × Json)) (name : String) (value : Json)
    (done : List (String × Json)) (stack : List Frame) (tail : List Token) :
    run Parser.step ⟨.member done name :: stack, .complete value⟩
        (memberTokens rest ++ .endObject :: tail) =
      run Parser.step ⟨stack, .complete (object (done ++ (name, value) :: rest))⟩ tail := by
  match rest with
  | [] => simp [memberTokens, run]
  | (next, nextValue) :: rest =>
    calc run Parser.step ⟨.member done name :: stack, .complete value⟩
          (memberTokens ((next, nextValue) :: rest) ++ .endObject :: tail)
        = run Parser.step ⟨.member (done ++ [(name, value)]) next :: stack, .value⟩
            (nextValue.tokens ++ (memberTokens rest ++ .endObject :: tail)) := by
          simp [memberTokens, run]
      _ = run Parser.step ⟨.member (done ++ [(name, value)]) next :: stack, .complete nextValue⟩
            (memberTokens rest ++ .endObject :: tail) := by
          rw [run_tokens nextValue]
      _ = run Parser.step
            ⟨stack, .complete (object (done ++ (name, value) :: (next, nextValue) :: rest))⟩
            tail := by
          rw [run_memberTokens rest next nextValue]
          simp

end

theorem parseTokens_tokens (value : Json) : parseTokens value.tokens = some value := by
  have hrun := run_tokens value [] []
  rw [List.append_nil] at hrun
  rw [parseTokens, Parser.start, hrun]
  rfl

/-! ## Scanning strings -/

/-- What the scanner keeps of a printed character. -/
def piece (c : Char) : Piece :=
  if c = '"' ∨ c = '\\' ∨ c = '\x08' ∨ c = '\x0c' ∨ c = '\n' ∨ c = '\r' ∨ c = '\t' then .char c
  else if isUnitEscaped c then .unit c.toNat
  else .char c

theorem hexValue_digitChar : ∀ d < 16, hexValue (Nat.digitChar d) = some d := by decide

variable {ts : List Token} {c : Char} {pieces : List Piece} {tail : List Char} {code : Nat}

theorem run_unitEscape (h : code < 65536) (tail : List Char) :
    StepSystem.run Scanner.step ⟨ts, .string pieces⟩ (unitEscape code ++ tail) =
      StepSystem.run Scanner.step ⟨ts, .string (pieces ++ [.unit code])⟩ tail := by
  have hdigit : ∀ n, hexValue (Nat.digitChar (n % 16)) = some (n % 16) :=
    fun n => hexValue_digitChar _ (Nat.mod_lt n (by decide))
  have hcode : ((code / 4096 % 16 * 16 + code / 256 % 16) * 16 + code / 16 % 16) * 16 +
      code % 16 = code := by omega
  simp [unitEscape, Scanner.step, hdigit, hcode]

theorem toNat_lt_of_isUnitEscaped (h : isUnitEscaped c = true) :
    c.toNat < 0xD800 := by
  simp only [isUnitEscaped, Bool.or_eq_true, decide_eq_true_eq, beq_iff_eq] at h
  rcases h with (((((h | rfl) | rfl) | rfl) | h) | h)
  · omega
  · decide
  · decide
  · decide
  · omega
  · omega

theorem run_escape (c : Char) (tail : List Char) :
    StepSystem.run Scanner.step ⟨ts, .string pieces⟩ (escape c ++ tail) =
      StepSystem.run Scanner.step ⟨ts, .string (pieces ++ [piece c])⟩ tail := by
  by_cases hshort : c = '"' ∨ c = '\\' ∨ c = '\x08' ∨ c = '\x0c' ∨ c = '\n' ∨ c = '\r' ∨ c = '\t'
  · rcases hshort with rfl | rfl | rfl | rfl | rfl | rfl | rfl <;> rfl
  · have hpiece : piece c = if isUnitEscaped c then .unit c.toNat else .char c := by
      rw [piece, if_neg hshort]
    simp only [not_or] at hshort
    obtain ⟨hquote, hslash, hb, hf, hn, hr, ht⟩ := hshort
    have hescape : escape c = if isUnitEscaped c then unitEscape c.toNat else [c] := by
      simp only [escape, hquote, hslash, hb, hf, hn, hr, ht, if_false]
    rw [hescape, hpiece]
    by_cases hunit : isUnitEscaped c = true
    · rw [if_pos hunit, if_pos hunit]
      exact run_unitEscape (Nat.lt_trans (toNat_lt_of_isUnitEscaped hunit) (by decide)) tail
    · have hcontrol : ¬ c.toNat < 0x20 := by
        intro hlt
        exact hunit (by simp [isUnitEscaped, hlt])
      rw [if_neg hunit, if_neg hunit]
      simp [step, hquote, hslash, hcontrol]

/-- A code unit below the surrogates stands for itself. -/
theorem resolve_unit_cons (h : code < 0xD800) (rest : List Piece) :
    resolve (.unit code :: rest) = Char.ofNat code :: resolve rest := by
  have hhigh : isHighSurrogate code = false := by simp [isHighSurrogate]; omega
  have hlow : isLowSurrogate code = false := by simp [isLowSurrogate]; omega
  have hchar : unitChar code = Char.ofNat code := by simp [unitChar, hhigh, hlow]
  rcases rest with _ | ⟨_ | low, rest⟩
  · simp [resolve, hchar]
  · simp [resolve, hchar]
  · simp [resolve, hhigh, hchar]

theorem resolve_piece_cons (c : Char) (rest : List Piece) :
    resolve (piece c :: rest) = c :: resolve rest := by
  unfold piece
  split
  · rw [resolve]
  · split
    next hunit =>
      rw [resolve_unit_cons (toNat_lt_of_isUnitEscaped hunit), Char.ofNat_toNat]
    next => rw [resolve]

theorem resolve_map_piece (text : List Char) : resolve (text.map piece) = text := by
  induction text with
  | nil => rfl
  | cons c rest ih => rw [List.map_cons, resolve_piece_cons, ih]

/-! ## Scanning the text of a value -/

/-- The tokens that the scanner makes of the rest of a text. -/
def Scanner.rest (s : Scanner) (text : List Char) : Option (List Token) :=
  (StepSystem.run step s text).bind finish

/-- A number ends here. -/
def EndsNumber (text : List Char) : Prop := ∀ c ∈ text.head?, isNumberChar c = false

theorem run_quote (ts : List Token) (pieces : List Piece) (chars tail : List Char) :
    StepSystem.run step ⟨ts, .string pieces⟩ (chars.flatMap escape ++ '"' :: tail) =
      StepSystem.run Scanner.step
        ⟨ts ++ [.string (String.ofList (resolve (pieces ++ chars.map piece)))], .between⟩ tail := by
  induction chars generalizing pieces with
  | nil => simp [Scanner.step, Scanner.emit]
  | cons c chars ih =>
    rw [List.flatMap_cons, List.append_assoc, run_escape, ih]
    simp

theorem rest_string (value : String) (tail : List Char) :
    Scanner.rest ⟨ts, .between⟩ (quote value ++ tail) =
      Scanner.rest ⟨ts ++ [.string value], .between⟩ tail := by
  have hbegin : Scanner.step ⟨ts, .between⟩ '"' = some ⟨ts, .string []⟩ := rfl
  have hrun := run_quote ts [] value.toList tail
  rw [List.nil_append, resolve_map_piece, String.ofList_toList] at hrun
  simp only [Scanner.rest, quote, List.cons_append, List.append_assoc, List.nil_append,
    StepSystem.run, hbegin, Option.bind_some, hrun]

theorem isNumberChar_of_step {state next : NumberState}
    (h : state.step c = some next) : isNumberChar c = true := by
  by_contra hchar
  simp only [isNumberChar, Bool.or_eq_true, beq_iff_eq, not_or] at hchar
  obtain ⟨⟨⟨⟨⟨hdigit, hminus⟩, hplus⟩, hpoint⟩, he⟩, hE⟩ := hchar
  have hzero : c ≠ '0' := by
    rintro rfl
    exact hdigit (by decide)
  cases state <;>
    simp [NumberState.step, hdigit, hminus, hplus, hpoint, he, hE, hzero] at h

theorem isNumberChar_of_run {state final : NumberState} {literal : List Char}
    (h : StepSystem.run NumberState.step state literal = some final) :
    ∀ c ∈ literal, isNumberChar c = true := by
  induction literal generalizing state with
  | nil => simp
  | cons c literal ih =>
    obtain ⟨next, hstep, hrun⟩ := StepSystem.run_cons.mp h
    intro d hd
    rcases List.mem_cons.mp hd with rfl | hd
    · exact isNumberChar_of_step hstep
    · exact ih hrun d hd

theorem isNumberChar_of_mem {value : Number} (h : c ∈ value.literal) :
    isNumberChar c = true := by
  have hvalid := value.valid
  unfold isNumber at hvalid
  split at hvalid
  next hrun => exact isNumberChar_of_run hrun c h
  next => cases hvalid

theorem literal_ne_nil (value : Number) : value.literal ≠ [] := by
  intro h
  have hvalid := value.valid
  rw [h] at hvalid
  cases hvalid

theorem beginToken_of_isNumberChar {s : Scanner} (h : isNumberChar c = true) :
    s.beginToken c = some { s with mode := .number [c] } := by
  have hne : ∀ d, isNumberChar d = false → c ≠ d := by
    rintro d hd rfl
    rw [h] at hd
    cases hd
  have hpunctuation : punctuation c = none := by
    unfold punctuation
    split <;> first | rfl | exact absurd rfl (hne _ (by decide))
  have hspace : isSpace c = false := by
    simp only [isSpace, Bool.or_eq_false_iff, beq_eq_false_iff_ne]
    exact ⟨⟨⟨hne _ (by decide), hne _ (by decide)⟩, hne _ (by decide)⟩, hne _ (by decide)⟩
  simp only [beginToken, hpunctuation, hspace, h, hne '"' (by decide), hne 't' (by decide),
    hne 'f' (by decide), hne 'n' (by decide), if_true, if_false, Bool.false_eq_true]

theorem run_number (ts : List Token) (seen : List Char) {more : List Char} (tail : List Char)
    (h : ∀ c ∈ more, isNumberChar c = true) :
    StepSystem.run step ⟨ts, .number seen⟩ (more ++ tail) =
      StepSystem.run step ⟨ts, .number (seen ++ more)⟩ tail := by
  induction more generalizing seen with
  | nil => simp
  | cons c more ih =>
    have hc : isNumberChar c = true := h c List.mem_cons_self
    have hstep : step ⟨ts, .number seen⟩ c = some ⟨ts, .number (seen ++ [c])⟩ := by
      simp only [step, hc, if_true]
    simp only [List.cons_append, StepSystem.run, hstep, Option.bind_some]
    rw [ih _ fun d hd => h d (List.mem_cons_of_mem c hd)]
    simp

/-- A number is a token once its end is seen. -/
theorem rest_endNumber (value : Number) (htail : EndsNumber tail) :
    Scanner.rest ⟨ts, .number value.literal⟩ tail =
      Scanner.rest ⟨ts ++ [.number value], .between⟩ tail := by
  have hend : endNumber ⟨ts, .number value.literal⟩ value.literal =
      some ⟨ts ++ [.number value], .between⟩ := by
    simp only [endNumber, value.valid, dif_pos, emit]
  cases tail with
  | nil => simp only [Scanner.rest, StepSystem.run, Option.bind_some, finish, hend,
      Option.map_some]
  | cons c tail =>
    have hc : isNumberChar c = false := htail c rfl
    have hstep : step ⟨ts, .number value.literal⟩ c =
        step ⟨ts ++ [.number value], .between⟩ c := by
      simp only [step, hc, hend, Option.bind_some, Bool.false_eq_true, if_false]
    simp only [Scanner.rest, StepSystem.run, hstep]

theorem rest_number (value : Number) (htail : EndsNumber tail) :
    Scanner.rest ⟨ts, .between⟩ (value.literal ++ tail) =
      Scanner.rest ⟨ts ++ [.number value], .between⟩ tail := by
  rw [← rest_endNumber value htail]
  obtain ⟨c, more, hliteral⟩ := List.exists_cons_of_ne_nil (literal_ne_nil value)
  have hchars : ∀ d ∈ value.literal, isNumberChar d = true := fun d hd => isNumberChar_of_mem hd
  rw [hliteral] at hchars ⊢
  have hbegin : step ⟨ts, .between⟩ c = some ⟨ts, .number [c]⟩ :=
    beginToken_of_isNumberChar (hchars c List.mem_cons_self)
  have hmore := run_number ts [c] tail
    fun d hd => hchars d (List.mem_cons_of_mem c hd)
  simp only [Scanner.rest, List.cons_append, StepSystem.run, hbegin, Option.bind_some, hmore,
    List.nil_append]

theorem rest_punctuation (c : Char) {token : Token} (h : punctuation c = some token)
    (ts : List Token) (tail : List Char) :
    Scanner.rest ⟨ts, .between⟩ (c :: tail) = Scanner.rest ⟨ts ++ [token], .between⟩ tail := by
  have hstep : step ⟨ts, .between⟩ c = some ⟨ts ++ [token], .between⟩ := by
    simp only [step, beginToken, h, emit]
  simp only [Scanner.rest, StepSystem.run, hstep, Option.bind_some]

/-- A number ends before the rest of its container. -/
theorem endsNumber_itemTokens (rest : List Json) (tail : List Char) :
    EndsNumber ((itemTokens rest).flatMap Token.text ++ ']' :: tail) := by
  cases rest with
  | nil => rintro c ⟨⟩; rfl
  | cons value rest => rw [itemTokens]; rintro c ⟨⟩; rfl

theorem endsNumber_memberTokens (rest : List (String × Json)) (tail : List Char) :
    EndsNumber ((memberTokens rest).flatMap Token.text ++ '}' :: tail) := by
  rcases rest with _ | ⟨⟨name, value⟩, rest⟩
  · rintro c ⟨⟩; rfl
  · rw [memberTokens]; rintro c ⟨⟩; rfl

mutual

theorem rest_tokens (value : Json) (ts : List Token) {tail : List Char} (htail : EndsNumber tail) :
    Scanner.rest ⟨ts, .between⟩ (value.tokens.flatMap Token.text ++ tail) =
      Scanner.rest ⟨ts ++ value.tokens, .between⟩ tail := by
  match value with
  | null | bool true | bool false => simp only [tokens]; rfl
  | number value => simpa [Token.text] using rest_number value htail
  | string value => simpa [Token.text] using rest_string value tail
  | array [] =>
    simp only [tokens, List.flatMap_cons, List.flatMap_nil, Token.text, List.cons_append,
      List.nil_append, List.append_nil]
    rw [rest_punctuation '[' rfl, rest_punctuation ']' rfl]
    simp
  | object [] =>
    simp only [tokens, List.flatMap_cons, List.flatMap_nil, Token.text, List.cons_append,
      List.nil_append, List.append_nil]
    rw [rest_punctuation '{' rfl, rest_punctuation '}' rfl]
    simp
  | array (first :: rest) =>
    simp only [tokens, List.flatMap_cons, List.flatMap_append, List.flatMap_nil, Token.text,
      List.cons_append, List.nil_append, List.append_nil, List.append_assoc]
    rw [rest_punctuation '[' rfl, rest_tokens first _ (endsNumber_itemTokens rest tail),
      rest_itemTokens rest, rest_punctuation ']' rfl]
    simp
  | object ((name, first) :: rest) =>
    simp only [tokens, List.flatMap_cons, List.flatMap_append, List.flatMap_nil, Token.text,
      List.cons_append, List.nil_append, List.append_nil, List.append_assoc]
    rw [rest_punctuation '{' rfl, rest_string, rest_punctuation ':' rfl,
      rest_tokens first _ (endsNumber_memberTokens rest tail), rest_memberTokens rest,
      rest_punctuation '}' rfl]
    simp

theorem rest_itemTokens (rest : List Json) (ts : List Token) (tail : List Char) :
    Scanner.rest ⟨ts, .between⟩ ((itemTokens rest).flatMap Token.text ++ ']' :: tail) =
      Scanner.rest ⟨ts ++ itemTokens rest, .between⟩ (']' :: tail) := by
  match rest with
  | [] => simp [itemTokens]
  | value :: rest =>
    simp only [itemTokens, List.flatMap_cons, List.flatMap_append, Token.text, List.cons_append,
      List.nil_append, List.append_assoc]
    rw [rest_punctuation ',' rfl, rest_tokens value _ (endsNumber_itemTokens rest tail),
      rest_itemTokens rest]
    simp

theorem rest_memberTokens (rest : List (String × Json)) (ts : List Token) (tail : List Char) :
    Scanner.rest ⟨ts, .between⟩ ((memberTokens rest).flatMap Token.text ++ '}' :: tail) =
      Scanner.rest ⟨ts ++ memberTokens rest, .between⟩ ('}' :: tail) := by
  match rest with
  | [] => simp [memberTokens]
  | (name, value) :: rest =>
    simp only [memberTokens, List.flatMap_cons, List.flatMap_append, Token.text, List.cons_append,
      List.nil_append, List.append_assoc]
    rw [rest_punctuation ',' rfl, rest_string, rest_punctuation ':' rfl,
      rest_tokens value _ (endsNumber_memberTokens rest tail), rest_memberTokens rest]
    simp

end

/-- Parsing the text of a value gives back the value. -/
theorem parse_text (value : Json) : parse value.text = some value := by
  have hscan : scan value.text = some value.tokens := by
    have hend : EndsNumber [] := by
      intro c hc
      cases hc
    have hrest := rest_tokens value [] hend
    rw [List.append_nil] at hrest
    exact hrest
  rw [parse, hscan, Option.bind_some, parseTokens_tokens]

/-- The UTF-8 bytes of the text of a value. -/
def bytes (value : Json) : List UInt8 := value.text.flatMap String.utf8EncodeChar

theorem decodeUTF8_bytes (value : Json) : decodeUTF8 value.bytes = some value.text := by
  have hdecode : (value.text.flatMap String.utf8EncodeChar).toByteArray.utf8Decode? =
      some value.text.toArray := List.utf8Decode?_utf8Encode
  rw [decodeUTF8, bytes, hdecode, Option.map_some]

/-! ## Natural numbers -/

/-- Reading the digits of a positive number ends inside an integer. -/
theorem run_toDigits {n : Nat} (h : 0 < n) :
    StepSystem.run NumberState.step .start (Nat.toDigits 10 n) = some .integer := by
  have hdigit : ∀ d < 10, NumberState.step .integer (Nat.digitChar d) = some .integer := by decide
  have hfirst : ∀ d < 10, 0 < d → NumberState.step .start (Nat.digitChar d) = some .integer := by
    decide
  induction n using Nat.strongRecOn with
  | ind n ih =>
    by_cases hlt : n < 10
    · rw [Nat.toDigits_of_lt_base hlt]
      exact StepSystem.run_singleton.mpr (hfirst n hlt h)
    · rw [Nat.toDigits_of_base_le (by decide) (by omega)]
      exact StepSystem.run_append.mpr ⟨.integer, ih (n / 10) (by omega) (by omega),
        StepSystem.run_singleton.mpr (hdigit _ (by omega))⟩

theorem isNumber_toDigits (n : Nat) : isNumber (Nat.toDigits 10 n) = true := by
  rcases Nat.eq_zero_or_pos n with rfl | hpos
  · rw [Nat.toDigits_zero]
    rfl
  · rw [isNumber, run_toDigits hpos]
    rfl

/-- A natural number in decimal digits. -/
def nat (n : Nat) : Json := .number ⟨Nat.toDigits 10 n, isNumber_toDigits n⟩

end Json
