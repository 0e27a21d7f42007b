import RecordFilter.Text.Alphabetic
import RecordFilter.Text.Blank
import RecordFilter.Text.Numeric
import RecordFilter.Token.Basic

/-!
# Reading tokens

Blanks separate tokens, and so do comments, which run from `--` to the end of
the line. Of the tokens that could begin at a place the longest is read. Every
text can be read: a character that begins no token becomes a token of its own,
and so does a quote that is not closed.

Reading ends because a token takes at least one character (`length_scan_lt`),
and the list of tokens ends with `Token.endOfInput`, which occurs nowhere else.
-/

namespace RecordFilter.Token

/-! ## Blanks and comments -/

/-- The text without the blanks and comments it begins with. Inside a comment
    everything up to the end of the line is dropped. -/
def skip : (inComment : Bool) → List Char → List Char
  | _, [] => []
  | true, c :: rest => skip (c != '\n') rest
  | false, '-' :: '-' :: rest => skip true rest
  | false, c :: rest => if Text.isBlank c then skip false rest else c :: rest

/-! ## Single tokens -/

/-- Whether a bare name can begin with the character. -/
def beginsName (c : Char) : Bool :=
  Text.isAlphabetic c || c = '_'

/-- Whether a bare name can go on with the character. -/
def continuesName (c : Char) : Bool :=
  Text.isAlphabetic c || Text.isNumeric c || c = '_'

/-- The symbol of one character. -/
def symbol? (c : Char) : Option Symbol :=
  match c with
  | '+' => some .plus
  | '-' => some .minus
  | '*' => some .star
  | '/' => some .slash
  | '%' => some .percent
  | '=' => some .equal
  | '<' => some .less
  | '>' => some .greater
  | '|' => some .pipe
  | '&' => some .ampersand
  | '^' => some .caret
  | '~' => some .tilde
  | '(' => some .leftParen
  | ')' => some .rightParen
  | ',' => some .comma
  | '.' => some .dot
  | _ => none

/-- The symbol of two characters. -/
def pairSymbol? (c d : Char) : Option Symbol :=
  match c, d with
  | '-', '>' => some .arrow
  | '<', '=' => some .lessEqual
  | '<', '>' => some .notEqual
  | '>', '=' => some .greaterEqual
  | '!', '=' => some .notEqual
  | '|', '|' => some .concat
  | _, _ => none

/-- The token of a bare word: a keyword or a name. -/
def ofWord (word : String) : Token :=
  match Keyword.ofName? word with
  | some k => .keyword k
  | none => .name word

/-- A number and what follows it. It has digits, and a point only in front of
    a digit. -/
def scanNumber (cs : List Char) : List Char × List Char :=
  let whole := cs.takeWhile Char.isDigit
  match cs.dropWhile Char.isDigit with
  | '.' :: d :: rest =>
    if d.isDigit then
      (whole ++ '.' :: d :: rest.takeWhile Char.isDigit, rest.dropWhile Char.isDigit)
    else (whole, '.' :: d :: rest)
  | rest => (whole, rest)

/-- The token that begins with a quote, and what follows it. -/
def scanQuoted (quote : Char) (rest : List Char) (token : String → Token) : Token × List Char :=
  match Text.readQuoted quote rest with
  | some (text, rest) => (token (String.ofList text), rest)
  | none => (.unterminated quote, [])

/-- The token that begins with `c` and goes on in `rest`, and what follows it.
    The character is not a blank and does not begin a comment. -/
def scan (c : Char) (rest : List Char) : Token × List Char :=
  match rest.head?.bind (pairSymbol? c) with
  | some s => (.symbol s, rest.tail)
  | none =>
    match symbol? c with
    | some s => (.symbol s, rest)
    | none =>
      if c = '\'' then scanQuoted c rest .string
      else if c = '"' ∨ c = '\x60' then scanQuoted c rest .name
      else if beginsName c then
        (ofWord (String.ofList (c :: rest.takeWhile continuesName)), rest.dropWhile continuesName)
      else if c.isDigit then
        let (digits, rest) := scanNumber (c :: rest)
        (.number (String.ofList digits), rest)
      else (.illegal c, rest)

/-- What can be read at a character, with what follows it. -/
inductive Scans (c : Char) (rest : List Char) : Token × List Char → Prop
  | pair {s : Symbol} : rest.head?.bind (pairSymbol? c) = some s →
    Scans c rest (.symbol s, rest.tail)
  | symbol {s : Symbol} : symbol? c = some s → Scans c rest (.symbol s, rest)
  | string : c = '\'' → Scans c rest (scanQuoted c rest .string)
  | name : c = '"' ∨ c = '\x60' → Scans c rest (scanQuoted c rest .name)
  | word : beginsName c →
    Scans c rest (ofWord (String.ofList (c :: rest.takeWhile continuesName)),
      rest.dropWhile continuesName)
  | number : c.isDigit →
    Scans c rest (.number (String.ofList (scanNumber (c :: rest)).1), (scanNumber (c :: rest)).2)
  | illegal : symbol? c = none → c ≠ '\'' ∧ ¬(c = '"' ∨ c = '\x60') → beginsName c = false →
    c.isDigit = false → Scans c rest (.illegal c, rest)

theorem scans (c : Char) (rest : List Char) : Scans c rest (scan c rest) := by
  unfold scan
  split
  · next hs => exact .pair hs
  · split
    · next hs => exact .symbol hs
    · next hs =>
      split
      · next hsingle => exact .string hsingle
      · next hsingle =>
        split
        · next hdouble => exact .name hdouble
        · next hdouble =>
          split
          · next hn => exact .word hn
          · next hn =>
            split
            · next hd => exact .number hd
            · next hd =>
              exact .illegal hs ⟨hsingle, hdouble⟩ (Bool.eq_false_iff.2 hn) (Bool.eq_false_iff.2 hd)

/-- The first token of a text and what follows it. -/
def next (cs : List Char) : Token × List Char :=
  match skip false cs with
  | [] => (.endOfInput, [])
  | c :: rest => scan c rest

/-! ## Whole texts -/

theorem skip_suffix (inComment : Bool) (cs : List Char) : skip inComment cs <:+ cs := by
  fun_induction skip inComment cs with
  | case1 => exact List.suffix_refl _
  | case2 c rest ih => exact ih.trans (List.suffix_cons c rest)
  | case3 rest ih => exact ih.trans ((List.suffix_cons '-' rest).trans (List.suffix_cons '-' _))
  | case4 c rest _ _ ih => exact ih.trans (List.suffix_cons c rest)
  | case5 => exact List.suffix_refl _

theorem scanNumber_suffix {c : Char} (h : c.isDigit) (rest : List Char) :
    (scanNumber (c :: rest)).2 <:+ rest := by
  have hd : (c :: rest).dropWhile Char.isDigit = rest.dropWhile Char.isDigit := by simp [h]
  have hsuffix := List.dropWhile_suffix (l := rest) Char.isDigit
  unfold scanNumber
  rw [hd]
  split
  · next d r hr =>
    rw [hr] at hsuffix
    have htail : r <:+ rest :=
      (List.suffix_cons d r).trans ((List.suffix_cons '.' (d :: r)).trans hsuffix)
    split
    · exact (List.dropWhile_suffix _).trans htail
    · exact hsuffix
  · exact hsuffix

theorem scanQuoted_suffix (quote : Char) (rest : List Char) (token : String → Token) :
    (scanQuoted quote rest token).2 <:+ rest := by
  unfold scanQuoted
  split
  · next h => exact Text.readQuoted_suffix h
  · exact List.nil_suffix

/-- A token leaves what follows its first character, from some place on. -/
theorem scan_suffix (c : Char) (rest : List Char) : (scan c rest).2 <:+ rest := by
  have h := scans c rest
  generalize scan c rest = scanned at h
  cases h with
  | pair => exact List.tail_suffix rest
  | symbol | illegal => exact List.suffix_refl rest
  | string | name => exact scanQuoted_suffix ..
  | word => exact List.dropWhile_suffix _
  | number hd => exact scanNumber_suffix hd rest

theorem length_scan_lt {cs : List Char} {c : Char} {rest : List Char}
    (h : skip false cs = c :: rest) : (scan c rest).2.length < cs.length := by
  have hskip := (h ▸ skip_suffix false cs : c :: rest <:+ cs).length_le
  have hscan := (scan_suffix c rest).length_le
  rw [List.length_cons] at hskip
  omega

/-- The tokens of a text, with the end of the input as the last one. -/
def tokens (cs : List Char) : List Token :=
  match h : skip false cs with
  | [] => [.endOfInput]
  | c :: rest =>
    have := length_scan_lt h
    (scan c rest).1 :: tokens (scan c rest).2
termination_by cs.length

/-- The tokens of a filter. -/
def ofString (text : String) : List Token :=
  tokens text.toList

end RecordFilter.Token
