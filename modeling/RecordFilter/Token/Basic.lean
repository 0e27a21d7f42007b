import RecordFilter.Text.Quoted
import RecordFilter.Text.Uppercase

/-!
# Tokens

A filter is read as a list of tokens: names, numbers, strings, the keywords and
symbols of the condition language, and marks for what cannot be read. Every
token has a text, which stands for it in messages and in a captured sub-select.
-/

namespace RecordFilter

/-- The reserved words. A word is a keyword whatever its case. -/
inductive Keyword
  | select | «from» | «where» | and | or | not | null | «in» | «exists» | between | like | is
  | true | false | case | when | «then» | «else» | «end» | cast | as | div
  | date | time | timestamp
  deriving DecidableEq, Repr

/-- The operators and delimiters. -/
inductive Symbol
  | plus | minus | star | slash | percent
  | equal | notEqual | less | greater | lessEqual | greaterEqual
  | concat | ampersand | pipe | caret | tilde | arrow
  | leftParen | rightParen | comma | dot
  deriving DecidableEq, Repr

/-- A token of a filter. -/
inductive Token
  /-- A name, without the quotes it may have been written in. -/
  | name (name : String)
  /-- An unsigned decimal number, as it was written. -/
  | number (digits : String)
  /-- A string, without its quotes. -/
  | string (text : String)
  | keyword (word : Keyword)
  | symbol (symbol : Symbol)
  /-- A character no token begins with. -/
  | illegal (c : Char)
  /-- A quote that is not closed; it takes the rest of the text. -/
  | unterminated (quote : Char)
  | endOfInput
  deriving DecidableEq, Repr

namespace Keyword

/-- All keywords. -/
def all : List Keyword :=
  [.select, .from, .where, .and, .or, .not, .null, .in, .exists, .between, .like, .is,
   .true, .false, .case, .when, .then, .else, .end, .cast, .as, .div, .date, .time, .timestamp]

/-- The keyword in capitals. -/
def text : Keyword → String
  | .select => "SELECT"
  | .from => "FROM"
  | .where => "WHERE"
  | .and => "AND"
  | .or => "OR"
  | .not => "NOT"
  | .null => "NULL"
  | .in => "IN"
  | .exists => "EXISTS"
  | .between => "BETWEEN"
  | .like => "LIKE"
  | .is => "IS"
  | .true => "TRUE"
  | .false => "FALSE"
  | .case => "CASE"
  | .when => "WHEN"
  | .then => "THEN"
  | .else => "ELSE"
  | .end => "END"
  | .cast => "CAST"
  | .as => "AS"
  | .div => "DIV"
  | .date => "DATE"
  | .time => "TIME"
  | .timestamp => "TIMESTAMP"

/-- The keyword a word stands for, if its upper case is one. -/
def ofName? (name : String) : Option Keyword :=
  let capitals := Text.upper name
  all.find? fun word => word.text == capitals

end Keyword

/-- The text of a symbol; the two spellings of `<>` are written alike. -/
def Symbol.text : Symbol → String
  | .plus => "+"
  | .minus => "-"
  | .star => "*"
  | .slash => "/"
  | .percent => "%"
  | .equal => "="
  | .notEqual => "<>"
  | .less => "<"
  | .greater => ">"
  | .lessEqual => "<="
  | .greaterEqual => ">="
  | .concat => "||"
  | .ampersand => "&"
  | .pipe => "|"
  | .caret => "^"
  | .tilde => "~"
  | .arrow => "->"
  | .leftParen => "("
  | .rightParen => ")"
  | .comma => ","
  | .dot => "."

namespace Token

/-- The text of a token. Strings are quoted again, names are not. -/
def text : Token → String
  | .name s => s
  | .number s => s
  | .string s => Text.quoted s
  | .keyword k => k.text
  | .symbol s => s.text
  | .illegal c => c.toString
  | .unterminated c => "unterminated " ++ c.toString
  | .endOfInput => "end of input"

/-- Whether the token is a keyword. -/
def isKeyword : Token → Bool
  | .keyword _ => true
  | _ => false

end Token

end RecordFilter
