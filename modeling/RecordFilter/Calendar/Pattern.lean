/-!
# Date patterns

How a date is written is described by a pattern, a text in which a percent sign
and a letter stand for a field:

* `%Y`, `%m`, `%d`, `%H`, `%M`, `%S`: the numbers of the year, month, day,
  hour, minute and second;
* `%y`: the last two digits of the year;
* `%b`: the English name of the month, shortened to three letters;
* `%3f`: three digits of a second;
* `%F` and `%T`: short for `%Y-%m-%d` and `%H:%M:%S`;
* `%%`: a percent sign.

A blank stands for any number of blanks, every other character for itself.

There are no other fields. Pattern languages of this kind have more of them, as `%e` and `%j` for
days, `%I` and `%p` for an hour of half a day, `%B` for a whole name, `%R` for an hour and a minute,
or a sign behind the percent sign, as in `%-d`. They are not covered: such a percent sign is
`unknown`, and no text is read by a pattern with one.
-/

namespace RecordFilter

/-- A number in a date that a pattern can ask for. -/
inductive DateField
  | year | shortYear | month | day | hour | minute | second
  deriving DecidableEq, Repr

/-- A part of a date pattern. -/
inductive PatternItem
  /-- The digits of a number. -/
  | number (field : DateField)
  /-- The first three letters of the name of the month. -/
  | monthName
  /-- Exactly three digits of a second. -/
  | millis
  /-- A point and digits of a second; it may be missing. -/
  | fraction
  /-- Any number of blanks. -/
  | blanks
  /-- The character itself. -/
  | char (c : Char)
  /-- A percent sign that begins none of the fields that are covered. No text is read by a
      pattern with one. -/
  | unknown
  deriving DecidableEq, Repr

/-- The form in which a date is written. -/
abbrev DatePattern := List PatternItem

end RecordFilter
