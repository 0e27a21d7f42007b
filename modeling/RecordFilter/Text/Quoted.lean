/-!
# Quoted text

Inside quotes, a quote is written twice. Any character can be the quote: strings
stand between single quotes, names between double quotes or backquotes.
-/

namespace RecordFilter.Text

/-- The text with every quote written twice. -/
def doubleQuotes (quote : Char) (cs : List Char) : List Char :=
  cs.flatMap fun c => if c = quote then [quote, quote] else [c]

/-- The text in front of the closing quote, with doubled quotes read as one,
    and what follows that quote; `none` if no quote closes the text. -/
def readQuoted (quote : Char) : List Char → Option (List Char × List Char)
  | [] => none
  | c :: rest =>
    if c = quote then
      match rest with
      | [] => some ([], [])
      | d :: after =>
        if d = quote then (readQuoted quote after).map fun (text, rest) => (quote :: text, rest)
        else some ([], d :: after)
    else (readQuoted quote rest).map fun (text, rest) => (c :: text, rest)

/-- A string between single quotes. -/
def quoted (s : String) : String :=
  String.ofList ('\'' :: doubleQuotes '\'' s.toList ++ ['\''])

theorem readQuoted_suffix {quote : Char} {cs text rest : List Char}
    (h : readQuoted quote cs = some (text, rest)) : rest <:+ cs := by
  fun_induction readQuoted quote cs generalizing text with
  | case1 => simp at h
  | case2 => simp_all
  | case3 after ih =>
    obtain ⟨⟨t, r⟩, hr, he⟩ := Option.map_eq_some_iff.1 h
    simp only [Prod.mk.injEq] at he
    exact (ih (he.2 ▸ hr)).trans ((List.suffix_cons _ after).trans (List.suffix_cons _ _))
  | case4 => simp_all
  | case5 c rest hc ih =>
    obtain ⟨⟨t, r⟩, hr, he⟩ := Option.map_eq_some_iff.1 h
    simp only [Prod.mk.injEq] at he
    exact (ih (he.2 ▸ hr)).trans (List.suffix_cons c rest)

end RecordFilter.Text
