import RecordFilter.Proofs.Grammar.Completeness
import RecordFilter.Proofs.Token.Lexes

/-!
# Texts

A text holds an expression if its tokens, without the end of the input, are a
phrase of it and every quote in it is closed (`Expr.parse_eq_ok_iff`).
-/

namespace RecordFilter

namespace Token

/-- The end of the input is the last token and no other one. -/
theorem exists_tokens_eq (cs : List Char) :
    ∃ ts, tokens cs = ts ++ [.endOfInput] ∧ .endOfInput ∉ ts := by
  induction cs using tokens.induct with
  | case1 cs hs => exact ⟨[], tokens_of_skip_nil hs, List.not_mem_nil⟩
  | case2 cs c rest hs _ ih =>
    obtain ⟨ts, hts, hne⟩ := ih
    refine ⟨(scan c rest).1 :: ts, ?_, ?_⟩
    · rw [tokens_of_skip hs, hts]
      rfl
    · rw [List.mem_cons, not_or]
      exact ⟨(begins_scan c rest).ne_endOfInput.symm, hne⟩

end Token

namespace Phrase

open RecordFilter.Parser

/-- The body of a sub-select does not reach over the end of the input. -/
theorem endOfInput_notMem_body {opened : Nat} {body : List Token} (h : IsBody opened body) :
    .endOfInput ∉ body := by
  fun_induction IsBody opened body <;> simp_all [eq_comm]

theorem endOfInput_notMem_type {type : String} {ts : List Token} (h : IsType type ts) :
    .endOfInput ∉ ts := by
  cases h with
  | @plain t _ ht => cases t <;> simp_all [typeToken?]
  | @sized t _ _ _ ht => cases t <;> simp_all [typeToken?]

/-- No phrase has the end of the input in it. -/
theorem endOfInput_notMem {form : Form} {ts : List Token} (h : Phrase form ts) :
    .endOfInput ∉ ts := by
  induction h with
  -- The rules of operators hold for every token that is one, and the end of the input is none.
  | @join level t _ _ _ _ _ _ hj =>
    have ht : .endOfInput ≠ t := by
      rintro rfl
      cases level <;> simp [Level.join?] at hj
    simp_all
  | @compare _ _ t _ _ hc =>
    have ht : .endOfInput ≠ t := by
      rintro rfl
      simp [comparison?] at hc
    simp_all
  | @isNull _ negated => cases negated <;> simp [notTokens]
  | @inSubselect _ negated _ hb =>
    have := endOfInput_notMem_body hb
    cases negated <;> simp_all [notTokens]
  | @inList _ negated | @between _ _ _ negated | @like _ _ negated =>
    cases negated <;> simp_all [notTokens]
  | subselect hb | «exists» hb =>
    have := endOfInput_notMem_body hb
    simp_all
  | cast _ ht =>
    have := endOfInput_notMem_type ht
    simp_all
  | _ => simp_all

end Phrase

namespace Parser

/-- The part of a text in front of its end is the only one that ends there. -/
theorem eq_of_append_endOfInput {ts us rest : List Token} (h : ts ++ [.endOfInput] = us ++ rest)
    (hts : .endOfInput ∉ ts) (hus : .endOfInput ∉ us) (hr : rest.headD .endOfInput = .endOfInput) :
    us = ts := by
  -- Either `us` is longer than `ts` or it is not. If they were not equal, the end of the input
  -- would lie in the longer one.
  rcases List.append_eq_append_iff.1 h with ⟨mid, rfl, hmid⟩ | ⟨mid, rfl, hmid⟩
  · cases mid with
    | nil => exact List.append_nil ts
    | cons t mid =>
      obtain ⟨rfl, -⟩ := List.cons.inj hmid
      exact absurd (List.mem_append_right ts List.mem_cons_self) hus
  · cases mid with
    | nil => exact (List.append_nil us).symm
    | cons t mid =>
      obtain rfl : t = .endOfInput := by rwa [hmid] at hr
      exact absurd (List.mem_append_right us List.mem_cons_self) hts

/-- The end of the input hides no open quote. -/
theorem unterminatedQuote?_append_endOfInput (ts : List Token) :
    unterminatedQuote? (ts ++ [.endOfInput]) = unterminatedQuote? ts := by
  simp [unterminatedQuote?, List.findSome?_append]

/-- A list of tokens of which a filter is read has no open quote and is a phrase of the filter. -/
theorem filter_sound {ts : List Token} {e : Expr} {rest : List Token}
    (h : filter (ts ++ [.endOfInput]) = .ok e rest) (hne : .endOfInput ∉ ts) :
    unterminatedQuote? ts = none ∧ Phrase (.expression .disjunction e) ts := by
  have ho := filters (ts ++ [.endOfInput])
  rw [h] at ho
  cases ho with
  | ok _ hq he hr =>
    rw [unterminatedQuote?_append_endOfInput] at hq
    obtain ⟨us, hus, pe⟩ := sound _ (.expression .disjunction e) _ _ he
    obtain rfl := eq_of_append_endOfInput hus hne pe.endOfInput_notMem hr
    exact ⟨hq, pe⟩

/-- A phrase without an open quote is read as the filter that it is a phrase of. -/
theorem filter_complete {ts : List Token} {e : Expr} (hq : unterminatedQuote? ts = none)
    (h : Phrase (.expression .disjunction e) ts) :
    filter (ts ++ [.endOfInput]) = .ok e [.endOfInput] := by
  have hhead := h.headD_ne (t := .endOfInput) (by simp [Token.opens?]) [.endOfInput]
  have he := h.reads (allowance (ts ++ [Token.endOfInput]).length) [.endOfInput]
    (by simp only [Form.steps, allowance, List.length_append]; omega)
    (Level.ends_of_follows? rfl)
  unfold filter
  rw [unterminatedQuote?_append_endOfInput, hq]
  split
  · next h => exact absurd h hhead
  · next h _ => cases h
  · rw [he]
    rfl

end Parser

/-- The tokens of the texts that hold an expression. -/
theorem Expr.parse_eq_ok_iff {text : String} {e : Expr} : Expr.parse text = .ok e ↔
    ∃ ts, Token.ofString text = ts ++ [.endOfInput] ∧ Parser.unterminatedQuote? ts = none ∧
      Phrase (.expression .disjunction e) ts := by
  unfold Expr.parse
  constructor
  · intro h
    obtain ⟨ts, hts, hne⟩ := Token.exists_tokens_eq text.toList
    rw [Token.ofString, hts] at h
    split at h
    · next e' rest he =>
      obtain rfl := Except.ok.inj h
      obtain ⟨hq, pe⟩ := Parser.filter_sound he hne
      exact ⟨ts, hts, hq, pe⟩
    · cases h
  · rintro ⟨ts, hts, hq, pe⟩
    rw [hts, Parser.filter_complete hq pe]

end RecordFilter
