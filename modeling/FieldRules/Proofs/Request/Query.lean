import FieldRules.Proofs.Params.Apart
import FieldRules.Proofs.Text.Cutting
import FieldRules.Request.Basic

/-!
# The same text in a query and in a form

A form is read as it stands, but from the query of a URL a question mark is dropped, also where it
is part of the first key.  So a query and a form of one text agree up to the order of entries unless
the text begins with a question mark and its first piece leaves a trace, under the key with the mark
or under the key without it (`Request.same_params_ofUrl_ofForm_iff`).
-/

set_option autoImplicit false

namespace FieldRules

/-! ## Bytes -/

/-- A byte that is no percent sign stays as it is. -/
theorem Text.percentDecode_cons {byte : UInt8} (h : byte ≠ 0x25) (bytes : List UInt8) :
    Text.percentDecode (byte :: bytes) = byte :: Text.percentDecode bytes := by
  rcases bytes with _ | ⟨high, _ | ⟨low, rest⟩⟩
  · rfl
  · rfl
  · exact if_neg h

namespace UrlEncoded

/-- The byte of a question mark is decoded to a question mark. -/
theorem decode_cons (bytes : List UInt8) :
    decode (0x3F :: bytes) = String.ofList ('?' :: (decode bytes).toList) := by
  have hstart : Utf8.start 0x3F = ([some '?'], none) := rfl
  rw [decode, decode, List.map_cons, if_neg (by decide), Text.percentDecode_cons (by decide),
    Utf8.decodeLossy, Utf8.pieces, Utf8.piecesFrom, Utf8.step, hstart, String.toList_ofList]
  rfl

/-- A question mark before a pair becomes part of its key. -/
theorem pair_cons (piece : List UInt8) :
    pair (0x3F :: piece) = (String.ofList ('?' :: (pair piece).1.toList), (pair piece).2) := by
  have hsplit : Text.splitFirst? (· == 0x3D) (0x3F :: piece) =
      (Text.splitFirst? (· == 0x3D) piece).map fun parts => (0x3F :: parts.1, parts.2) :=
    if_neg (by decide)
  rw [pair, hsplit, pair]
  cases Text.splitFirst? (· == 0x3D) piece with
  | none => simp only [Option.map_none, decode_cons]
  | some parts => simp only [Option.map_some, decode_cons]

/-- What stands after the first ampersand. -/
def afterFirst (bytes : List UInt8) : List UInt8 :=
  (bytes.dropWhile (· != 0x26)).drop 1

/-- The pairs before and after the first ampersand. -/
theorem pairs_eq_append (bytes : List UInt8) :
    pairs bytes = pairs (bytes.takeWhile (· != 0x26)) ++ pairs (afterFirst bytes) := by
  conv_lhs => rw [← List.takeWhile_append_dropWhile (p := (· != 0x26)) (l := bytes)]
  rw [afterFirst]
  cases hrest : bytes.dropWhile (· != 0x26) with
  | nil => simp [pairs, Text.splitOn]
  | cons b later =>
    have hb : b = 0x26 := by
      have hnot := List.dropWhile_get_zero_not (· != 0x26) bytes (by simp [hrest])
      simpa [hrest] using hnot
    rw [hb, pairs, Text.splitOn_append, List.filter_append, List.map_append]
    rfl

/-- A first piece that is not empty holds the first pair. -/
theorem pairs_eq_cons {bytes : List UInt8} (h : bytes.takeWhile (· != 0x26) ≠ []) :
    pairs bytes = pair (bytes.takeWhile (· != 0x26)) :: pairs (afterFirst bytes) := by
  have hnot : 0x26 ∉ bytes.takeWhile (· != 0x26) := by
    intro hmem
    simpa using List.mem_takeWhile_imp hmem
  have hpiece : (!(bytes.takeWhile (· != 0x26)).isEmpty) = true := by simpa using h
  rw [pairs_eq_append, pairs, Text.splitOn_of_notMem hnot, List.filter_singleton, hpiece]
  rfl

/-- A question mark before a text stands before its first key. -/
theorem pairs_cons (bytes : List UInt8) :
    pairs (0x3F :: bytes) =
      pair (0x3F :: bytes.takeWhile (· != 0x26)) :: pairs (afterFirst bytes) := by
  have hfirst : (0x3F :: bytes).takeWhile (· != 0x26) = 0x3F :: bytes.takeWhile (· != 0x26) :=
    List.takeWhile_cons_of_pos (by decide)
  rw [pairs_eq_cons (hfirst ▸ List.cons_ne_nil _ _), hfirst, afterFirst,
    List.dropWhile_cons_of_pos (by decide)]
  rfl

end UrlEncoded

/-! ## The two readings -/

namespace Request

open Params (child? ofPairs)
open UrlEncoded (pairs pair afterFirst)

/-- Under each name, a text or the text with a question mark before it says what stands after the
first ampersand. -/
theorem child?_eq_or_child?_cons_eq (bytes : List UInt8) (name : String) :
    child? name (ofPairs (pairs bytes)) = child? name (ofPairs (pairs (afterFirst bytes))) ∨
      child? name (ofPairs (pairs (0x3F :: bytes))) =
        child? name (ofPairs (pairs (afterFirst bytes))) := by
  rw [UrlEncoded.pairs_cons, UrlEncoded.pair_cons]
  set piece := bytes.takeWhile (· != 0x26) with hpiece
  by_cases hmarked : BracketKey.LeadsTo (String.ofList ('?' :: (pair piece).1.toList)) name
  · left
    by_cases hempty : piece = []
    · rw [UrlEncoded.pairs_eq_append, ← hpiece, hempty]
      rfl
    · rw [UrlEncoded.pairs_eq_cons hempty]
      apply Params.child?_ofPairs_cons
      intro hplain
      exact BracketKey.not_leadsTo_and_leadsTo _ name ⟨hplain, hmarked⟩
  · right
    apply Params.child?_ofPairs_cons
    exact hmarked

/-- **A query in a URL and in a form.**  The query of a URL, none counting as an empty one, gives
the same parameters as a form of the same text, up to the order of entries, exactly if it does not
begin with a question mark or its first piece leaves no trace in either: both give the parameters of
what stands after the first ampersand. -/
theorem same_params_ofUrl_ofForm_iff (url : Url) :
    let query := url.query.getD ""
    let body := Utf8.encode query.toList
    let later := ofForm (afterFirst body)
    (ofUrl url).params.same (ofForm body).params = true ↔
      query.toList.head? ≠ some '?' ∨
        (ofUrl url).params.same later.params = true ∧
          later.params.same (ofForm body).params = true := by
  intro query body later
  by_cases hmark : query.toList.head? = some '?'
  · obtain ⟨cs, hcs⟩ : ∃ cs, query.toList = '?' :: cs := List.head?_eq_some_iff.1 hmark
    have hbody : body = 0x3F :: Utf8.encode cs := congrArg Utf8.encode hcs
    have hurl : (ofUrl url).params = ofPairs (pairs (Utf8.encode cs)) := by
      show ofPairs (pairs (Utf8.encode (dropQuestionMark query.toList))) = _
      rw [hcs]
      rfl
    have hform : (ofForm body).params = ofPairs (pairs (0x3F :: Utf8.encode cs)) := by
      rw [hbody]
      rfl
    have hlater : later.params = ofPairs (pairs (afterFirst (Utf8.encode cs))) := by
      show ofPairs (pairs (afterFirst body)) = _
      rw [hbody, afterFirst, List.dropWhile_cons_of_pos (by decide)]
      rfl
    rw [or_iff_right (not_not.2 hmark), hurl, hform, hlater]
    exact Params.same_ofPairs_iff_of_forall_or (child?_eq_or_child?_cons_eq _)
  · have hdrop : dropQuestionMark query.toList = query.toList := by
      unfold dropQuestionMark
      split
      · rename_i rest hcs
        exact absurd (congrArg List.head? hcs) hmark
      · rfl
    have hurl : (ofUrl url).params = (ofForm body).params := by
      show ofPairs (pairs (Utf8.encode (dropQuestionMark query.toList))) = _
      rw [hdrop]
      rfl
    have hsame : (ofForm body).params.same (ofForm body).params = true :=
      (Params.same_ofPairs_iff _ _).2 (Params.same_child?_ofPairs_self _)
    rw [hurl]
    exact iff_of_true hsame (Or.inl hmark)

/-- A query that begins with a question mark loses it on the way from the URL. -/
theorem same_params_eq_false_of_question_mark :
    let url : Url := ⟨"http", some "?a=1"⟩
    Url.ofText? "http://[::1]/??a=1" = some url ∧
      (ofUrl url).params = .object [("a", .string "1")] ∧
      (ofForm (Utf8.encode "?a=1".toList)).params = .object [("?a", .string "1")] ∧
      (ofUrl url).params.same (ofForm (Utf8.encode "?a=1".toList)).params = false := by
  exact ⟨by decide +kernel, by cbv, by cbv, by cbv⟩

end Request

end FieldRules
