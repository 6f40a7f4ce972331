import DocSearch.Proofs.Json.Written
import DocSearch.Storage.IndexHeader

/-!
# Index headers are read back

A header is read back from the text that is written for it (`ofBytes_render`), and from no proper
prefix of its bytes (`ofBytes_take`).
-/

namespace DocSearch

namespace Bytes

lemma ofText_of_text? {b : Bytes} {u : String} (h : text? b = some u) : ofText u = b := by
  rw [text?, String.fromUTF8?] at h
  split at h
  · next hvalid =>
    obtain rfl := Option.some.inj h
    rw [ofText]
    simp [String.fromUTF8, List.data_toByteArray]
  · exact absurd h (by simp)

/-- A text whose bytes are a proper prefix of those of another one is a proper prefix of it. -/
lemma exists_append_of_text?_take {s u : String} {n : Nat} (hn : n < (ofText s).length)
    (h : text? ((ofText s).take n) = some u) : ∃ t, t ≠ [] ∧ u.toList ++ t = s.toList := by
  have hu := ofText_of_text? h
  have hencode : u.toList.utf8Encode ++ ((ofText s).drop n).toByteArray = s.toList.utf8Encode := by
    rw [String.utf8Encode_toList, String.utf8Encode_toList, ← toByteArray_ofText u, hu,
      ← List.toByteArray_append, List.take_append_drop, toByteArray_ofText]
  obtain ⟨t, ht⟩ := List.isPrefix_of_utf8Encode_append_eq_utf8Encode _ hencode
  refine ⟨t, ?_, ht⟩
  rintro rfl
  obtain rfl : u = s := String.toList_inj.1 (by rw [← ht, List.append_nil])
  have hlen := congrArg List.length hu
  rw [List.length_take] at hlen
  omega

end Bytes

end DocSearch

namespace DocSearch.IndexHeader

open Json

/-- A line of a header, and what follows the value. -/
def line (name : String) (value rest : List Char) : List Char :=
  ' ' :: ' ' :: ((quote name).toList ++ ':' :: ' ' :: (value ++ rest))

/-- What follows the opening brace of a header. -/
def body (h : IndexHeader) : List Char :=
  '\n' :: line "num_docs" (Nat.toDigits 10 h.documents.toNat) (',' :: '\n' ::
    line "num_terms" (Nat.toDigits 10 h.terms.toNat) (',' :: '\n' ::
      line "created_at" (quote h.createdAt).toList (',' :: '\n' ::
        line "version" (Nat.toDigits 10 h.version.toNat) ['\n', '\x7d'])))

lemma toList_render (h : IndexHeader) : h.render.toList = '\x7b' :: h.body := by
  simp [render, body, fields, line, String.toList_append, String.intercalate_cons_cons]

lemma skipBlank_line (name : String) (value rest : List Char) :
    skipBlank ('\n' :: line name value rest) =
      (quote name).toList ++ ':' :: ' ' :: (value ++ rest) := by
  rw [line, skipBlank_of_blank rfl, skipBlank_of_blank rfl, skipBlank_of_blank rfl, toList_quote]
  exact skipBlank_of_not_blank rfl _

lemma endsNumber_comma : EndsNumber ',' := by
  simp [EndsNumber, isDigit]

lemma endsNumber_newline : EndsNumber '\n' := by
  simp [EndsNumber, isDigit]

/-- The members that are read from a header. -/
def members (h : IndexHeader) : List (Option String × Node) :=
  [(some "num_docs", .number (numeralOf h.documents.toNat)),
    (some "num_terms", .number (numeralOf h.terms.toNat)),
    (some "created_at", .string (some h.createdAt)),
    (some "version", .number (numeralOf h.version.toNat))]

lemma members?_body (h : IndexHeader) : bare (members? h.body) = some (h.members, []) := by
  have hnumber : ∀ (n : Nat) {c : Char} (r : List Char), EndsNumber c →
      bare (value? (' ' :: (Nat.toDigits 10 n ++ c :: r))) =
        some (.number (numeralOf n), c :: r) := by
    intro n c r hc
    rw [value?_of_blank rfl, value?_toDigits hc]
  have htext : ∀ (s : String) (r : List Char),
      bare (value? (' ' :: ((quote s).toList ++ r))) = some (.string (some s), r) := by
    intro s r
    rw [value?_of_blank rfl, value?_quote]
  refine bare_members?_cons (skipBlank_line _ _ _) (hnumber _ _ endsNumber_comma) rfl ?_
  refine bare_members?_cons (skipBlank_line _ _ _) (hnumber _ _ endsNumber_comma) rfl ?_
  refine bare_members?_cons (skipBlank_line _ _ _) (htext _ _) rfl ?_
  exact bare_members?_last (skipBlank_line _ _ _) (hnumber _ _ endsNumber_newline) rfl

lemma ofText?_render (h : IndexHeader) : ofText? h.render = some h := by
  have hnode := Node.ofText?_of_value? (bare_value?_object h.members?_body)
  have hrecord : Node.record? fields (.object h.members) =
      some (h.members.map Prod.snd) := by
    simp [Node.record?, Node.only?, members, fields]
  rw [ofText?, toList_render, hnode, Option.bind_some, hrecord, Option.bind_some]
  simp only [members, List.map_cons, List.map_nil, ofValues?, word?_numeralOf, Node.text?]

/-- A header is read back. -/
theorem ofBytes_render (h : IndexHeader) : ofBytes (Bytes.ofText h.render) = .ok h := by
  rw [ofBytes, Bytes.text?_ofText]
  simp only [ofText?_render]

/-- No header is read from a proper prefix of one. -/
theorem ofBytes_take (h : IndexHeader) {n : Nat} (hn : n < (Bytes.ofText h.render).length) :
    ∃ e, (e = .json ∨ e = .io .notText) ∧
      ofBytes ((Bytes.ofText h.render).take n) = .error e := by
  rw [ofBytes]
  cases htext : Bytes.text? ((Bytes.ofText h.render).take n) with
  | none => exact ⟨_, .inr rfl, rfl⟩
  | some s =>
    obtain ⟨t, ht, hs⟩ := Bytes.exists_append_of_text?_take hn htext
    rw [toList_render] at hs
    have hnone : Node.ofText? s.toList = none :=
      Node.ofText?_eq_none_of_append (bare_value?_object h.members?_body) hs ht
    simp only [ofText?, hnone]
    exact ⟨_, .inl rfl, rfl⟩

end DocSearch.IndexHeader
