import DocSearch.Proofs.Index.TermIndex

/-!
# The list of terms

The terms of an index are the distinct tokens of its documents in order of first occurrence
(`TermIndex.terms_addDocuments`). Tokens are looked up in the dictionary and appended to the list of
terms, so this needs that the dictionary knows exactly the terms of the list (`TermIndex.Listed`).
-/

namespace DocSearch

section Lists

variable {α : Type} [BEq α] [LawfulBEq α] {a : α} {l m : List α}

lemma eraseDups_of_nodup (h : l.Nodup) : l.eraseDups = l := by
  induction l with
  | nil => rfl
  | cons a l ih =>
    obtain ⟨ha, hl⟩ := List.nodup_cons.1 h
    have hkeep : l.filter (fun b => !b == a) = l := by
      refine List.filter_eq_self.2 fun b hb => ?_
      simp only [Bool.not_eq_true', beq_eq_false_iff_ne, ne_eq]
      rintro rfl
      exact ha hb
    rw [List.eraseDups_cons, hkeep, ih hl]

lemma eraseDups_append_cons_of_mem (h : a ∈ l) :
    (l ++ a :: m).eraseDups = (l ++ m).eraseDups := by
  rw [List.eraseDups_append, List.eraseDups_append, List.cons_removeAll,
    if_neg (by simpa using h)]

/-- If what comes first has no repetitions left, those of what it was made from do not matter. -/
lemma eraseDups_eraseDups_append (h : l.eraseDups.Nodup) :
    (l.eraseDups ++ m).eraseDups = (l ++ m).eraseDups := by
  have hsame : m.removeAll l.eraseDups = m.removeAll l := by
    refine List.filter_congr fun a _ => ?_
    rw [Bool.eq_iff_iff]
    simp
  rw [List.eraseDups_append, List.eraseDups_append, eraseDups_of_nodup h, hsame]

end Lists

namespace TermIndex

variable {x y : TermIndex}

/-- The dictionary knows exactly the terms of the list, in which none occurs twice. -/
structure Listed (x : TermIndex) : Prop where
  nodup : x.terms.toList.Nodup
  mem_iff : ∀ token, token ∈ x.terms.toList ↔ ∃ t, x.termId? token = some t

lemma listed_empty : ({} : TermIndex).Listed :=
  ⟨List.nodup_nil, fun token => by simp [termId?]⟩

lemma Listed.notMem (hx : x.Listed) {token : String} (hnew : x.termId? token = none) :
    token ∉ x.terms.toList := by
  intro hmem
  obtain ⟨t, ht⟩ := (hx.mem_iff token).1 hmem
  exact absurd (hnew.symm.trans ht) (by simp)

lemma terms_push (x : TermIndex) (token : String) :
    (x.push token).terms.toList = x.terms.toList ++ [token] :=
  Array.toList_push

lemma Step.listed (h : Step x y) (hx : x.Listed) : y.Listed := by
  cases h with
  | countDocument t => exact ⟨hx.nodup, hx.mem_iff⟩
  | @push token hnew =>
    refine ⟨?_, fun u => ?_⟩
    · rw [terms_push, List.nodup_append]
      refine ⟨hx.nodup, by simp, fun a ha b hb heq => hx.notMem hnew ?_⟩
      rwa [← List.mem_singleton.1 hb, ← heq]
    · rw [terms_push, List.mem_append, List.mem_singleton, hx.mem_iff u, termId?_push]
      by_cases hu : token = u
      · simp [hu]
      · have hne : u ≠ token := fun heq => hu heq.symm
        simp [hu, hne]

lemma Grows.listed (h : Grows x y) (hx : x.Listed) : y.Listed := by
  induction h with
  | refl => exact hx
  | tail _ hstep ih => exact hstep.listed ih

/-- Counting tokens appends those that are new, each when it occurs first. -/
lemma terms_countTokens (x : TermIndex) (v : TermVector) (tokens : List String) (hx : x.Listed) :
    (x.countTokens v tokens).1.terms.toList = (x.terms.toList ++ tokens).eraseDups := by
  fun_induction countTokens x v tokens with
  | case1 => rw [List.append_nil, eraseDups_of_nodup hx.nodup]
  | case2 x v token tokens t ht ih =>
    rw [ih hx, eraseDups_append_cons_of_mem ((hx.mem_iff token).2 ⟨t, ht⟩)]
  | case3 x v token tokens hnew ih =>
    rw [ih ((Step.push hnew).listed hx), terms_push, List.append_assoc, List.singleton_append]

lemma terms_foldl_countDocument (ts : List TermId) : ∀ x : TermIndex,
    (ts.foldl countDocument x).terms = x.terms := by
  induction ts with
  | nil => intro x; rfl
  | cons t ts ih => intro x; exact ih (x.countDocument t)

lemma terms_addDocument (hx : x.Listed) (tokens : List String) :
    (x.addDocument tokens).1.terms.toList = (x.terms.toList ++ tokens).eraseDups := by
  rw [← terms_countTokens x ∅ tokens hx]
  exact congrArg Array.toList (terms_foldl_countDocument _ _)

/-- The list of terms is extended by the tokens of the documents that are new, in order of first
occurrence. -/
theorem terms_addDocuments (ds : List Document) : ∀ {x : TermIndex}, x.Listed →
    (x.addDocuments ds).1.terms.toList =
      (x.terms.toList ++ ds.flatMap Document.tokens).eraseDups := by
  induction ds with
  | nil =>
    intro x hx
    rw [List.flatMap_nil, List.append_nil, eraseDups_of_nodup hx.nodup]
    rfl
  | cons d ds ih =>
    intro x hx
    have hd : (x.addDocument d.tokens).1.Listed := (grows_addDocument x d.tokens).listed hx
    have hterms := terms_addDocument hx d.tokens
    rw [addDocuments_cons, ih hd, hterms, eraseDups_eraseDups_append (hterms ▸ hd.nodup),
      List.flatMap_cons, List.append_assoc]

end TermIndex

end DocSearch
