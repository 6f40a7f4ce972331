import Mathlib.Algebra.BigOperators.Group.List.Lemmas
import Mathlib.Algebra.Ring.Nat
import DocSearch.Proofs.Index.TermIndex

/-!
# Counting terms

A bag of terms holds the number of times that each of them was added
(`TermVector.count_foldl_bump`). So the bag of a list of tokens maps the terms that occur in it to
their numbers of occurrences (`TermIndex.Invertible.getElem?_bagOfWords_eq_some_iff`), and these add
up to the length of the list (`TermIndex.Knows.sum_bagOfWords`), as long as the length fits a count.

The document frequency of a term goes up by one with every document in whose vector the term is
(`TermIndex.frequency_addDocuments`).
-/

namespace DocSearch

/-! ## Bags of terms -/

namespace TermVector

variable {v : TermVector} {s t : TermId} {ts : List TermId}

lemma getElem?_eq_some_iff {c : UInt32} : v[t]? = some c ↔ t ∈ v ∧ v.count t = c := by
  rw [count, Std.ExtTreeMap.getD_eq_getD_getElem?, ← Std.ExtTreeMap.isSome_getElem?_iff_mem]
  cases v[t]? <;> simp

lemma count_bump : (v.bump t).count s = if t = s then v.count s + 1 else v.count s := by
  simp only [count, bump, Std.ExtTreeMap.getD_eq_getD_getElem?, Std.ExtTreeMap.getElem?_alter,
    Std.LawfulEqOrd.compare_eq_iff_eq]
  split
  · next h => rw [h, Option.getD_some]
  · rfl

lemma count_foldl_bump (ts : List TermId) : ∀ v : TermVector,
    (ts.foldl bump v).count s = v.count s + (ts.count s).toUInt32 := by
  induction ts with
  | nil => simp
  | cons t ts ih =>
    intro v
    rw [List.foldl_cons, ih, count_bump, List.count_cons]
    by_cases h : t = s
    · rw [if_pos h, if_pos (beq_iff_eq.2 h), Nat.toUInt32_eq, Nat.toUInt32_eq, UInt32.ofNat_add,
        UInt32.add_assoc, UInt32.add_comm 1]
      rfl
    · simp [h]

lemma count_empty : (∅ : TermVector).count t = 0 := by
  simp [count]

/-- The bag of terms that are not too many holds exactly these, with the numbers of times that they
were added. -/
lemma getElem?_foldl_bump_eq_some_iff (hfew : ts.length < UInt32.size) {c : UInt32} :
    (ts.foldl bump ∅)[t]? = some c ↔ t ∈ ts ∧ c.toNat = ts.count t := by
  have hlt : ts.count t < UInt32.size := Nat.lt_of_le_of_lt List.count_le_length hfew
  have hcount : (ts.count t).toUInt32.toNat = ts.count t := Nat.mod_eq_of_lt hlt
  rw [getElem?_eq_some_iff, mem_foldl_bump, count_foldl_bump, count_empty, UInt32.zero_add]
  constructor
  · rintro ⟨hmem, rfl⟩
    exact ⟨by simpa using hmem, hcount⟩
  · rintro ⟨hmem, hc⟩
    exact ⟨by simp [hmem], UInt32.toNat_inj.1 (hcount.trans hc.symm)⟩

/-- The counts in a bag of terms add up to the number of terms. -/
lemma sum_foldl_bump (hfew : ts.length < UInt32.size) :
    ((ts.foldl bump ∅).toList.map fun p => p.2.toNat).sum = ts.length := by
  have hcounts : ((ts.foldl bump ∅).toList.map fun p => p.2.toNat) =
      (ts.foldl bump ∅).keys.map fun t => ts.count t := by
    rw [← Std.ExtTreeMap.map_fst_toList_eq_keys, List.map_map]
    refine List.map_congr_left ?_
    rintro ⟨t, c⟩ hp
    rw [Std.ExtTreeMap.mem_toList_iff_getElem?_eq_some] at hp
    exact ((getElem?_foldl_bump_eq_some_iff hfew).1 hp).2
  have hperm : (ts.foldl bump ∅).keys.Perm ts.dedup := by
    refine (List.perm_ext_iff_of_nodup Std.ExtTreeMap.nodup_keys ts.nodup_dedup).2 ?_
    intro t
    rw [Std.ExtTreeMap.mem_keys, mem_foldl_bump, List.mem_dedup]
    simp
  rw [hcounts, (hperm.map _).sum_eq, List.sum_map_count_dedup_eq_length]

end TermVector

namespace TermIndex

variable {x y : TermIndex} {token : String} {tokens : List String} {t : TermId}

lemma Invertible.count_filterMap (hx : x.Invertible) (ht : x.termId? token = some t)
    (tokens : List String) : (tokens.filterMap x.termId?).count t = tokens.count token := by
  induction tokens with
  | nil => rfl
  | cons u tokens ih =>
    by_cases hu : u = token
    · rw [List.filterMap_cons_some (hu ▸ ht), List.count_cons, List.count_cons, ih]
      simp [hu]
    · have hne : x.termId? u ≠ some t := fun hut =>
        hu (Option.some.inj (((hx u t).1 hut).symm.trans ((hx token t).1 ht)))
      rw [List.count_cons_of_ne hu, ← ih]
      cases hid : x.termId? u with
      | none => rw [List.filterMap_cons_none hid]
      | some s =>
        rw [List.filterMap_cons_some hid, List.count_cons_of_ne]
        rintro rfl
        exact hne hid

/-- The bag of a list of tokens maps exactly the terms that occur in the list to their numbers of
occurrences. -/
theorem Invertible.getElem?_bagOfWords_eq_some_iff (hx : x.Invertible)
    (hfew : tokens.length < UInt32.size) {c : UInt32} : (x.bagOfWords tokens)[t]? = some c ↔
      ∃ token ∈ tokens, x.token? t = some token ∧ c.toNat = tokens.count token := by
  rw [bagOfWords, TermVector.getElem?_foldl_bump_eq_some_iff
    (Nat.lt_of_le_of_lt (List.length_filterMap_le _ _) hfew), List.mem_filterMap]
  constructor
  · rintro ⟨⟨token, htoken, ht⟩, hc⟩
    exact ⟨token, htoken, (hx token t).1 ht, hc.trans (hx.count_filterMap ht tokens)⟩
  · rintro ⟨token, htoken, ht, hc⟩
    have hid := (hx token t).2 ht
    exact ⟨⟨token, htoken, hid⟩, hc.trans (hx.count_filterMap hid tokens).symm⟩

lemma Knows.length_filterMap (h : x.Knows tokens) :
    (tokens.filterMap x.termId?).length = tokens.length := by
  induction tokens with
  | nil => rfl
  | cons token tokens ih =>
    obtain ⟨⟨t, ht⟩, htokens⟩ := List.forall_mem_cons.1 h
    rw [List.filterMap_cons_some ht, List.length_cons, ih htokens, List.length_cons]

/-- If all tokens are known, the counts in their bag add up to the number of tokens. -/
theorem Knows.sum_bagOfWords (h : x.Knows tokens) (hfew : tokens.length < UInt32.size) :
    ((x.bagOfWords tokens).toList.map fun p => p.2.toNat).sum = tokens.length := by
  rw [bagOfWords, TermVector.sum_foldl_bump (by rwa [h.length_filterMap]), h.length_filterMap]

/-- The vector holds the numbers of occurrences of the tokens and nothing else. -/
structure Counts (x : TermIndex) (tokens : List String) (v : TermVector) : Prop where
  getElem?_eq_some_iff : ∀ (t : TermId) (n : UInt32), v[t]? = some n ↔
    ∃ token ∈ tokens, x.token? t = some token ∧ n.toNat = tokens.count token
  pos : ∀ (t : TermId) (n : UInt32), v[t]? = some n → 0 < n.toNat
  sum : (v.toList.map fun p => p.2.toNat).sum = tokens.length

theorem Invertible.counts_bagOfWords (hx : x.Invertible) (hknows : x.Knows tokens)
    (hfew : tokens.length < UInt32.size) : x.Counts tokens (x.bagOfWords tokens) where
  getElem?_eq_some_iff := fun _ _ => hx.getElem?_bagOfWords_eq_some_iff hfew
  pos := by
    intro t n hn
    obtain ⟨token, htoken, -, hcount⟩ := (hx.getElem?_bagOfWords_eq_some_iff hfew).1 hn
    exact hcount ▸ List.count_pos_iff.2 htoken
  sum := hknows.sum_bagOfWords hfew

/-! ## Document frequencies -/

/-- There is a document frequency for every term, and ids are those of terms. -/
structure Aligned (x : TermIndex) : Prop where
  size_frequencies : x.frequencies.size = x.size
  lt_size : ∀ {token : String} {t : TermId}, x.termId? token = some t → t.toNat < x.size

lemma aligned_empty : ({} : TermIndex).Aligned :=
  ⟨rfl, fun h => absurd h (by simp [termId?])⟩

lemma Step.aligned (h : Step x y) (hx : x.Aligned) : y.Aligned := by
  cases h with
  | countDocument t =>
    refine ⟨?_, fun ht => hx.lt_size ht⟩
    exact (Array.size_modify ..).trans hx.size_frequencies
  | @push token hnew =>
    refine ⟨?_, fun {u t} ht => ?_⟩
    · rw [size_push, ← hx.size_frequencies]
      exact Array.size_push 0
    · rw [termId?_push] at ht
      rw [size_push]
      split at ht
      · obtain rfl := Option.some.inj ht
        exact Nat.lt_succ_of_le (Nat.mod_le _ _)
      · exact Nat.lt_succ_of_lt (hx.lt_size ht)

lemma Grows.aligned (h : Grows x y) (hx : x.Aligned) : y.Aligned := by
  induction h with
  | refl => exact hx
  | tail _ hstep ih => exact hstep.aligned ih

lemma frequency_push (x : TermIndex) (token : String) :
    (x.push token).frequency t = x.frequency t := by
  rw [frequency, push, Array.getElem?_push]
  split
  · next h => simp [frequency, h]
  · rfl

lemma frequency_countTokens (x : TermIndex) (v : TermVector) (tokens : List String) :
    (x.countTokens v tokens).1.frequency t = x.frequency t := by
  fun_induction countTokens x v tokens with
  | case1 => rfl
  | case2 x v token tokens s hs ih => exact ih
  | case3 x v token tokens hnew ih => rw [ih, frequency_push]

lemma frequency_countDocument (hx : x.Aligned) {s : TermId} (hs : s.toNat < x.size) :
    (x.countDocument s).frequency t = if s = t then x.frequency t + 1 else x.frequency t := by
  rw [frequency, countDocument, Array.getElem?_modify]
  by_cases h : s = t
  · subst h
    have hlt : s.toNat < x.frequencies.size := hx.size_frequencies ▸ hs
    simp [frequency, hlt]
  · have hne : s.toNat ≠ t.toNat := fun heq => h (UInt32.toNat_inj.1 heq)
    simp [frequency, h, hne]

lemma frequency_foldl_countDocument {ts : List TermId} (hts : ts.Nodup) : ∀ {x : TermIndex},
    x.Aligned → (∀ s ∈ ts, s.toNat < x.size) →
      (ts.foldl countDocument x).frequency t =
        if t ∈ ts then x.frequency t + 1 else x.frequency t := by
  induction ts with
  | nil => intro x _ _; simp
  | cons s ts ih =>
    intro x hx hlt
    obtain ⟨hs, hts⟩ := List.nodup_cons.1 hts
    obtain ⟨hslt, htslt⟩ := List.forall_mem_cons.1 hlt
    rw [List.foldl_cons, ih hts ((Step.countDocument x s).aligned hx) htslt,
      frequency_countDocument hx hslt]
    by_cases hst : s = t
    · subst hst
      simp [hs]
    · have hne : t ≠ s := fun heq => hst heq.symm
      simp [hst, hne]

/-- A document is counted once for each term in its vector. -/
lemma frequency_addDocument (hx : x.Aligned) (tokens : List String) :
    (x.addDocument tokens).1.frequency t =
      if t ∈ (x.addDocument tokens).2 then x.frequency t + 1 else x.frequency t := by
  have haligned := (grows_countTokens x ∅ tokens).aligned hx
  have hlt : ∀ s ∈ (x.countTokens ∅ tokens).2.keys, s.toNat < (x.countTokens ∅ tokens).1.size := by
    intro s hs
    rw [Std.ExtTreeMap.mem_keys, countTokens_vector x ∅ tokens .refl] at hs
    obtain ⟨token, -, hid⟩ := mem_bagOfWords.1 hs
    exact haligned.lt_size hid
  have hcount := frequency_foldl_countDocument (t := t) Std.ExtTreeMap.nodup_keys haligned hlt
  rw [frequency_countTokens] at hcount
  by_cases ht : t ∈ (x.countTokens ∅ tokens).2 <;> simpa [addDocument, ht] using hcount

/-- The document frequency of a term goes up by the number of vectors that it is in. -/
theorem frequency_addDocuments (ds : List Document) : ∀ {x : TermIndex}, x.Aligned →
    (x.addDocuments ds).1.frequency t =
      x.frequency t + ((x.addDocuments ds).2.countP fun v => v.contains t).toUInt32 := by
  induction ds with
  | nil => intro x _; simp [addDocuments]
  | cons d ds ih =>
    intro x hx
    have hd := (grows_addDocument x d.tokens).aligned hx
    rw [addDocuments_cons, ih hd, frequency_addDocument hx, List.countP_cons]
    by_cases ht : t ∈ (x.addDocument d.tokens).2
    · rw [if_pos ht, if_pos (Std.ExtTreeMap.contains_iff_mem.2 ht), Nat.toUInt32_eq,
        Nat.toUInt32_eq, UInt32.ofNat_add, UInt32.add_assoc, UInt32.add_comm 1]
      rfl
    · rw [if_neg ht, if_neg (by simpa using ht), Nat.add_zero]

end TermIndex

end DocSearch
