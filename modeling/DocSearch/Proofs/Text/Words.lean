import Mathlib.Tactic.Lemma
import DocSearch.Text.Words

/-!
# Runs of characters

The longest runs of characters with a property hold, one after the other, exactly the characters of
the text that have it (`flatMap_runs`). They depend on nothing but where in the text these
characters are (`runs_ofList_flatMap`).
-/

namespace DocSearch.Text

variable {p q : Char → Bool} {run cs : List Char} {text word : String}

lemma flatMap_runsFrom (run cs : List Char) :
    (runsFrom p run cs).flatMap String.toList = run.reverse ++ cs.filter p := by
  induction cs generalizing run with
  | nil =>
    rw [runsFrom, List.filter_nil, List.append_nil]
    split
    · next h => simp [List.isEmpty_iff.1 h]
    · simp
  | cons c cs ih =>
    rw [runsFrom]
    split
    · next hc =>
      rw [ih, List.reverse_cons, List.filter_cons_of_pos hc, List.append_assoc]
      rfl
    · next hc =>
      rw [List.filter_cons_of_neg hc]
      split
      · next h => rw [ih, List.isEmpty_iff.1 h]
      · rw [List.flatMap_cons, ih, String.toList_ofList]
        rfl

/-- The runs of a text consist of the characters with the property, in order. -/
theorem flatMap_runs (p : Char → Bool) (text : String) :
    (runs p text).flatMap String.toList = text.toList.filter p :=
  flatMap_runsFrom [] text.toList

/-- The characters of a run are characters of the text with the property. -/
lemma of_mem_runs (hword : word ∈ runs p text) {c : Char} (hc : c ∈ word.toList) :
    c ∈ text.toList ∧ p c = true := by
  have hmem : c ∈ (runs p text).flatMap String.toList := List.mem_flatMap.2 ⟨word, hword, hc⟩
  rw [flatMap_runs] at hmem
  exact List.mem_filter.1 hmem

lemma runsFrom_of_forall (h : ∀ c ∈ cs, p c = true) (hne : run.reverse ++ cs ≠ []) :
    runsFrom p run cs = [String.ofList (run.reverse ++ cs)] := by
  induction cs generalizing run with
  | nil =>
    have hrun : run ≠ [] := by
      rintro rfl
      exact hne rfl
    rw [runsFrom, if_neg (by simpa using hrun), List.append_nil]
  | cons c cs ih =>
    obtain ⟨hc, hcs⟩ := List.forall_mem_cons.1 h
    rw [runsFrom, if_pos hc, ih hcs (by simp), List.reverse_cons, List.append_assoc]
    rfl

/-- A text whose characters all have the property is one run. -/
lemma runs_of_forall (h : ∀ c ∈ text.toList, p c = true) (hne : text ≠ "") :
    runs p text = [text] := by
  have hchars : text.toList ≠ [] := fun hnil => hne (String.toList_eq_nil_iff.1 hnil)
  have hrun : runsFrom p [] text.toList = [String.ofList text.toList] :=
    runsFrom_of_forall h hchars
  rw [runs, hrun, String.ofList_toList]

lemma runsFrom_congr (h : ∀ c ∈ cs, p c = q c) : runsFrom p run cs = runsFrom q run cs := by
  induction cs generalizing run with
  | nil => rfl
  | cons c cs ih =>
    obtain ⟨hc, hcs⟩ := List.forall_mem_cons.1 h
    rw [runsFrom, runsFrom, hc, ih hcs, ih hcs]

/-- Properties that agree on a text have the same runs. -/
lemma runs_congr (h : ∀ c ∈ text.toList, p c = q c) : runs p text = runs q text :=
  runsFrom_congr h

lemma runsFrom_flatMap {f : Char → List Char}
    (hkeep : ∀ c ∈ cs, q c = true → f c = [c] ∧ p c = true)
    (hgap : ∀ c ∈ cs, q c = false → ∃ d, f c = [d] ∧ p d = false) :
    runsFrom p run (cs.flatMap f) = runsFrom q run cs := by
  induction cs generalizing run with
  | nil => rfl
  | cons c cs ih =>
    obtain ⟨hkeepc, hkeep⟩ := List.forall_mem_cons.1 hkeep
    obtain ⟨hgapc, hgap⟩ := List.forall_mem_cons.1 hgap
    rw [List.flatMap_cons]
    cases hq : q c with
    | true =>
      obtain ⟨hf, hp⟩ := hkeepc hq
      rw [hf, List.singleton_append, runsFrom, runsFrom, if_pos hp, if_pos hq, ih hkeep hgap]
    | false =>
      obtain ⟨d, hf, hp⟩ := hgapc hq
      rw [hf, List.singleton_append]
      simp only [runsFrom, hp, hq, Bool.false_eq_true, if_false, ih hkeep hgap]

/-- The runs stay the same if every other character is replaced by one without the property. -/
lemma runs_ofList_flatMap {f : Char → List Char}
    (hkeep : ∀ c ∈ text.toList, q c = true → f c = [c] ∧ p c = true)
    (hgap : ∀ c ∈ text.toList, q c = false → ∃ d, f c = [d] ∧ p d = false) :
    runs p (String.ofList (text.toList.flatMap f)) = runs q text := by
  rw [runs, String.toList_ofList]
  exact runsFrom_flatMap hkeep hgap

end DocSearch.Text
