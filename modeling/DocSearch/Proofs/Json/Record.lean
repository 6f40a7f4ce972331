import DocSearch.Json.Record
import DocSearch.Proofs.Basic

/-!
# Repeated members

An object may have several members with the same name. The plain reader finds no record in an object
that repeats a field, while of a settled object the last member with each name is left
(`named_lastOnly`). So both read the same record from an object that repeats none of the fields
(`record?_lastOnly`).
-/

namespace DocSearch.Json.Node

variable {members : List (Option String × Node)} {name : String} {names : List String}
  {v : Node} {vs : List Node} {depth : Nat}

/-- The members with a name. -/
def named (members : List (Option String × Node)) (name : String) : List (Option String × Node) :=
  members.filter fun (n, _) => n = some name

/-- Several members have the name. -/
def Repeats (members : List (Option String × Node)) (name : String) : Prop :=
  1 < (named members name).length

/-! ## The last member with a name -/

lemma lastOnly_sublist (members : List (Option String × Node)) :
    (lastOnly members).Sublist members := by
  induction members with
  | nil => exact List.Sublist.slnil
  | cons m members ih =>
    rw [lastOnly]
    split
    · exact ih.cons m
    · exact ih.cons_cons m

/-- The last member with a name is left. -/
lemma named_lastOnly (members : List (Option String × Node)) (name : String) :
    named (lastOnly members) name = (named members name).getLast?.toList := by
  induction members with
  | nil => rfl
  | cons m members ih =>
    obtain ⟨n, v⟩ := m
    rw [lastOnly]
    by_cases hn : n = some name
    · subst hn
      have hcons : named ((some name, v) :: members) name =
          (some name, v) :: named members name := List.filter_cons_of_pos (by simp)
      have hany : (members.any fun (k, _) => k = some name) = true ↔ named members name ≠ [] := by
        simp [named]
      split
      · next h =>
        rw [ih, hcons, List.getLast?_cons_of_ne_nil (hany.1 h)]
      · next h =>
        have hnil : named members name = [] := Decidable.byContradiction fun hne => h (hany.2 hne)
        rw [hcons, hnil, named, List.filter_cons_of_pos (by simp), ← named, ih, hnil]
        rfl
    · have hskip : ∀ ms, named ((n, v) :: ms) name = named ms name :=
        fun ms => List.filter_cons_of_neg (by simpa using hn)
      rw [hskip, ← ih]
      split
      · rfl
      · exact hskip _

lemma only?_lastOnly (h : ¬Repeats members name) :
    only? (lastOnly members) name = only? members name := by
  have hsame : named (lastOnly members) name = named members name := by
    rw [named_lastOnly]
    rw [Repeats, Nat.not_lt, Nat.le_one_iff_eq_zero_or_eq_one, List.length_eq_zero_iff,
      List.length_eq_one_iff] at h
    obtain h | ⟨m, h⟩ := h <;> rw [h] <;> rfl
  simp only [named] at hsame
  rw [only?, only?, hsame]

lemma not_repeats_of_only? (h : only? members name = some v) : ¬Repeats members name := by
  rw [only?] at h
  split at h
  · next m hm => simp [Repeats, named, hm]
  · exact absurd h (by simp)

/-! ## Records -/

lemma isSome_of_acceptableMembers (h : acceptableMembers depth members = true) :
    (members.all fun (n, _) => n.isSome) = true := by
  induction members with
  | nil => rfl
  | cons m members ih =>
    obtain ⟨n, v⟩ := m
    rw [acceptableMembers, Bool.and_eq_true, Bool.and_eq_true] at h
    rw [List.all_cons, ih h.2, Bool.and_true]
    exact h.1.1

/-- An object that repeats none of the fields keeps its record when it is settled. -/
lemma record?_lastOnly (hnames : (members.all fun (n, _) => n.isSome) = true)
    (h : ∀ name ∈ names, ¬Repeats members name) :
    record? names (.object (lastOnly members)) = record? names (.object members) := by
  have hlast : ((lastOnly members).all fun (n, _) => n.isSome) = true :=
    List.all_eq_true.2 fun m hm =>
      List.all_eq_true.1 hnames m ((lastOnly_sublist members).subset hm)
  rw [record?, record?, if_pos hnames, if_pos hlast]
  refine mapM_congr_of_mem fun name hname => ?_
  exact only?_lastOnly (h name hname)

/-- The plain reader finds a record only in an object that repeats none of the fields. -/
lemma not_repeats_of_record? (h : record? names (.object members) = some vs)
    (hname : name ∈ names) : ¬Repeats members name := by
  rw [record?] at h
  obtain ⟨-, hvalues⟩ := Option.ite_none_right_eq_some.1 h
  obtain ⟨v, hv⟩ := exists_of_mapM_eq_some hvalues name hname
  exact not_repeats_of_only? hv

end DocSearch.Json.Node
