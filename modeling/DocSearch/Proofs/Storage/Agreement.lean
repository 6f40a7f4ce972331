import DocSearch.Proofs.Storage.Interruption

/-!
# Index files and an index in memory

An index that is kept in files behaves like one that is kept in memory. In a directory that can be
made and written (`Savable`) every save succeeds, whatever the arrangement in which the dictionary
is written, and what was saved is loaded again (`Savable.save`). So the two give the same answers to
the same loads and saves (`agrees_with_memory`).
-/

namespace DocSearch

/-! ## Loads and saves -/

/-- A use of an index store. The arrangement of the dictionary and the time are those that a save
into files comes with. -/
inductive StoreCall where
  /-- Loads the snapshot. -/
  | load
  /-- Replaces the snapshot. -/
  | save (s : Snapshot) (entries : List (String × TermId)) (now : String)

/-- The answer to a use of an index store. -/
inductive StoreAnswer where
  /-- What is loaded. -/
  | loaded (outcome : Except Error (Option Snapshot))
  /-- How saving ends. -/
  | saved (outcome : Except Error Unit)

namespace StoreCall

/-- The dictionary is arranged in some way, and all lengths can be written. -/
def IsProper : StoreCall → Prop
  | load => True
  | save s entries _ => entries.Perm s.index.dictionary.toList ∧ Layout.Storable s

/-- The snapshot that is there after a use. -/
def next (old : Option Snapshot) : StoreCall → Option Snapshot
  | load => old
  | save s _ _ => some s

end StoreCall

/-- The snapshot that was saved last. -/
def lastSaved (calls : List StoreCall) : Option Snapshot := calls.foldl StoreCall.next none

/-- The answers to several uses one after the other, and the store afterwards. -/
def answers {σ : Type} (answer : σ → StoreCall → StoreAnswer × σ) :
    σ → List StoreCall → List StoreAnswer × σ
  | store, [] => ([], store)
  | store, call :: calls =>
    let (first, store) := answer store call
    let (rest, store) := answers answer store calls
    (first :: rest, store)

/-- The answer of an index in memory. -/
def MemoryIndex.answer (m : MemoryIndex) : StoreCall → StoreAnswer × MemoryIndex
  | .load => (.loaded (IndexStore.load m), m)
  | .save s _ _ =>
    let (outcome, m) := IndexStore.save m s
    (.saved outcome, m)

namespace IndexFiles

open SaveStep Layout

variable {f : IndexFiles} {old : Option Snapshot} {s : Snapshot}
  {entries : List (String × TermId)} {calls : List StoreCall}

/-- The answer of an index in files. -/
def answer (f : IndexFiles) : StoreCall → StoreAnswer × IndexFiles
  | .load => (.loaded f.load, f)
  | .save s entries now =>
    let (outcome, f) := saveArranged { f with now } entries s
    (.saved outcome, f)

/-! ## Directories without faults -/

/-- The directory can be made, and no directories stand where the files belong. -/
def Savable (f : IndexFiles) : Prop :=
  ∃ t, f.tree.createDirectories f.root = .ok t ∧ Writable t f.root names

/-- Nothing goes wrong in the directory, which holds `old`. -/
structure Faultless (f : IndexFiles) (old : Option Snapshot) : Prop where
  load : f.load = .ok old
  savable : f.Savable

/-- The header is that of `old`. -/
def IsHeaded (f : IndexFiles) : Option Snapshot → Prop
  | none => f.loadHeader = .error (.io .notFound)
  | some s => ∃ now, f.loadHeader = .ok (headerOf s now)

/-- The directory holds no index, and one can be saved there. -/
structure Fresh (f : IndexFiles) : Prop where
  absent : f.tree.read (headerFile f.root) = .error .notFound
  savable : f.Savable

lemma Fresh.faultless (h : f.Fresh) : f.Faultless none :=
  ⟨load_of_absent h.absent, h.savable⟩

lemma Fresh.isHeaded (h : f.Fresh) : f.IsHeaded none := by
  simp only [IsHeaded, loadHeader, h.absent, Except.mapError, Except.bind]

lemma Savable.of_writable (h : Writable f.tree f.root names) : f.Savable := by
  obtain ⟨place, hplace, -⟩ := id h
  exact ⟨f.tree, hplace.createDirectories, h⟩

/-- All steps of a save can be performed. -/
lemma Savable.exists_performAll (h : f.Savable) (entries : List (String × TermId)) (s : Snapshot) :
    ∃ u, performAll f.tree (stepsArranged entries f.root f.now s) = (.ok (), u) := by
  obtain ⟨t, ht, hwritable⟩ := h
  have hall := halted_all (putAll f.root (files entries f.now s))
  obtain ⟨u, hu⟩ := hwritable.exists_performAll fun step => hall.exists_writes
  exact ⟨u, performAll_cons.2 ⟨t, ht, hu⟩⟩

/-- **What was saved is there.** A save succeeds and is followed by loads of its snapshot; the
directory stays one without faults. -/
theorem Savable.save (h : f.Savable) (hs : Storable s)
    (hentries : entries.Perm s.index.dictionary.toList) :
    ∃ u, f.saveArranged entries s = (.ok (), { f with tree := u }) ∧
      Faultless { f with tree := u } (some s) ∧ IsHeaded { f with tree := u } (some s) := by
  obtain ⟨u, hu⟩ := h.exists_performAll entries s
  have hholds : Holds { f with tree := u } (some s) := .saved hentries hu
  have hload := hholds.load (by rintro s ⟨⟩; exact hs)
  refine ⟨u, ?_, ⟨hload, .of_writable (hholds.writable hs)⟩, (hholds.stores hs).header⟩
  simp only [saveArranged, hu]
  rfl

/-! ## Agreement -/

/-- The files hold what is saved in memory. -/
structure Agrees (f : IndexFiles) (m : MemoryIndex) : Prop where
  faultless : f.Faultless m.saved
  isHeaded : f.IsHeaded m.saved

/-- Both stores give the same answer to a use and hold the same afterwards. -/
theorem Agrees.answer {m : MemoryIndex} (h : f.Agrees m) {call : StoreCall}
    (hcall : call.IsProper) :
    (f.answer call).1 = (m.answer call).1 ∧ (m.answer call).2.saved = call.next m.saved ∧
      (f.answer call).2.Agrees (m.answer call).2 := by
  cases call with
  | load => exact ⟨congrArg StoreAnswer.loaded h.faultless.load, rfl, h⟩
  | save s entries now =>
    obtain ⟨hentries, hs⟩ := hcall
    -- The time of a save has no part in whether it succeeds.
    have hsavable : Savable { f with now } := h.faultless.savable
    obtain ⟨u, hu, hfaultless, hheaded⟩ := hsavable.save hs hentries
    have hanswer : f.answer (.save s entries now) = (.saved (.ok ()), ⟨u, f.root, now⟩) := by
      simp only [IndexFiles.answer, hu]
    rw [hanswer]
    exact ⟨rfl, rfl, hfaultless, hheaded⟩

lemma Agrees.answers {m : MemoryIndex} (h : f.Agrees m) (hcalls : ∀ call ∈ calls, call.IsProper) :
    (answers IndexFiles.answer f calls).1 = (answers MemoryIndex.answer m calls).1 ∧
      (answers MemoryIndex.answer m calls).2.saved = calls.foldl StoreCall.next m.saved ∧
      (answers IndexFiles.answer f calls).2.Agrees (answers MemoryIndex.answer m calls).2 := by
  induction calls generalizing f m with
  | nil => exact ⟨rfl, rfl, h⟩
  | cons call calls ih =>
    obtain ⟨hcall, hcalls⟩ := List.forall_mem_cons.1 hcalls
    obtain ⟨hfirst, hsaved, hagrees⟩ := h.answer hcall
    obtain ⟨hrest, hlast, hagrees⟩ := ih hagrees hcalls
    refine ⟨congrArg₂ List.cons hfirst hrest, ?_, hagrees⟩
    rw [List.foldl_cons, ← hsaved]
    exact hlast

/-- **An index in files agrees with one in memory.** In a fresh directory all loads and saves have
the answers that they have in memory: nothing is found before the first save, and what was saved
last is found after it, with its numbers of documents and terms in the header. Saving as commands do
it, in ascending order, succeeds after all of them, and what it saves is found. -/
theorem agrees_with_memory (hf : f.Fresh) (hcalls : ∀ call ∈ calls, call.IsProper) :
    let filed := answers IndexFiles.answer f calls
    let kept := answers MemoryIndex.answer {} calls
    filed.1 = kept.1 ∧ kept.2.saved = lastSaved calls ∧
      IndexStore.load filed.2 = .ok (lastSaved calls) ∧
      (lastSaved calls = none → filed.2.loadHeader = .error (.io .notFound)) ∧
      (∀ s, lastSaved calls = some s → ∃ h, filed.2.loadHeader = .ok h ∧
        h.documents.toNat = s.documents.length % 2 ^ 32 ∧
        h.terms.toNat = s.index.size % 2 ^ 32) ∧
      ∀ s, Storable s → ∃ after, filed.2.save s = (.ok (), after) ∧
        IndexStore.load after = .ok (some s) := by
  intro filed kept
  have hstart : f.Agrees {} := ⟨hf.faultless, hf.isHeaded⟩
  obtain ⟨hanswers, hsaved, hagrees⟩ := hstart.answers hcalls
  have hlast : kept.2.saved = lastSaved calls := hsaved
  obtain ⟨⟨hload, hsavable⟩, hheaded⟩ := hagrees
  rw [hlast] at hload hheaded
  refine ⟨hanswers, hlast, hload, ?_, ?_, ?_⟩
  · intro hnone
    rwa [hnone] at hheaded
  · intro s hs
    rw [hs] at hheaded
    obtain ⟨now, hheader⟩ := hheaded
    exact ⟨headerOf s now, hheader, rfl, rfl⟩
  · intro s hs
    obtain ⟨u, hu, hfaultless, -⟩ := hsavable.save hs (.refl _)
    exact ⟨_, hu, hfaultless.load⟩

lemma fresh_vacant : vacant.Fresh where
  absent := by rfl
  savable := .of_writable writable_vacant

/-- A snapshot of two terms that no document contains any more. -/
def twoTerms : Snapshot where
  index :=
    { dictionary := (∅ : Std.ExtTreeMap String TermId).insert "a" 0 |>.insert "b" 1
      terms := #["a", "b"]
      frequencies := #[0, 0] }

/-- A longer dictionary, not in ascending order, is replaced by a shorter one. -/
def twoSaves : List StoreCall :=
  [.load, .save twoTerms [("b", 1), ("a", 0)] "noon", .load, .save oneDocument [] "night", .load]

lemma perm_twoTerms : [("b", 1), ("a", 0)].Perm twoTerms.index.dictionary.toList := by
  have htoList : twoTerms.index.dictionary.toList = [("a", 0), ("b", 1)] := by decide
  rw [htoList]
  exact .swap _ _ _

lemma storable_twoTerms : Storable twoTerms where
  index :=
    { dictionary := by decide
      tokens := by
        intro token htoken
        rw [← Std.ExtTreeMap.mem_keys] at htoken
        have hkeys : twoTerms.index.dictionary.keys = ["a", "b"] := by decide
        rw [hkeys] at htoken
        revert token
        decide
      terms := by decide
      term := by decide
      frequencies := by decide }
  documents := by decide
  document := by simp [twoTerms]
  vectors := by decide

theorem two_saves_agree :
    vacant.Fresh ∧ (∀ call ∈ twoSaves, call.IsProper) ∧
      (answers IndexFiles.answer vacant twoSaves).1 =
        [.loaded (.ok none), .saved (.ok ()), .loaded (.ok (some twoTerms)), .saved (.ok ()),
          .loaded (.ok (some oneDocument))] ∧
      (∃ h, (answers IndexFiles.answer vacant twoSaves).2.loadHeader = .ok h ∧
        h.documents.toNat = 1 ∧ h.terms.toNat = 0) ∧
      ∃ after, (answers IndexFiles.answer vacant twoSaves).2.save twoTerms = (.ok (), after) ∧
        IndexStore.load after = .ok (some twoTerms) := by
  have hcalls : ∀ call ∈ twoSaves, call.IsProper := by
    simp only [twoSaves, List.forall_mem_cons, StoreCall.IsProper]
    exact ⟨trivial, ⟨perm_twoTerms, storable_twoTerms⟩, trivial, ⟨.refl _, storable_oneDocument⟩,
      trivial, by simp⟩
  obtain ⟨hanswers, -, -, -, hheader, hsave⟩ := agrees_with_memory fresh_vacant hcalls
  exact ⟨fresh_vacant, hcalls, hanswers, hheader oneDocument rfl, hsave twoTerms storable_twoTerms⟩

end IndexFiles

end DocSearch
