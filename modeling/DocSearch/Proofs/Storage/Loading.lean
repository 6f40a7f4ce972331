import DocSearch.Proofs.Ranking.Bounds
import DocSearch.Proofs.Storage.Opening
import DocSearch.Proofs.Storage.Stability

/-!
# Indexes that can be loaded but not used

The documents and the vectors of an index are read from two files, and nothing relates the one to
the other when a corpus is restored but that the ids are distinct. So it depends on the numbers at
the beginning of the two files whether all positions are within bounds (`safe_iff_of_load`).

After a save that came to a halt they are, unless the documents are new, the vectors are old and
there are fewer of these (`inBounds_iff_of_outcome`). So not every index that can be loaded is safe
(`loaded_index_out_of_bounds`).
-/

namespace DocSearch.IndexFiles

open SaveStep Layout

variable {α : Type} [Scalar α] {f : IndexFiles} {s : Snapshot} {c : Corpus α}

/-! ## Lengths of files -/

/-- The length that a file begins with. -/
def lengthIn (f : IndexFiles) (p : Path) : Option Nat :=
  (f.tree.read p).toOption.bind fun b => (readNumber lengthWidth b).map Prod.fst

lemma lengthIn_of_loadFile {β : Type} {read : Reader β} {p : Path} {l : List β}
    (h : f.loadFile (readList read) p = .ok l) : f.lengthIn p = some l.length := by
  obtain ⟨b, hb⟩ := exists_read_of_loadFile h
  rw [loadFile_of_read hb, decode] at h
  split at h
  · next l' rest hl =>
    obtain rfl := Except.ok.inj h
    obtain ⟨behind, hbehind⟩ := exists_readNumber_of_readList hl
    rw [lengthIn, hb]
    exact congrArg (Option.map Prod.fst) hbehind
  · exact absurd h (by simp)

/-! ## Restored indexes -/

lemma inBounds_iff_of_ofSnapshot (hc : Corpus.ofSnapshot s = .ok c) :
    c.documents.InBounds ↔ s.documents.length ≤ s.vectors.length :=
  DocumentStore.inBounds_iff (Corpus.documents_of_ofSnapshot hc)

/-- **Which loaded indexes are safe.** Whatever the files hold, the positions of a corpus that is
restored from a loaded index are those of its documents. They are within the bounds of the vectors
and of the highest counts as well exactly if the file of the documents begins with no larger number
than that of the vectors, which is to say exactly if no answer of the corpus depends on what stands
behind the end of these. Otherwise one of the documents that the corpus knows is looked up there. -/
theorem safe_iff_of_load (hload : f.load = .ok (some s)) (hc : Corpus.ofSnapshot s = .ok c) :
    (∃ n m, f.lengthIn (documentsFile f.root) = some n ∧ f.lengthIn (vectorsFile f.root) = some m ∧
      (c.documents.InBounds ↔ n ≤ m)) ∧
    (c.documents.InBounds ↔
      ∀ more counts, Corpus.AnswersAlike (c.withBeyond more counts) c) ∧
    (∀ (id : DocId) (i : ℕ), c.documents.positions[id]? = some i →
      i < c.documents.documents.size) ∧
    (¬ c.documents.InBounds → ∃ d ∈ s.documents, c.document? d.id = some d ∧
      c.documents.positions[d.id]? = some c.documents.vectors.size ∧
      c.documents.positions[d.id]? = some c.documents.maxCounts.size) := by
  obtain ⟨-, -, hdocuments, hvectors⟩ := loadFile_of_load hload
  have hstore := Corpus.documents_of_ofSnapshot hc
  refine ⟨⟨_, _, lengthIn_of_loadFile hdocuments, lengthIn_of_loadFile hvectors,
    inBounds_iff_of_ofSnapshot hc⟩, ⟨Corpus.answersAlike_withBeyond hstore,
    Corpus.inBounds_of_answersAlike hstore⟩, fun id i hi => ?_, fun hnot => ?_⟩
  · rw [(DocumentStore.sizes_of_ofLists hstore).1]
    exact DocumentStore.lt_length_of_positions hstore hi
  · rw [inBounds_iff_of_ofSnapshot hc, Nat.not_le] at hnot
    obtain ⟨d, hd, hget, hposition⟩ := DocumentStore.exists_beyond hstore hnot
    exact ⟨d, List.mem_of_getElem? hd, hget, hposition⟩

/-! ## Indexes after a halt -/

/-- Of what can be loaded after a halt, the positions are within bounds, unless the documents are
new, the vectors are old and there were fewer documents before. -/
theorem inBounds_iff_of_outcome {old new : Snapshot} {k : Nat}
    (hold : old.documents.length = old.vectors.length)
    (hnew : new.documents.length = new.vectors.length)
    (h : Outcome new (some old) k (.ok (some s))) (hc : Corpus.ofSnapshot s = .ok c) :
    c.documents.InBounds ↔ ¬ (k = 5 ∧ old.documents.length < new.documents.length) := by
  rw [inBounds_iff_of_ofSnapshot hc]
  cases h with
  | kept hk => omega
  | dictionary => simp [hold]
  | documents => simp [hold]
  | vectors => simp [hnew]
  | complete => simp [hnew]

/-- When an index without documents is replaced by one with a document, the save may come to a halt
behind the documents. -/
lemma exists_half_replaced : ∃ (f : IndexFiles) (c : Corpus Binary64),
    f.load = .ok (some { oneDocument with vectors := [] }) ∧
      Corpus.ofSnapshot { oneDocument with vectors := [] } = .ok c ∧ ¬ c.documents.InBounds := by
  have hholds := holds_save writable_vacant {}
  have hhalted : Halted (steps vacant.root vacant.now oneDocument) 5 _ := halted_take (by decide)
  obtain ⟨u, hu⟩ := exists_performAll_of_writable (hholds.writable storable_empty) hhalted
  have hload := outcome_of_halted hholds (by rintro s ⟨⟩; exact storable_empty)
    storable_oneDocument (.refl _) hhalted hu
  obtain ⟨c, hc, -⟩ : ∃ c : Corpus Binary64,
      Corpus.ofSnapshot { oneDocument with vectors := [] } = .ok c ∧ _ :=
    Corpus.exists_ofSnapshot (by decide)
  refine ⟨{ (vacant.save {}).2 with tree := u }, c, ?_, hc, ?_⟩
  · generalize load { (vacant.save {}).2 with tree := u } = loaded at hload ⊢
    cases hload with
    | kept hk => exact absurd hk (by decide)
    | torn hk => exact absurd hk (by decide)
    | documents => rfl
  · rw [inBounds_iff_of_ofSnapshot hc]
    decide

theorem half_replaced_unsafe :
    ∃ (f : IndexFiles) (c : Corpus Binary64),
      f.load = .ok (some { oneDocument with vectors := [] }) ∧
      Corpus.ofSnapshot { oneDocument with vectors := [] } = .ok c ∧
      f.lengthIn (documentsFile f.root) = some 1 ∧ f.lengthIn (vectorsFile f.root) = some 0 ∧
      c.document? 1 = some ⟨1, "", []⟩ ∧
      c.documents.positions[(1 : DocId)]? = some c.documents.vectors.size := by
  obtain ⟨f, c, hload, hc, hnot⟩ := exists_half_replaced
  obtain ⟨-, -, -, hbeyond⟩ := safe_iff_of_load hload hc
  obtain ⟨-, -, hdocuments, hvectors⟩ := loadFile_of_load hload
  obtain ⟨d, hd, hget, hposition, -⟩ := hbeyond hnot
  obtain rfl := List.mem_singleton.1 hd
  exact ⟨f, c, hload, hc, lengthIn_of_loadFile hdocuments, lengthIn_of_loadFile hvectors, hget,
    hposition⟩

/-- It is not so that all positions of a corpus are within bounds if its index can be loaded and is
accepted. -/
theorem loaded_index_out_of_bounds :
    ¬ ∀ (f : IndexFiles) (s : Snapshot) (c : Corpus Binary64), f.load = .ok (some s) →
      Corpus.ofSnapshot s = .ok c → c.documents.InBounds := by
  intro h
  obtain ⟨f, c, hload, hc, hnot⟩ := exists_half_replaced
  exact hnot (h f _ c hload hc)

end DocSearch.IndexFiles
