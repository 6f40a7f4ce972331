import DocSearch.Index.Corpus

/-!
# Index stores

An index store keeps a snapshot from one run to the next. A corpus is obtained from the store if
there is a snapshot in it; only if there is none, it is built from a source of documents, and the
store gets the snapshot.
-/

namespace DocSearch

/-- Where a snapshot can be kept. -/
class IndexStore (σ : Type) where
  /-- The snapshot that was saved last, or nothing if there is none. -/
  load : σ → Except Error (Option Snapshot)
  /-- Replaces the snapshot; on failure the store may have changed too. -/
  save : σ → Snapshot → Except Error Unit × σ

/-- A store that keeps the snapshot in memory. -/
structure MemoryIndex where
  /-- The snapshot that was saved last. -/
  saved : Option Snapshot := none
deriving DecidableEq

instance : IndexStore MemoryIndex where
  load m := .ok m.saved
  save _ s := (.ok (), ⟨some s⟩)

/-- What comes of obtaining a corpus. -/
structure Obtained (σ α : Type) where
  /-- The corpus, or why there is none. -/
  corpus : Except Error (Corpus α)
  /-- The store afterwards. -/
  store : σ
  /-- The source was asked for documents. -/
  usedSource : Bool

variable {σ α : Type} [IndexStore σ] [Scalar α]

/-- Saves the snapshot of a corpus; the corpus is lost if that fails. -/
def Corpus.saveTo (c : Corpus α) (store : σ) : Except Error (Corpus α) × σ :=
  let (outcome, store) := IndexStore.save store c.snapshot
  (outcome.map fun _ => c, store)

/-- The corpus in the store; if there is none, that of the source, which is saved. -/
def Corpus.obtain (store : σ) (source : Except Error (List Document)) : Obtained σ α :=
  match IndexStore.load store with
  | .error e => ⟨.error e, store, false⟩
  | .ok (some s) => ⟨Corpus.ofSnapshot s, store, false⟩
  | .ok none =>
    match source.bind Corpus.build with
    | .error e => ⟨.error e, store, true⟩
    | .ok c =>
      let (corpus, store) := c.saveTo store
      ⟨corpus, store, true⟩

end DocSearch
