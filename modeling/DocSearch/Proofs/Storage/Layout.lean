import Mathlib.Algebra.Ring.Nat
import Mathlib.Data.List.Nodup
import Mathlib.Data.List.Perm.Subperm
import DocSearch.Proofs.Basic
import DocSearch.Storage.Layout

/-!
# Laws of the byte layout

A reader takes back what was written, whatever follows it (`Reads`), and does not mind what follows
what it takes (`Extends`). Together these make stored bytes complete or useless: a reader refuses
every proper prefix of what was written (`Reads.take_eq_none`).

Lengths are written as numbers of eight bytes, so texts, lists and maps must not be longer than such
a number can say (`Fits`).
-/

namespace DocSearch.Layout

variable {α β : Type}

/-- The reader takes a value from bytes, whatever follows them. -/
def Reads (read : Reader α) (b : Bytes) (x : α) : Prop :=
  ∀ rest, read (b ++ rest) = some (x, rest)

/-- What follows the bytes that the reader takes does not matter. -/
def Extends (read : Reader α) : Prop :=
  ∀ ⦃b : Bytes⦄ ⦃x : α⦄ ⦃rest : Bytes⦄ (more : Bytes),
    read b = some (x, rest) → read (b ++ more) = some (x, rest ++ more)

/-- The length of something can be written. -/
def Fits (length : Nat) : Prop := length < 256 ^ lengthWidth

instance (length : Nat) : Decidable (Fits length) :=
  inferInstanceAs (Decidable (length < 256 ^ lengthWidth))

section Readers

variable {read : Reader α} {readSnd : Reader β} {b c : Bytes} {x : α} {y : β}

lemma Reads.decode_append (h : Reads read b x) (more : Bytes) :
    decode read (b ++ more) = .ok x := by
  rw [decode, h more]

lemma Reads.decode (h : Reads read b x) : decode read b = .ok x := by
  simpa using h.decode_append []

lemma Reads.length_pos (h : Reads read b x) (hnil : read [] = none) : 0 < b.length := by
  refine List.length_pos_iff.2 ?_
  rintro rfl
  exact absurd ((h []).symm.trans hnil) (by simp)

/-- A proper prefix of what was written is refused. -/
theorem Reads.take_eq_none (h : Reads read b x) (hread : Extends read) {n : Nat}
    (hn : n < b.length) : read (b.take n) = none := by
  cases hprefix : read (b.take n) with
  | none => rfl
  | some p =>
    obtain ⟨y, rest⟩ := p
    have hwhole := hread (b.drop n) hprefix
    rw [List.take_append_drop, ← List.append_nil b, h []] at hwhole
    have hrest := congrArg List.length (Prod.mk.inj (Option.some.inj hwhole)).2
    rw [List.length_append, List.append_nil, List.length_drop, List.length_nil] at hrest
    omega

lemma Reads.decode_take (h : Reads read b x) (hread : Extends read) {n : Nat}
    (hn : n < b.length) : Layout.decode read (b.take n) = .error .encoding := by
  rw [Layout.decode, h.take_eq_none hread hn]

lemma Reads.map (h : Reads read b x) (f : α → β) :
    Reads (fun b => (read b).map fun (x, rest) => (f x, rest)) b (f x) := by
  intro rest
  simp only [h rest, Option.map_some]

lemma Extends.map (h : Extends read) (f : α → β) :
    Extends (fun b => (read b).map fun (x, rest) => (f x, rest)) := by
  intro b y rest more hb
  obtain ⟨⟨x, rest'⟩, hx, hy⟩ := Option.map_eq_some_iff.1 hb
  obtain ⟨rfl, rfl⟩ := Prod.mk.inj hy
  simp only [h more hx, Option.map_some]

/-! ## Numbers and texts -/

lemma toNat_toUInt8 (n : Nat) : n.toUInt8.toNat = n % 256 := rfl

lemma reads_number {width : Nat} : ∀ {n : Nat}, n < 256 ^ width →
    Reads (readNumber width) (number width n) n := by
  induction width with
  | zero =>
    intro n hn rest
    obtain rfl : n = 0 := by simpa using hn
    rfl
  | succ width ih =>
    intro n hn rest
    have hdiv : n / 256 < 256 ^ width := by
      rw [Nat.div_lt_iff_lt_mul (by decide)]
      rwa [Nat.pow_succ] at hn
    simp only [number, List.cons_append, readNumber, ih hdiv rest, toNat_toUInt8,
      Nat.mod_add_div]

lemma extends_readNumber (width : Nat) : Extends (readNumber width) := by
  induction width with
  | zero =>
    intro b n rest more h
    obtain ⟨rfl, rfl⟩ := Prod.mk.inj (Option.some.inj h)
    rfl
  | succ width ih =>
    intro b n rest more h
    cases b with
    | nil => exact absurd h (by simp [readNumber])
    | cons x b =>
      rw [readNumber] at h
      split at h
      · next n' rest' hb =>
        obtain ⟨rfl, rfl⟩ := Prod.mk.inj (Option.some.inj h)
        rw [List.cons_append, readNumber, ih more hb]
      · exact absurd h (by simp)

lemma reads_word (n : UInt32) : Reads readWord (word n) n := by
  have hn : n.toNat < 256 ^ 4 := n.toNat_lt
  have h := (reads_number hn).map Nat.toUInt32
  rwa [Nat.toUInt32_eq, UInt32.ofNat_toNat] at h

lemma extends_readWord : Extends readWord :=
  (extends_readNumber 4).map Nat.toUInt32

lemma reads_float (x : Binary64) : Reads readFloat (float x) x := by
  have hx : x.bits.toNat < 256 ^ 8 := x.bits.toNat_lt
  have h := (reads_number hx).map fun n => (⟨n.toUInt64⟩ : Binary64)
  rwa [Nat.toUInt64_eq, UInt64.ofNat_toNat] at h

lemma reads_bytes (hb : Fits b.length) : Reads readBytes (bytes b) b := by
  intro rest
  rw [bytes, List.append_assoc, readBytes, reads_number hb]
  simp

lemma extends_readBytes : Extends readBytes := by
  intro b content rest more h
  rw [readBytes] at h ⊢
  split at h
  · exact absurd h (by simp)
  · next n behind hn =>
    split at h
    · exact absurd h (by simp)
    · next hlen =>
      obtain ⟨rfl, rfl⟩ := Prod.mk.inj (Option.some.inj h)
      have hle : n ≤ behind.length := Nat.le_of_not_lt hlen
      have hle' : ¬ (behind ++ more).length < n := by
        rw [List.length_append]
        omega
      simp only [extends_readNumber lengthWidth more hn, if_neg hle',
        List.take_append_of_le_length hle, List.drop_append_of_le_length hle]

lemma reads_text {s : String} (hs : Fits (Bytes.ofText s).length) :
    Reads readText (text s) s := by
  intro rest
  rw [text, readText, reads_bytes hs rest]
  exact congrArg (Option.map _) (Bytes.text?_ofText s)

lemma extends_readText : Extends readText := by
  intro b s rest more h
  rw [readText] at h ⊢
  split at h
  · exact absurd h (by simp)
  · next content behind hcontent =>
    obtain ⟨s', hs', hpair⟩ := Option.map_eq_some_iff.1 h
    obtain ⟨rfl, rfl⟩ := Prod.mk.inj hpair
    simp only [extends_readBytes more hcontent, hs', Option.map_some]

/-! ## Pairs, lists and maps -/

lemma Reads.pair (h : Reads read b x) (hsnd : Reads readSnd c y) :
    Reads (readPair read readSnd) (b ++ c) (x, y) := by
  intro rest
  simp only [List.append_assoc, readPair, h (c ++ rest), hsnd rest, Option.map_some]

lemma Extends.readPair (h : Extends read) (hsnd : Extends readSnd) :
    Extends (readPair read readSnd) := by
  intro b p rest more hb
  rw [Layout.readPair] at hb ⊢
  split at hb
  · exact absurd hb (by simp)
  · next x behind hx =>
    obtain ⟨⟨y, rest'⟩, hy, hpair⟩ := Option.map_eq_some_iff.1 hb
    obtain ⟨rfl, rfl⟩ := Prod.mk.inj hpair
    simp only [h more hx, hsnd more hy, Option.map_some]

variable {write : α → Bytes} {l : List α}

lemma reads_many (h : ∀ x ∈ l, Reads read (write x) x) :
    Reads (readMany read l.length) (l.flatMap write) l := by
  induction l with
  | nil => exact fun rest => rfl
  | cons x l ih =>
    intro rest
    obtain ⟨hx, hl⟩ := List.forall_mem_cons.1 h
    simp only [List.flatMap_cons, List.append_assoc, List.length_cons, readMany, hx _, ih hl rest,
      Option.map_some]

lemma Extends.readMany (h : Extends read) (n : Nat) : Extends (readMany read n) := by
  induction n with
  | zero =>
    intro b l rest more hb
    obtain ⟨rfl, rfl⟩ := Prod.mk.inj (Option.some.inj hb)
    rfl
  | succ n ih =>
    intro b l rest more hb
    rw [Layout.readMany] at hb ⊢
    split at hb
    · exact absurd hb (by simp)
    · next x behind hx =>
      obtain ⟨⟨l', rest'⟩, hl', hpair⟩ := Option.map_eq_some_iff.1 hb
      obtain ⟨rfl, rfl⟩ := Prod.mk.inj hpair
      simp only [h more hx, ih more hl', Option.map_some]

lemma reads_list (hlen : Fits l.length) (h : ∀ x ∈ l, Reads read (write x) x) :
    Reads (readList read) (list write l) l := by
  intro rest
  rw [list, List.append_assoc, readList, reads_number hlen]
  exact reads_many h rest

lemma length_of_readMany {n : Nat} : ∀ {b rest : Bytes} {l : List α},
    readMany read n b = some (l, rest) → l.length = n := by
  induction n with
  | zero =>
    intro b rest l h
    obtain ⟨rfl, rfl⟩ := Prod.mk.inj (Option.some.inj h)
    rfl
  | succ n ih =>
    intro b rest l h
    rw [readMany] at h
    split at h
    · exact absurd h (by simp)
    · obtain ⟨⟨l', rest'⟩, hl', hpair⟩ := Option.map_eq_some_iff.1 h
      obtain ⟨rfl, -⟩ := Prod.mk.inj hpair
      rw [List.length_cons, ih hl']

/-- The bytes of a list that can be read begin with its length. -/
lemma exists_readNumber_of_readList {rest : Bytes} (h : readList read b = some (l, rest)) :
    ∃ behind, readNumber lengthWidth b = some (l.length, behind) := by
  rw [readList] at h
  split at h
  · exact absurd h (by simp)
  · next n behind hn =>
    rw [length_of_readMany h]
    exact ⟨behind, hn⟩

lemma Extends.readList (h : Extends read) : Extends (readList read) := by
  intro b l rest more hb
  rw [Layout.readList] at hb ⊢
  split at hb
  · exact absurd hb (by simp)
  · next n behind hn =>
    simp only [extends_readNumber lengthWidth more hn]
    exact h.readMany n more hb

end Readers

section Maps

variable [Ord α] [Std.TransOrd α] [Std.LawfulEqOrd α] [BEq α] [LawfulBEq α] {readKey : Reader α}
  {readValue : Reader β} {writeKey : α → Bytes} {writeValue : β → Bytes}
  {m : Std.ExtTreeMap α β}

/-- A map is read back from its entries in any arrangement. -/
lemma reads_map {entries : List (α × β)} (hentries : entries.Perm m.toList)
    (hsize : Fits m.toList.length) (hkey : ∀ k ∈ m, Reads readKey (writeKey k) k)
    (hvalue : ∀ v, Reads readValue (writeValue v) v) :
    Reads (readMap readKey readValue) (list (pair writeKey writeValue) entries) m := by
  have hpairs : ∀ p ∈ entries,
      Reads (readPair readKey readValue) (pair writeKey writeValue p) p := by
    rintro ⟨k, v⟩ hp
    have hk : k ∈ m := by
      rw [← Std.ExtTreeMap.isSome_getElem?_iff_mem,
        Std.ExtTreeMap.mem_toList_iff_getElem?_eq_some.1 (hentries.mem_iff.1 hp),
        Option.isSome_some]
    exact (hkey k hk).pair (hvalue v)
  have hlist := reads_list (hentries.length_eq ▸ hsize) hpairs
  intro rest
  simp only [readMap, hlist rest, Option.map_some, foldl_insert_of_perm hentries]

omit [Std.LawfulEqOrd α] [BEq α] [LawfulBEq α] in
lemma Extends.readMap (hkey : Extends readKey) (hvalue : Extends readValue) :
    Extends (readMap readKey readValue) :=
  (hkey.readPair hvalue).readList.map _

end Maps

/-! ## Parts of a snapshot -/

/-- The lengths in an index can be written. -/
structure StorableIndex (x : TermIndex) : Prop where
  dictionary : Fits x.dictionary.toList.length
  tokens : ∀ token ∈ x.dictionary, Fits (Bytes.ofText token).length
  terms : Fits x.terms.toList.length
  term : ∀ token ∈ x.terms.toList, Fits (Bytes.ofText token).length
  frequencies : Fits x.frequencies.toList.length

/-- The lengths in a document can be written. -/
structure StorableDocument (d : Document) : Prop where
  title : Fits (Bytes.ofText d.title).length
  tokens : Fits d.tokens.length
  token : ∀ token ∈ d.tokens, Fits (Bytes.ofText token).length

/-- The lengths in a snapshot can be written. -/
structure Storable (s : Snapshot) : Prop where
  index : StorableIndex s.index
  documents : Fits s.documents.length
  document : ∀ d ∈ s.documents, StorableDocument d
  vectors : Fits s.vectors.length

/-- The index is read back whatever the arrangement of its dictionary. -/
lemma reads_index {x : TermIndex} (hx : StorableIndex x) {entries : List (String × TermId)}
    (hentries : entries.Perm x.dictionary.toList) :
    Reads readIndex (indexArranged entries x) x := by
  have hdictionary := reads_map hentries hx.dictionary (fun k hk => reads_text (hx.tokens k hk))
    reads_word
  have hterms := reads_list hx.terms fun token htoken => reads_text (hx.term token htoken)
  have hfrequencies := reads_list hx.frequencies fun n _ => reads_word n
  intro rest
  simp only [indexArranged, List.append_assoc, readIndex, hdictionary _]
  rw [← List.append_assoc, hterms.pair hfrequencies rest]
  rfl

lemma extends_readIndex : Extends readIndex := by
  intro b x rest more h
  rw [readIndex] at h ⊢
  split at h
  · exact absurd h (by simp)
  · next dictionary behind hdictionary =>
    obtain ⟨⟨⟨terms, frequencies⟩, rest'⟩, hlists, hpair⟩ := Option.map_eq_some_iff.1 h
    obtain ⟨rfl, rfl⟩ := Prod.mk.inj hpair
    have hread := extends_readText.readList.readPair extends_readWord.readList
    simp only [extends_readText.readMap extends_readWord more hdictionary, hread more hlists,
      Option.map_some]

lemma reads_document {d : Document} (hd : StorableDocument d) :
    Reads readDocument (document d) d := by
  have htokens := reads_list hd.tokens fun token htoken => reads_text (hd.token token htoken)
  have hd' := ((reads_word d.id).pair ((reads_text hd.title).pair htokens)).map
    fun (id, title, tokens) => ({ id, title, tokens } : Document)
  rwa [← List.append_assoc] at hd'

lemma extends_readDocument : Extends readDocument := by
  have hfields := extends_readWord.readPair (extends_readText.readPair extends_readText.readList)
  have h := hfields.map fun (id, title, tokens) => ({ id, title, tokens } : Document)
  exact h

/-- There are no more words than a length can say. -/
lemma fits_length_toList (m : Std.ExtTreeMap UInt32 β) : Fits m.toList.length := by
  have hnodup : (m.keys.map UInt32.toNat).Nodup :=
    List.Nodup.map (fun _ _ h => UInt32.toNat_inj.1 h) Std.ExtTreeMap.nodup_keys
  have hsubset : m.keys.map UInt32.toNat ⊆ List.range UInt32.size := by
    intro n hn
    obtain ⟨t, -, rfl⟩ := List.mem_map.1 hn
    exact List.mem_range.2 t.toNat_lt
  have hle := (List.subperm_of_subset hnodup hsubset).length_le
  rw [List.length_map, List.length_range, ← Std.ExtTreeMap.map_fst_toList_eq_keys,
    List.length_map] at hle
  exact Nat.lt_of_le_of_lt hle (by decide)

lemma reads_vector (v : TermVector) : Reads readVector (vector v) v :=
  reads_map (.refl _) (fits_length_toList v) (fun t _ => reads_word t) reads_word

/-- All ratings are read back, whatever they are. -/
lemma reads_ratings (r : Ratings Binary64) : Reads readRatings (ratings r) r :=
  reads_map (.refl _) (fits_length_toList r) (fun id _ => reads_word id) reads_float

lemma extends_readVector : Extends readVector :=
  extends_readWord.readMap extends_readWord

lemma reads_documents {s : Snapshot} (hs : Storable s) :
    Reads (readList readDocument) (list document s.documents) s.documents :=
  reads_list hs.documents fun d hd => reads_document (hs.document d hd)

lemma reads_vectors {s : Snapshot} (hs : Storable s) :
    Reads (readList readVector) (list vector s.vectors) s.vectors :=
  reads_list hs.vectors fun v _ => reads_vector v

end DocSearch.Layout
