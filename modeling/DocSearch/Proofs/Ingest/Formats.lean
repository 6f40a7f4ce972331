import DocSearch.Proofs.Ingest.Basic
import DocSearch.Proofs.Json.Array
import DocSearch.Proofs.Json.Record

/-!
# Lines and arrays of objects

The same texts of objects can stand in a file of lines or as an array in a file that is read as a
whole. Lines go to the plain reader, and the items of an array are settled first. So the two files
give the same unless a line repeats a field, which the plain reader refuses, or a text has a value
that is not acceptable in a settled one (`documents_agree_iff`).
-/

namespace DocSearch

namespace Json

/-- A text that writes an object is not blank. -/
lemma WritesObject.brace_mem {s : List Char} {members : List (Option String × Node)}
    (h : WritesObject s members) : '\x7b' ∈ s := by
  obtain ⟨r, hr, -⟩ := Node.exists_of_ofText? h
  obtain ⟨u, hu⟩ := exists_skipBlank_of_object hr
  exact (List.dropWhile_sublist isBlank).subset (by rw [← skipBlank, hu]; exact List.mem_cons_self)

end Json

namespace Ingest

open Json

variable {t u : FileTree} {a : Analyzer} {p q : Path} {s gap row : List Char} {content : Bytes}
  {rows texts : List (List Char)} {members : List (Option String × Node)}
  {objects : List (List (Option String × Node))}

/-! ## Lines of bytes -/

/-- The bytes of a text that is given by its characters. -/
def encode (s : List Char) : Bytes := Bytes.ofText (String.ofList s)

lemma encode_eq (s : List Char) : encode s = s.flatMap String.utf8EncodeChar := by
  rw [encode, Bytes.ofText, String.toByteArray_ofList, List.utf8Encode, List.data_toByteArray]

lemma text?_encode (s : List Char) : Bytes.text? (encode s) = some (String.ofList s) :=
  Bytes.text?_ofText _

lemma eq_ofNat_iff {n : Nat} (h : n < 256) : (10 : UInt8) = UInt8.ofNat n ↔ n = 10 := by
  rw [← UInt8.toNat_inj, UInt8.toNat_ofNat, UInt8.toNat_ofNat', Nat.mod_eq_of_lt h]
  exact eq_comm

/-- The byte of a line feed stands in no other character. -/
lemma newline_mem_encodeChar {c : Char} : 10 ∈ String.utf8EncodeChar c ↔ c = '\n' := by
  have hc : c = '\n' ↔ c.val.toNat = 10 := by
    rw [← Char.val_inj, ← UInt32.toNat_inj]
    rfl
  rw [hc, String.utf8EncodeChar]
  split
  · rw [List.mem_singleton, eq_ofNat_iff (by omega)]
  · split
    · simp only [List.mem_cons, List.not_mem_nil, or_false]
      rw [eq_ofNat_iff (by omega), eq_ofNat_iff (by omega)]
      omega
    · split
      · simp only [List.mem_cons, List.not_mem_nil, or_false]
        rw [eq_ofNat_iff (by omega), eq_ofNat_iff (by omega), eq_ofNat_iff (by omega)]
        omega
      · simp only [List.mem_cons, List.not_mem_nil, or_false]
        rw [eq_ofNat_iff (by omega), eq_ofNat_iff (by omega), eq_ofNat_iff (by omega),
          eq_ofNat_iff (by omega)]
        omega

lemma newline_mem_encode : 10 ∈ encode s ↔ '\n' ∈ s := by
  simp [encode_eq, List.mem_flatMap, newline_mem_encodeChar]

lemma encode_intercalate (rows : List (List Char)) :
    encode (['\n'].intercalate rows) = [10].intercalate (rows.map encode) := by
  induction rows with
  | nil => rfl
  | cons row rows ih =>
    cases rows with
    | nil => simp
    | cons row' rows =>
      rw [List.intercalate_cons_cons, List.map_cons, List.map_cons, List.intercalate_cons_cons,
        ← List.map_cons, ← ih]
      simp only [encode_eq, List.flatMap_append]
      rfl

lemma lines_encode (hrows : ∀ row ∈ rows, '\n' ∉ row) (hne : rows ≠ []) :
    lines (encode (['\n'].intercalate rows)) = rows.map encode := by
  rw [encode_intercalate]
  refine List.splitOn_intercalate 10 ?_ (mt List.map_eq_nil_iff.1 hne)
  intro line hline
  obtain ⟨row, hrow, rfl⟩ := List.mem_map.1 hline
  exact mt newline_mem_encode.1 (hrows row hrow)

/-- The texts stand in rows of their own, in order; blank rows may stand between them. -/
inductive Spread : List (List Char) → List (List Char) → Prop where
  | nil : Spread [] []
  | text (s : List Char) {rows texts : List (List Char)} (h : Spread rows texts) :
      Spread (s :: rows) (s :: texts)
  | blank {row : List Char} {rows texts : List (List Char)} (hrow : row.all Unicode.isBlank = true)
      (h : Spread rows texts) : Spread (row :: rows) texts

lemma ofLine_blank (hrow : row.all Unicode.isBlank = true) : ofLine a (encode row) = .ok none := by
  simp only [ofLine, text?_encode, String.toList_ofList, hrow, if_true]

lemma ofLine_object (h : WritesObject s members) :
    ofLine a (encode s) = (orJson (ofNode? a (.object members))).map some := by
  have hnot : s.all Unicode.isBlank = false :=
    List.all_eq_false.2 ⟨'\x7b', h.brace_mem, by decide +kernel⟩
  rw [WritesObject] at h
  simp only [ofLine, text?_encode, String.toList_ofList, hnot, Bool.false_eq_true, if_false, h,
    Option.bind_some]

lemma mapM_ofLine (hspread : Spread rows texts)
    (hobjects : List.Forall₂ WritesObject texts objects) :
    (rows.mapM fun row => ofLine a (encode row)).map (List.filterMap id) =
      objects.mapM fun ms => orJson (ofNode? a (.object ms)) := by
  induction hspread generalizing objects with
  | nil =>
    cases hobjects
    rfl
  | @text s rows texts h ih =>
    cases hobjects with
    | @cons _ ms _ objects hs hrest =>
      rw [List.mapM_cons, List.mapM_cons, ofLine_object hs, ← ih hrest]
      cases orJson (ofNode? a (.object ms)) <;>
        cases List.mapM (fun row => ofLine a (encode row)) rows <;> rfl
  | @blank row rows texts hrow h ih =>
    rw [List.mapM_cons, ofLine_blank hrow, ← ih hobjects]
    cases List.mapM (fun row => ofLine a (encode row)) rows <;> rfl

lemma mapM_orJson {α β : Type} (f : α → Option β) (l : List α) :
    (l.mapM fun x => orJson (f x)) = orJson (l.mapM f) := by
  induction l with
  | nil => rfl
  | cons x l ih =>
    rw [List.mapM_cons, List.mapM_cons, ih]
    cases f x <;> cases l.mapM f <;> rfl

/-- The documents that the plain reader finds in objects. -/
def plain? (a : Analyzer) (objects : List (List (Option String × Node))) :
    Option (List Document) :=
  objects.mapM fun ms => ofNode? a (.object ms)

/-- A file of lines is read object by object. -/
lemma ofLines_eq (hspread : Spread rows texts) (hrows : ∀ row ∈ rows, '\n' ∉ row)
    (hobjects : List.Forall₂ WritesObject texts objects) :
    ofLines a (encode (['\n'].intercalate rows)) = orJson (plain? a objects) := by
  by_cases hne : rows = []
  · subst hne
    cases hspread
    cases hobjects
    rfl
  · rw [ofLines, lines_encode hrows hne, List.mapM_map, plain?, ← mapM_orJson]
    exact mapM_ofLine hspread hobjects

/-! ## Items of an array -/

/-- The object is acceptable as an item of an array. -/
def Settles (members : List (Option String × Node)) : Prop :=
  Node.acceptable (Node.maxDepth - 1) (.object members) = true

instance (members : List (Option String × Node)) : Decidable (Settles members) :=
  inferInstanceAs (Decidable (_ = _))

lemma acceptableItems_objects {depth : Nat} (objects : List (List (Option String × Node))) :
    Node.acceptableItems depth (objects.map .object) = true ↔
      ∀ ms ∈ objects, Node.acceptable depth (.object ms) = true := by
  induction objects with
  | nil => simp [Node.acceptableItems]
  | cons ms objects ih =>
    rw [List.map_cons, Node.acceptableItems, Bool.and_eq_true, ih, List.forall_mem_cons]

/-- The documents that are found in objects as the items of an array. -/
def settled? (a : Analyzer) (objects : List (List (Option String × Node))) :
    Option (List Document) :=
  if ∀ ms ∈ objects, Settles ms then
    objects.mapM fun ms => ofNode? a (.object (Node.lastOnly ms))
  else none

/-- An array of objects is read object by object if all of them are acceptable. -/
lemma ofWhole_eq (hgap : ∀ c ∈ gap, Json.isBlank c = true)
    (hobjects : List.Forall₂ WritesObject texts objects) :
    ofWhole a (encode (arrayText gap texts)) = orJson (settled? a objects) := by
  have haccepted : Node.acceptable Node.maxDepth (.array (objects.map .object)) = true ↔
      ∀ ms ∈ objects, Settles ms := by
    rw [Node.acceptable, Bool.and_eq_true, acceptableItems_objects]
    exact and_iff_right (by decide)
  rw [ofWhole, text?_encode, Option.bind_some, String.toList_ofList, Node.settled?,
    ofText?_arrayText hobjects hgap, settled?]
  simp only [haccepted]
  split
  · rw [Option.bind_some, ofValue?, List.mapM_map]
    rfl
  · rfl

/-! ## Both formats -/

/-- The object has several values for a field of a document. -/
def RepeatsField (members : List (Option String × Node)) : Prop :=
  ∃ name ∈ fields, Node.Repeats members name

instance (members : List (Option String × Node)) : Decidable (RepeatsField members) :=
  inferInstanceAs (Decidable (∃ name ∈ fields, _ < _))

lemma not_repeatsField {d : Document} (h : ofNode? a (.object members) = some d) :
    ¬RepeatsField members := by
  obtain ⟨vs, hvs, -⟩ := Option.bind_eq_some_iff.1 h
  rintro ⟨name, hname, hrepeats⟩
  exact Node.not_repeats_of_record? hvs hname hrepeats

lemma Settles.ofNode?_lastOnly (hsettles : Settles members) (h : ¬RepeatsField members) :
    ofNode? a (.object (Node.lastOnly members)) = ofNode? a (.object members) := by
  rw [Settles, Node.acceptable, Bool.and_eq_true] at hsettles
  have hnames := Node.isSome_of_acceptableMembers hsettles.2
  have hfields : ∀ name ∈ fields, ¬Node.Repeats members name := fun name hname hrepeats =>
    h ⟨name, hname, hrepeats⟩
  rw [ofNode?, ofNode?, Node.record?_lastOnly hnames hfields]

lemma not_repeatsField_of_plain? {ds : List Document} (h : plain? a objects = some ds) :
    ∀ ms ∈ objects, ¬RepeatsField ms := by
  intro ms hms
  obtain ⟨d, hd⟩ := exists_of_mapM_eq_some h ms hms
  exact not_repeatsField hd

lemma settles_of_settled? {ds : List Document} (h : settled? a objects = some ds) :
    ∀ ms ∈ objects, Settles ms := by
  rw [settled?] at h
  exact (Option.ite_none_right_eq_some.1 h).1

lemma settled?_eq_plain? (hsettles : ∀ ms ∈ objects, Settles ms)
    (hfields : ∀ ms ∈ objects, ¬RepeatsField ms) : settled? a objects = plain? a objects := by
  rw [settled?, if_pos hsettles, plain?]
  exact mapM_congr_of_mem fun ms hms => (hsettles ms hms).ofNode?_lastOnly (hfields ms hms)

lemma orJson_eq_ok_iff {α : Type} {o : Option α} {x : α} : orJson o = .ok x ↔ o = some x := by
  cases o <;> simp [orJson]

/-- A path to a file whose name has an extension. -/
def LeadsToFile (t : FileTree) (p : Path) (extension : String) (content : Bytes) : Prop :=
  ∃ place name, t.locate p = .ok place ∧ t.entry? place = some (.file content) ∧
    place.getLast? = some name ∧ extension? name = some extension

lemma LeadsToFile.documents_eq {extension : String} (h : LeadsToFile t p extension content) :
    documents t a (some p) =
      if extension = "jsonl" then ofLines a content else ofWhole a content := by
  obtain ⟨place, name, hplace, hentry, hlast, hextension⟩ := h
  rw [documents_of_file hplace hentry, ofEntry, hlast, Option.getD_some, ofFile, hextension]
  simp only [Option.some.injEq]

/-- **When lines and arrays agree.** The same texts of objects give the same documents or an error
in either format if each of them is acceptable in an array and repeats no field of a document. In
general the results differ if and only if the lines give documents although some object is not
acceptable in an array, or the array gives documents although some object repeats a field. They are
never two different lists of documents. -/
theorem documents_agree_iff (hspread : Spread rows texts) (hrows : ∀ row ∈ rows, '\n' ∉ row)
    (hgap : ∀ c ∈ gap, Json.isBlank c = true)
    (hobjects : List.Forall₂ WritesObject texts objects)
    (hp : LeadsToFile t p "jsonl" (encode (['\n'].intercalate rows)))
    (hq : LeadsToFile u q "json" (encode (arrayText gap texts))) :
    ((∀ ms ∈ objects, Settles ms ∧ ¬RepeatsField ms) →
      documents t a (some p) = documents u a (some q)) ∧
    (documents t a (some p) = documents u a (some q) ↔
      ((∃ ds, documents t a (some p) = .ok ds) → ∀ ms ∈ objects, Settles ms) ∧
      ((∃ ds, documents u a (some q) = .ok ds) → ∀ ms ∈ objects, ¬RepeatsField ms)) ∧
    ∀ ds es, documents t a (some p) = .ok ds → documents u a (some q) = .ok es → ds = es := by
  rw [hp.documents_eq, hq.documents_eq, if_pos rfl, if_neg (by decide),
    ofLines_eq hspread hrows hobjects, ofWhole_eq hgap hobjects]
  simp only [orJson_eq_ok_iff]
  refine ⟨?_, ⟨?_, ?_⟩, ?_⟩
  · intro h
    rw [settled?_eq_plain? (fun ms hms => (h ms hms).1) fun ms hms => (h ms hms).2]
  · intro heq
    constructor
    · rintro ⟨ds, hds⟩
      exact settles_of_settled? (orJson_eq_ok_iff.1 (heq ▸ orJson_eq_ok_iff.2 hds))
    · rintro ⟨ds, hds⟩
      exact not_repeatsField_of_plain? (orJson_eq_ok_iff.1 (heq ▸ orJson_eq_ok_iff.2 hds))
  · rintro ⟨hsettles, hfields⟩
    cases hplain : plain? a objects with
    | some ds =>
      rw [settled?_eq_plain? (hsettles ⟨ds, hplain⟩) (not_repeatsField_of_plain? hplain), hplain]
    | none =>
      cases hsettled : settled? a objects with
      | none => rfl
      | some ds =>
        have heq := settled?_eq_plain? (a := a) (settles_of_settled? hsettled)
          (hfields ⟨ds, hsettled⟩)
        exact absurd (hsettled.symm.trans (heq.trans hplain)) (by simp)
  · intro ds es hds hes
    have heq := settled?_eq_plain? (a := a) (settles_of_settled? hes)
      (not_repeatsField_of_plain? hds)
    exact Option.some.inj (hds.symm.trans (heq.symm.trans hes))

/-- A file of lines and a file with an array. -/
def inBothFormats (rows : List (List Char)) (gap : List Char) (texts : List (List Char)) :
    FileTree :=
  (FileTree.put {} ["a.json"] (.file (encode (arrayText gap texts)))).put ["a.jsonl"]
    (.file (encode (['\n'].intercalate rows)))

lemma leadsToFile_lines (rows : List (List Char)) (gap : List Char) (texts : List (List Char)) :
    LeadsToFile (inBothFormats rows gap texts) ⟨false, ["a.jsonl"], false⟩ "jsonl"
      (encode (['\n'].intercalate rows)) := by
  refine ⟨["a.jsonl"], "a.jsonl", rfl, ?_, rfl, by decide +kernel⟩
  rw [inBothFormats, FileTree.entry?_put (by decide), if_pos rfl]

lemma leadsToFile_array (rows : List (List Char)) (gap : List Char) (texts : List (List Char)) :
    LeadsToFile (inBothFormats rows gap texts) ⟨false, ["a.json"], false⟩ "json"
      (encode (arrayText gap texts)) := by
  refine ⟨["a.json"], "a.json", rfl, ?_, rfl, by decide +kernel⟩
  rw [inBothFormats, FileTree.entry?_put (by decide), if_neg (by decide),
    FileTree.entry?_put (by decide), if_pos rfl]

/-- An object that is a document. -/
def firstObject : List Char := "\x7b\"id\":1,\"title\":\"\",\"body\":\"\"\x7d".toList

/-- Another object that is a document. -/
def secondObject : List Char := "\x7b\"id\":2,\"title\":\"\",\"body\":\"\"\x7d".toList

/-- Two objects that are documents. -/
def twoObjects : List (List Char) := [firstObject, secondObject]

lemma writesObject_firstObject :
    ∃ ms, WritesObject firstObject ms ∧ Settles ms ∧ ¬RepeatsField ms := by
  decide +kernel

lemma writesObject_secondObject :
    ∃ ms, WritesObject secondObject ms ∧ Settles ms ∧ ¬RepeatsField ms := by
  decide +kernel

theorem two_objects_agree :
    Spread (twoObjects ++ [[]]) twoObjects ∧ (∀ row ∈ twoObjects ++ [[]], '\n' ∉ row) ∧
      (∀ c ∈ ['\n', ' '], Json.isBlank c = true) ∧
      ∃ objects, List.Forall₂ WritesObject twoObjects objects ∧
        (∀ ms ∈ objects, Settles ms ∧ ¬RepeatsField ms) ∧
        documents (inBothFormats (twoObjects ++ [[]]) ['\n', ' '] twoObjects) {}
          (some ⟨false, ["a.jsonl"], false⟩) =
        documents (inBothFormats (twoObjects ++ [[]]) ['\n', ' '] twoObjects) {}
          (some ⟨false, ["a.json"], false⟩) := by
  have hspread : Spread (twoObjects ++ [[]]) twoObjects := .text _ (.text _ (.blank rfl .nil))
  have hrows : ∀ row ∈ twoObjects ++ [[]], '\n' ∉ row := by decide +kernel
  have hgap : ∀ c ∈ ['\n', ' '], Json.isBlank c = true := by simp [Json.isBlank]
  obtain ⟨first, hfirst, hfirstFine⟩ := writesObject_firstObject
  obtain ⟨second, hsecond, hsecondFine⟩ := writesObject_secondObject
  have hobjects : List.Forall₂ WritesObject twoObjects [first, second] :=
    .cons hfirst (.cons hsecond .nil)
  have hfine : ∀ ms ∈ [first, second], Settles ms ∧ ¬RepeatsField ms :=
    List.forall_mem_cons.2 ⟨hfirstFine, List.forall_mem_singleton.2 hsecondFine⟩
  exact ⟨hspread, hrows, hgap, _, hobjects, hfine,
    (documents_agree_iff hspread hrows hgap hobjects (leadsToFile_lines _ _ _)
      (leadsToFile_array _ _ _)).1 hfine⟩

/-- An object that repeats a field. -/
def repeatedId : List Char :=
  "\x7b\"id\":1,\"id\":2,\"title\":\"\",\"body\":\"\"\x7d".toList

/-- An object with a number that is too large for an array. -/
def largeNumber : List Char :=
  "\x7b\"id\":1,\"title\":\"\",\"body\":\"\",\"x\":1e400\x7d".toList

theorem repeated_id_only_in_array :
    (∃ ms, WritesObject repeatedId ms ∧ RepeatsField ms) ∧ '\n' ∉ repeatedId ∧
    documents (inBothFormats [repeatedId] [] [repeatedId]) {}
      (some ⟨false, ["a.jsonl"], false⟩) = .error .json ∧
    documents (inBothFormats [repeatedId] [] [repeatedId]) {}
      (some ⟨false, ["a.json"], false⟩) = .ok [⟨2, "", []⟩] ∧
    (∃ ms, WritesObject largeNumber ms ∧ ¬Settles ms) ∧ '\n' ∉ largeNumber ∧
    documents (inBothFormats [largeNumber] [] [largeNumber]) {}
      (some ⟨false, ["a.jsonl"], false⟩) = .ok [⟨1, "", []⟩] ∧
    documents (inBothFormats [largeNumber] [] [largeNumber]) {}
      (some ⟨false, ["a.json"], false⟩) = .error .json := by
  decide +kernel

end Ingest

end DocSearch
