import Mathlib.Data.Bool.AllAny
import Mozart.Lib.Lines

/-!
# The list of proprietary blobs

`extract-proprietary-blobs.sh` reads `proprietary-files/*.txt` line by line: a `#` starts a comment,
the space around a line does not count, and what is left of a line that is not empty is a path
below `/system`, with a checksum behind `;sha1=` if there is one.

* **`parseList_text`**: a list written in this format, with any indentation, any comments and any
  empty lines, and with or without a newline at its end, is read as the entries it was written from.
-/

namespace Mozart.Scripts

open Lines

/-- A line of the list: the path, and the checksum to expect, empty if there is none. -/
structure BlobEntry where
  rel : List Char
  expectedSha1 : List Char
  deriving DecidableEq, Repr

/-! ## Reading -/

/-- `[[:space:]]` of the POSIX locale -/
def isSpace (c : Char) : Bool := c ∈ [' ', '\t', '\n', '\x0b', '\x0c', '\r']

/-- `[0-9a-fA-F]` -/
def isHexDigit (c : Char) : Bool := c.isDigit || 'a' ≤ c && c ≤ 'f' || 'A' ≤ c && c ≤ 'F'

/-- `trim` -/
def trim (value : List Char) : List Char := (value.dropWhile isSpace).rdropWhile isSpace

/-- The match of `sha1=([0-9a-fA-F]+)`, in lower case, empty if there is none. -/
def matchSha1 : List Char → List Char
  | [] => []
  | c :: cs =>
    let digits := (((c :: cs).drop 5).takeWhile isHexDigit)
    if (c :: cs).take 5 = ['s', 'h', 'a', '1', '='] ∧ digits ≠ [] then digits.map Char.toLower
    else matchSha1 cs

/-- The body of the `while` loop, as far as it is about the text: nothing for a line that is
skipped. -/
def parseLine (rawLine : List Char) : Option BlobEntry :=
  let line := trim (rawLine.takeWhile (· ≠ '#'))
  if line = [] then none
  else some ⟨line.takeWhile (· ≠ ';'), matchSha1 (line.dropWhile (· ≠ ';'))⟩

/-- All entries of the list: `read` ends a line at a newline, and the loop is entered once more for
a last line without one. -/
def parseList (text : List Char) : List BlobEntry := (readLines text).filterMap parseLine

/-! ## The format -/

/-- A line of a list, as somebody may write it. -/
structure ListLine where
  indent : List Char
  entry : Option BlobEntry
  trail : List Char
  /-- what stands behind the `#`, if there is one -/
  comment : Option (List Char)

/-- The path, and the checksum behind `;sha1=` if there is one. -/
def BlobEntry.text (e : BlobEntry) : List Char :=
  e.rel ++ if e.expectedSha1 = [] then [] else [';', 's', 'h', 'a', '1', '='] ++ e.expectedSha1

def ListLine.text (l : ListLine) : List Char :=
  l.indent ++ (l.entry.elim [] BlobEntry.text ++ (l.trail ++ l.comment.elim [] ('#' :: ·)))

/-- A path that does not begin or end with space and does not hold a character the format uses,
and a checksum of lower-case digits. -/
structure BlobEntry.Wf (e : BlobEntry) : Prop where
  nonempty : e.rel ≠ []
  plain : ∀ c ∈ e.rel, c ≠ '#' ∧ c ≠ ';' ∧ c ≠ '\n'
  head : ∀ h : e.rel ≠ [], isSpace (e.rel.head h) = false
  last : ∀ h : e.rel ≠ [], isSpace (e.rel.getLast h) = false
  digits : ∀ c ∈ e.expectedSha1, isHexDigit c = true ∧ c.toLower = c

/-- Space around the entry, and a comment of one line. -/
structure ListLine.Wf (l : ListLine) : Prop where
  indent : ∀ c ∈ l.indent, isSpace c = true ∧ c ≠ '\n'
  trail : ∀ c ∈ l.trail, isSpace c = true ∧ c ≠ '\n'
  comment : ∀ text, l.comment = some text → '\n' ∉ text
  entry : ∀ e, l.entry = some e → e.Wf

/-! ## Space and digits -/

theorem isSpace_ne_hash {c : Char} (h : isSpace c = true) : c ≠ '#' := by
  rintro rfl
  exact absurd h (by decide)

theorem isHexDigit_not_space {c : Char} (h : isHexDigit c = true) : isSpace c = false := by
  cases hs : isSpace c with
  | false => rfl
  | true =>
    unfold isSpace at hs
    simp only [List.mem_cons, List.not_mem_nil, or_false, decide_eq_true_eq] at hs
    rcases hs with rfl | rfl | rfl | rfl | rfl | rfl <;> exact absurd h (by decide)

theorem isHexDigit_ne {c d : Char} (h : isHexDigit c = true) (hd : isHexDigit d = false) :
    c ≠ d := by
  rintro rfl
  rw [h] at hd
  cases hd

/-- **`trim` takes the space around a text and no more.** -/
theorem trim_padded {indent text trail : List Char} (hindent : ∀ c ∈ indent, isSpace c = true)
    (htrail : ∀ c ∈ trail, isSpace c = true)
    (hhead : ∀ h : text ≠ [], isSpace (text.head h) = false)
    (hlast : ∀ h : text ≠ [], isSpace (text.getLast h) = false) :
    trim (indent ++ (text ++ trail)) = text := by
  unfold trim
  rw [List.dropWhile_append_of_pos hindent]
  cases htext : text with
  | nil =>
    -- only space is left, and all of it goes
    have hall : trail.dropWhile isSpace = [] := List.dropWhile_eq_nil_iff.mpr htrail
    rw [List.nil_append, hall, List.rdropWhile_nil]
  | cons c cs =>
    have hc : ¬ isSpace c = true := by
      have := hhead (by rw [htext]; exact List.cons_ne_nil c cs)
      simp only [htext, List.head_cons] at this
      rw [this]
      exact Bool.false_ne_true
    rw [List.cons_append, List.dropWhile_cons_of_neg hc, ← List.cons_append,
      rdropWhile_append_of_pos htrail, List.rdropWhile_eq_self_iff]
    intro hne
    have := hlast (by rw [htext]; exact hne)
    simp only [htext] at this
    rw [this]
    exact Bool.false_ne_true

theorem takeWhile_append_stop {p : Char → Bool} {l r : List Char} {c : Char}
    (h : ∀ d ∈ l, p d = true) (hc : p c = false) : (l ++ c :: r).takeWhile p = l := by
  rw [List.takeWhile_append_of_pos h,
    List.takeWhile_cons_of_neg (by rw [hc]; exact Bool.false_ne_true),
    List.append_nil]

theorem dropWhile_append_stop {p : Char → Bool} {l r : List Char} {c : Char}
    (h : ∀ d ∈ l, p d = true) (hc : p c = false) : (l ++ c :: r).dropWhile p = c :: r := by
  rw [List.dropWhile_append_of_pos h,
    List.dropWhile_cons_of_neg (by rw [hc]; exact Bool.false_ne_true)]

/-! ## An entry -/

/-- The checksum behind `;sha1=` is found and kept as it is. -/
theorem matchSha1_digits {digits : List Char} (hne : digits ≠ [])
    (h : ∀ c ∈ digits, isHexDigit c = true ∧ c.toLower = c) :
    matchSha1 ([';', 's', 'h', 'a', '1', '='] ++ digits) = digits := by
  have hrun : digits.takeWhile isHexDigit = digits :=
    List.takeWhile_eq_self_iff.mpr fun c hc => (h c hc).1
  have hlower : digits.map Char.toLower = digits := by
    calc digits.map Char.toLower = digits.map id := List.map_congr_left fun c hc => (h c hc).2
      _ = digits := List.map_id digits
  -- the match does not begin at the `;`
  show matchSha1 (';' :: 's' :: 'h' :: 'a' :: '1' :: '=' :: digits) = digits
  unfold matchSha1
  rw [if_neg (by simp)]
  unfold matchSha1
  simp only [List.take_succ_cons, List.take_zero, List.drop_succ_cons, List.drop_zero, hrun]
  rw [if_pos ⟨trivial, hne⟩, hlower]

namespace BlobEntry

variable {e : BlobEntry}

theorem Wf.text_ne_nil (h : e.Wf) : e.text ≠ [] := by
  unfold text
  intro hnil
  exact h.nonempty (List.append_eq_nil_iff.mp hnil).1

/-- No character of an entry ends its line or begins a comment. -/
theorem Wf.text_plain (h : e.Wf) : ∀ c ∈ e.text, c ≠ '#' ∧ c ≠ '\n' := by
  intro c hc
  unfold text at hc
  rcases List.mem_append.mp hc with hc | hc
  · obtain ⟨hhash, _, hline⟩ := h.plain c hc
    exact ⟨hhash, hline⟩
  · split at hc
    · exact absurd hc List.not_mem_nil
    · rcases List.mem_append.mp hc with hc | hc
      · simp only [List.mem_cons, List.not_mem_nil, or_false] at hc
        rcases hc with rfl | rfl | rfl | rfl | rfl | rfl <;> exact ⟨by decide, by decide⟩
      · have hdigit := (h.digits c hc).1
        exact ⟨isHexDigit_ne hdigit (by decide), isHexDigit_ne hdigit (by decide)⟩

theorem Wf.text_head (h : e.Wf) (hne : e.text ≠ []) : isSpace (e.text.head hne) = false := by
  have heq : e.text.head hne = e.rel.head h.nonempty := by
    unfold text
    exact List.head_append_of_ne_nil h.nonempty
  rw [heq]
  exact h.head h.nonempty

theorem Wf.text_last (h : e.Wf) (hne : e.text ≠ []) : isSpace (e.text.getLast hne) = false := by
  by_cases hsha : e.expectedSha1 = []
  · have heq : e.text = e.rel := by
      unfold text
      rw [if_pos hsha, List.append_nil]
    simp only [heq]
    exact h.last h.nonempty
  · have heq : e.text.getLast hne = e.expectedSha1.getLast hsha := by
      simp only [text, if_neg hsha]
      rw [List.getLast_append_of_ne_nil _ (by simp), List.getLast_append_of_ne_nil _ hsha]
    rw [heq]
    exact isHexDigit_not_space (h.digits _ (List.getLast_mem hsha)).1

/-- The text of an entry is taken apart into its path and its checksum. -/
theorem Wf.split_text (h : e.Wf) :
    e.text.takeWhile (· ≠ ';') = e.rel ∧
      matchSha1 (e.text.dropWhile (· ≠ ';')) = e.expectedSha1 := by
  have hrel : ∀ c ∈ e.rel, decide (c ≠ ';') = true := fun c hc => decide_eq_true (h.plain c hc).2.1
  by_cases hsha : e.expectedSha1 = []
  · have heq : e.text = e.rel := by
      unfold text
      rw [if_pos hsha, List.append_nil]
    rw [heq, List.takeWhile_eq_self_iff.mpr hrel, List.dropWhile_eq_nil_iff.mpr hrel, hsha]
    exact ⟨rfl, rfl⟩
  · have heq : e.text = e.rel ++ ';' :: (['s', 'h', 'a', '1', '='] ++ e.expectedSha1) := by
      unfold text
      rw [if_neg hsha]
      rfl
    rw [heq, takeWhile_append_stop hrel (by decide), dropWhile_append_stop hrel (by decide)]
    exact ⟨rfl, matchSha1_digits hsha h.digits⟩

end BlobEntry

/-! ## A line, and the whole list -/

/-- **A line is read as the entry it holds**, if it holds one. -/
theorem parseLine_text {l : ListLine} (h : l.Wf) : parseLine l.text = l.entry := by
  -- what stands in front of the comment
  have hfront : l.text.takeWhile (· ≠ '#')
      = l.indent ++ (l.entry.elim [] BlobEntry.text ++ l.trail) := by
    have hplain : ∀ c ∈ l.indent ++ (l.entry.elim [] BlobEntry.text ++ l.trail),
        decide (c ≠ '#') = true := by
      intro c hc
      apply decide_eq_true
      rcases List.mem_append.mp hc with hc | hc
      · exact isSpace_ne_hash (h.indent c hc).1
      · rcases List.mem_append.mp hc with hc | hc
        · cases he : l.entry with
          | none =>
            rw [he] at hc
            exact absurd hc List.not_mem_nil
          | some e =>
            rw [he] at hc
            exact ((h.entry e he).text_plain c hc).1
        · exact isSpace_ne_hash (h.trail c hc).1
    have htext : l.text = (l.indent ++ (l.entry.elim [] BlobEntry.text ++ l.trail))
        ++ l.comment.elim [] ('#' :: ·) := by
      unfold ListLine.text
      simp only [List.append_assoc]
    rw [htext]
    cases l.comment with
    | none =>
      rw [Option.elim_none, List.append_nil]
      exact List.takeWhile_eq_self_iff.mpr hplain
    | some text => exact takeWhile_append_stop hplain (by decide)
  have hindent := fun c hc => (h.indent c hc).1
  have htrail := fun c hc => (h.trail c hc).1
  unfold parseLine
  rw [hfront]
  cases he : l.entry with
  | none =>
    rw [Option.elim_none, trim_padded hindent htrail (fun hne => absurd rfl hne)
      (fun hne => absurd rfl hne)]
    rfl
  | some e =>
    have hwf := h.entry e he
    rw [Option.elim_some, trim_padded hindent htrail hwf.text_head hwf.text_last]
    simp only [if_neg hwf.text_ne_nil, hwf.split_text]

theorem ListLine.Wf.newline_notMem {l : ListLine} (h : l.Wf) : '\n' ∉ l.text := by
  intro hmem
  unfold ListLine.text at hmem
  rcases List.mem_append.mp hmem with hmem | hmem
  · exact (h.indent _ hmem).2 rfl
  rcases List.mem_append.mp hmem with hmem | hmem
  · cases he : l.entry with
    | none =>
      rw [he] at hmem
      exact absurd hmem List.not_mem_nil
    | some e =>
      rw [he] at hmem
      exact ((h.entry e he).text_plain _ hmem).2 rfl
  rcases List.mem_append.mp hmem with hmem | hmem
  · exact (h.trail _ hmem).2 rfl
  · cases hc : l.comment with
    | none =>
      rw [hc] at hmem
      exact absurd hmem List.not_mem_nil
    | some text =>
      rw [hc, Option.elim_some] at hmem
      rcases List.mem_cons.mp hmem with heq | hmem
      · exact absurd heq (by decide)
      · exact h.comment text hc hmem

/-- **Reading a list back.** Lines that hold an entry or none, indented and commented as one
likes, each ended by a newline but perhaps the last, are read as their entries in order. -/
theorem parseList_text {lines : List ListLine} {last : ListLine} (h : ∀ l ∈ lines, l.Wf)
    (hlast : last.Wf) :
    parseList (lines.flatMap (fun l => l.text ++ ['\n']) ++ last.text)
      = (lines ++ [last]).filterMap ListLine.entry := by
  have hlines : ∀ text ∈ lines.map ListLine.text, '\n' ∉ text := by
    intro text htext
    obtain ⟨l, hl, rfl⟩ := List.mem_map.mp htext
    exact (h l hl).newline_notMem
  have htext : lines.flatMap (fun l => l.text ++ ['\n']) = unlines (lines.map ListLine.text) := by
    rw [unlines, List.flatMap_map]
  have hread : (lines.map ListLine.text).filterMap parseLine
      = lines.filterMap ListLine.entry := by
    rw [List.filterMap_map]
    exact List.filterMap_congr fun l hl => parseLine_text (h l hl)
  rw [parseList, htext, readLines_unlines hlines hlast.newline_notMem, List.filterMap_append,
    hread, List.filterMap_append]
  congr 1
  have hparse := parseLine_text hlast
  split
  · next hnil =>
    -- the loop is not entered for an empty last line
    rw [hnil] at hparse
    have hnone : last.entry = none := hparse.symm
    rw [List.filterMap_cons_none hnone, List.filterMap_nil, List.filterMap_nil]
  · rw [List.filterMap_cons, hparse, List.filterMap_cons]
    rfl

theorem parseList_text_commented :
    parseList ([⟨[], none, [], some " blobs".toList⟩,
        ⟨[' '], some ⟨"lib/a.so".toList, "49ab".toList⟩, ['\t'], some "#".toList⟩].flatMap
          (fun l : ListLine => l.text ++ ['\n'])
        ++ (⟨[], none, [' '], none⟩ : ListLine).text)
      = [⟨"lib/a.so".toList, "49ab".toList⟩] := by
  have hentry : (⟨"lib/a.so".toList, "49ab".toList⟩ : BlobEntry).Wf :=
    ⟨by decide, List.all_iff_forall_prop.mp (by decide), fun _ => rfl, fun _ => rfl,
      List.all_iff_forall_prop.mp (by decide)⟩
  refine parseList_text ?_ ⟨List.forall_mem_nil _, List.all_iff_forall_prop.mp (by decide),
    fun _ h => (by cases h), fun _ h => (by cases h)⟩
  intro l hl
  rcases List.mem_pair.mp hl with rfl | rfl
  · refine ⟨List.forall_mem_nil _, List.forall_mem_nil _, ?_, fun _ h => (by cases h)⟩
    intro text htext
    cases htext
    decide
  · refine ⟨List.all_iff_forall_prop.mp (by decide), List.all_iff_forall_prop.mp (by decide),
      ?_, ?_⟩
    · intro text htext
      cases htext
      decide
    · intro e he
      cases he
      exact hentry

end Mozart.Scripts
