import RegionGateway.Gateway.Token
import RegionGateway.Proofs.Files.Overlays
import RegionGateway.Proofs.Text.CleanLines
import RegionGateway.Proofs.Text.Decoding

/-!
# Token files

The first line of a token file ends before the first line feed, whatever stands behind it (`IsFirstLine`).
If its bytes are those of a text with more than white space, the token is that text without the white space
around it (`IsToken`); in every other case there is none (`first_line_decides`).
-/

namespace RegionGateway

/-! ## Text without white space around it -/

namespace Text

/-- A text is another one without the white space around it. -/
structure Trims (source text : String) : Prop where
  /-- What stands around it is white space. -/
  around : ∃ front back, source.toList = front ++ text.toList ++ back ∧ (∀ c ∈ front, isBlank c = true) ∧
    ∀ c ∈ back, isBlank c = true
  /-- It neither begins -/
  first : ∀ c ∈ text.toList.head?, isBlank c = false
  /-- nor ends with white space. -/
  last : ∀ c ∈ text.toList.getLast?, isBlank c = false

theorem head?_trimChars {cs : List Char} {c : Char} (h : (trimChars cs).head? = some c) :
    isBlank c = false := by
  obtain ⟨dropped, hdropped, -⟩ := exists_dropEndWhile isBlank (cs.dropWhile isBlank)
  have hhead : (cs.dropWhile isBlank).head? = some c := by
    rw [hdropped, List.head?_append]
    exact Option.or_eq_some_iff.mpr (.inl h)
  have hfirst := List.head?_dropWhile_not isBlank cs
  rw [hhead] at hfirst
  simpa using hfirst

theorem trims_trim (s : String) : Trims s (trim s) where
  around := by
    rw [trim, String.toList_ofList]
    exact exists_trimChars s.toList
  first c hc := by
    rw [trim, String.toList_ofList] at hc
    exact head?_trimChars hc
  last c hc := by
    rw [trim, String.toList_ofList] at hc
    exact not_of_getLast?_dropEndWhile hc

section

variable {source text : String} (h : Trims source text)
include h

/-- What is said of a trimmed text leaves no choice. -/
theorem Trims.eq_trim : text = trim source := by
  obtain ⟨front, back, hsource, hfront, hback⟩ := h.around
  rw [← String.toList_inj, trim, String.toList_ofList, trimChars, hsource, List.append_assoc,
    List.dropWhile_append_of_pos hfront]
  cases hchars : text.toList with
  | nil =>
      have hnone : back.dropWhile isBlank = [] := List.dropWhile_eq_nil_iff.mpr hback
      rw [List.nil_append, hnone]
      rfl
  | cons c cs =>
      -- the front goes as a whole, and nothing of the text goes with it
      have hsolid : ¬ isBlank c = true := by simp [h.first c (by simp [hchars])]
      have hlast := dropEndWhile_of_getLast? h.last
      rw [List.cons_append, List.dropWhile_cons_of_neg hsolid, ← List.cons_append, trimEnd,
        dropEndWhile_append hback, ← hchars, hlast]

theorem Trims.subset : text.toList ⊆ source.toList := by
  obtain ⟨front, back, hsource, -, -⟩ := h.around
  rw [hsource, List.append_assoc]
  exact fun _ hc => List.mem_append_right _ (List.mem_append_left _ hc)

theorem Trims.eq_empty_iff : text = "" ↔ ∀ c ∈ source.toList, isBlank c = true := by
  constructor
  · rintro rfl
    obtain ⟨front, back, hsource, hfront, hback⟩ := h.around
    rw [hsource, String.toList_empty, List.append_nil]
    exact List.forall_mem_append.mpr ⟨hfront, hback⟩
  · intro hblank
    cases hchars : text.toList with
    | nil => exact String.toList_inj.mp (hchars.trans String.toList_empty.symm)
    | cons c cs =>
        have hsolid := h.first c (by simp [hchars])
        rw [hblank c (h.subset (hchars ▸ List.mem_cons_self))] at hsolid
        cases hsolid

end

end Text

namespace Token

/-! ## First lines -/

/-- A line is the first one of a content: it ends before the first line feed, or with the content. -/
def IsFirstLine (line content : Bytes) : Prop :=
  0x0A ∉ line ∧ (content = line ∨ ∃ rest, content = line ++ 0x0A :: rest)

theorem isFirstLine_firstLine (content : Bytes) : IsFirstLine (firstLine content) content := by
  refine ⟨fun hmem => by simpa using List.mem_takeWhile_imp hmem, ?_⟩
  have hsplit := List.takeWhile_append_dropWhile (p := (· != 0x0A)) (l := content)
  cases hrest : content.dropWhile (· != 0x0A) with
  | nil =>
      rw [hrest, List.append_nil] at hsplit
      exact .inl hsplit.symm
  | cons b rest =>
      have hne : content.dropWhile (· != 0x0A) ≠ [] := by simp [hrest]
      have hb : b = 0x0A := by simpa [hrest] using List.head_dropWhile_not _ hne
      rw [hrest, hb] at hsplit
      exact .inr ⟨rest, hsplit.symm⟩

/-- A content has one first line. -/
theorem IsFirstLine.eq_firstLine {line content : Bytes} (h : IsFirstLine line content) :
    line = firstLine content := by
  obtain ⟨hline, hcontent⟩ := h
  have hother : ∀ b ∈ line, (b != 0x0A) = true := fun b hb => bne_iff_ne.mpr fun hsame => hline (hsame ▸ hb)
  obtain rfl | ⟨rest, rfl⟩ := hcontent
  · exact (List.takeWhile_eq_self_iff.mpr hother).symm
  · rw [firstLine, List.takeWhile_append_of_pos hother, List.takeWhile_cons_of_neg (by decide), List.append_nil]

/-! ## Tokens -/

/-- A token stands on a line: the line is the stored form of a text that is not blank, and the token is that
text without the white space around it. -/
def IsToken (line : Bytes) (token : String) : Prop :=
  ∃ text : String, text.toByteArray = line.toByteArray ∧ (∃ c ∈ text.toList, Text.isBlank c = false) ∧
    Text.Trims text token

theorem parse_eq_ok_iff {content : Bytes} {token : String} :
    parse content = .ok token ↔ IsToken (firstLine content) token := by
  have hempty : ∀ text, Text.trim text = "" ↔ ∀ c ∈ text.toList, Text.isBlank c = true := fun text =>
    (Text.trims_trim text).eq_empty_iff
  unfold parse
  constructor
  · intro h
    split at h
    · cases h
    · next text htext =>
        split at h
        · cases h
        · next hsolid =>
            cases h
            rw [hempty] at hsolid
            push Not at hsolid
            exact ⟨text, Utf8.text?_eq_some_iff.mp htext, by simpa using hsolid, Text.trims_trim text⟩
  · rintro ⟨text, hstored, ⟨c, hc, hsolid⟩, htrims⟩
    have hne : Text.trim text ≠ "" := fun hblank => by
      rw [(hempty text).mp hblank c hc] at hsolid
      cases hsolid
    rw [Utf8.text?_eq_some_iff.mpr hstored, htrims.eq_trim]
    exact if_neg hne

/-- Every refusal is told as a failure of the transport. -/
theorem transport_of_parse {content : Bytes} {error : ClientError} (h : parse content = .error error) :
    ∃ reason, error = .transport reason := by
  unfold parse at h
  split at h
  · cases h
    exact ⟨_, rfl⟩
  · split at h
    · cases h
      exact ⟨_, rfl⟩
    · cases h

theorem IsToken.ne_empty {line : Bytes} {token : String} (h : IsToken line token) : token ≠ "" := by
  obtain ⟨text, -, ⟨c, hc, hsolid⟩, htrims⟩ := h
  rintro rfl
  rw [htrims.eq_empty_iff.mp rfl c hc] at hsolid
  cases hsolid

/-- A token has no line feed, since its line has none. -/
theorem IsToken.newline_not_mem {line : Bytes} {token : String} (h : IsToken line token) (hline : 0x0A ∉ line) :
    '\n' ∉ token.toList := by
  obtain ⟨text, hstored, -, htrims⟩ := h
  rw [← Utf8.toByteArray_bytes, List.toByteArray_inj] at hstored
  intro hmem
  refine hline (hstored ▸ ?_)
  exact List.mem_flatMap.mpr ⟨'\n', htrims.subset hmem, by decide⟩

/-! ## Token files -/

/-- What is read from a file is the token in its content. The files stay as they are. -/
theorem ofFile_eq (tree : FileTree) (path : String) : ofFile FileTree.disk path tree =
    (match tree.read path with
      | .ok content => parse content
      | .error error => .error (.transport ("Failed to read token file: " ++ error.message)), tree) := by
  have hread := Attempt.adapt_eq
    (fun e : IoError => ClientError.transport ("Failed to read token file: " ++ e.message))
    (FileTree.disk_read path tree)
  cases hcontent : tree.read path with
  | error error =>
      rw [hcontent] at hread
      exact Attempt.bind_error _ hread
  | ok content =>
      rw [hcontent] at hread
      refine (Attempt.bind_ok _ hread).trans ?_
      dsimp only
      cases parse content <;> rfl

section

variable {tree : FileTree} {path : String}

theorem ofFile_eq_ok_iff {token : String} : (ofFile FileTree.disk path tree).1 = .ok token ↔
    ∃ content line, tree.read path = .ok content ∧ IsFirstLine line content ∧ IsToken line token := by
  constructor
  · intro h
    cases hread : tree.read path with
    | error error =>
        rw [ofFile_eq, hread] at h
        cases h
    | ok content =>
        rw [ofFile_eq, hread] at h
        exact ⟨content, firstLine content, rfl, isFirstLine_firstLine content, parse_eq_ok_iff.mp h⟩
  · rintro ⟨content, line, hread, hline, htoken⟩
    rw [ofFile_eq, hread]
    exact parse_eq_ok_iff.mpr (hline.eq_firstLine ▸ htoken)

theorem transport_of_ofFile {error : ClientError} (h : (ofFile FileTree.disk path tree).1 = .error error) :
    ∃ reason, error = .transport reason := by
  cases hread : tree.read path with
  | error unreadable =>
      rw [ofFile_eq, hread] at h
      cases h
      exact ⟨_, rfl⟩
  | ok content =>
      rw [ofFile_eq, hread] at h
      exact transport_of_parse h

end

/-- What stands behind the first line makes no difference. -/
theorem parse_eq_of_firstLine {content other : Bytes} (h : firstLine content = firstLine other) :
    parse content = parse other := by
  rw [parse, parse, h]

/-- **The first line of a token file decides.** A token is read exactly if the first line of the file is the
stored form of a text that is not blank. It is that text without the white space around it, so that it is not
empty and has no line feed. In every other case the failure is one of the transport. Files with the same first
line give the same, whatever bytes stand behind it. -/
theorem first_line_decides (tree : FileTree) (path : String) :
    (∀ token, (ofFile FileTree.disk path tree).1 = .ok token ↔
      ∃ content line, tree.read path = .ok content ∧ IsFirstLine line content ∧ IsToken line token) ∧
    (∀ token, (ofFile FileTree.disk path tree).1 = .ok token → token ≠ "" ∧ '\n' ∉ token.toList) ∧
    (∀ error, (ofFile FileTree.disk path tree).1 = .error error → ∃ reason, error = .transport reason) ∧
    ∀ (other : FileTree) (place : String) (content content' line : Bytes), tree.read path = .ok content →
      other.read place = .ok content' → IsFirstLine line content → IsFirstLine line content' →
        (ofFile FileTree.disk place other).1 = (ofFile FileTree.disk path tree).1 := by
  refine ⟨fun token => ofFile_eq_ok_iff, fun token htoken => ?_, fun error => transport_of_ofFile, ?_⟩
  · obtain ⟨content, line, -, hline, htoken⟩ := ofFile_eq_ok_iff.mp htoken
    exact ⟨htoken.ne_empty, htoken.newline_not_mem hline.1⟩
  · intro other place content content' line hread hread' hline hline'
    rw [ofFile_eq, ofFile_eq, hread, hread']
    exact parse_eq_of_firstLine (hline'.eq_firstLine.symm.trans hline.eq_firstLine)

/-- A token with white space of several kinds around it. -/
def padded : String := "\u3000\tk\u00E9y 1\u00A0\r"

def paddedLine : Bytes := Utf8.bytes padded

/-- Two files with that line; bytes that are no text stand behind one of them. -/
def paddedFiles : FileTree :=
  ⟨[(["key"], .file (paddedLine ++ 0x0A :: [0xFF, 0xC0])), (["copy"], .file paddedLine)], []⟩

theorem first_line_decides_padded :
    paddedFiles.read "key" = .ok (paddedLine ++ 0x0A :: [0xFF, 0xC0]) ∧ paddedFiles.read "copy" = .ok paddedLine ∧
      (ofFile FileTree.disk "key" paddedFiles).1 = .ok "k\u00E9y 1" ∧
      (ofFile FileTree.disk "copy" paddedFiles).1 = .ok "k\u00E9y 1" := by
  have hkey : paddedFiles.read "key" = .ok (paddedLine ++ 0x0A :: [0xFF, 0xC0]) := by decide +kernel
  have hcopy : paddedFiles.read "copy" = .ok paddedLine := by decide +kernel
  have hnewline : 0x0A ∉ paddedLine := by decide +kernel
  have hfirst : IsFirstLine paddedLine (paddedLine ++ 0x0A :: [0xFF, 0xC0]) := ⟨hnewline, .inr ⟨_, rfl⟩⟩
  have htoken : IsToken paddedLine "k\u00E9y 1" := by
    have htrim : Text.trim padded = "k\u00E9y 1" := by decide +kernel
    exact ⟨padded, (Utf8.toByteArray_bytes padded).symm, ⟨'k', by decide +kernel, by decide⟩,
      htrim ▸ Text.trims_trim padded⟩
  obtain ⟨hok, -, -, hsame⟩ := first_line_decides paddedFiles "key"
  have hread := (hok "k\u00E9y 1").mpr ⟨_, _, hkey, hfirst, htoken⟩
  exact ⟨hkey, hcopy, hread, (hsame paddedFiles "copy" _ _ _ hkey hcopy hfirst ⟨hnewline, .inl rfl⟩).trans hread⟩

end Token

end RegionGateway
