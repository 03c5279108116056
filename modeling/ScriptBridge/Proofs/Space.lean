import ScriptBridge.Files.Path
import ScriptBridge.Proofs.Text.Cut
import ScriptBridge.Proofs.Text.Percent
import ScriptBridge.Space

/-!
# Paths of data spaces

A path without backslashes is the path of its URI, whatever else is in it, unless it starts with a
drive (`Space.path?_ofPath`). A `file:` URI names no path exactly if its encoding is malformed
(`Space.malformed_refused`), but a plus sign behind a percent sign passes for a digit
(`Space.signed_accepted`). Both follow from one equation for the path of a `file:` URI
(`path?_file`): its local part read, without the slash before a drive.
-/

namespace ScriptBridge

namespace Space

open Percent (Denotes Grouped ReadsBy firstDigits hexDigits)

variable {path : String} {cs rest : List Char}

theorem forwardSlashes_of_not_mem (h : '\\' ∉ cs) : forwardSlashes cs = cs := by
  refine (List.map_congr_left fun c hc => ?_).trans (List.map_id _)
  have hne : c ≠ '\\' := fun heq => h (heq ▸ hc)
  exact if_neg hne

theorem scriptPath_of_not_mem (h : '\\' ∉ path.toList) : scriptPath path = path := by
  have hmarker : Text.stripStart? "\\\\?\\".toList path.toList = none := by
    cases hpath : path.toList with
    | nil => rfl
    | cons c cs =>
      rw [hpath, List.mem_cons, not_or] at h
      exact if_neg h.1
  rw [scriptPath, Text.dropStart, hmarker, Option.getD_none, forwardSlashes_of_not_mem h,
    String.ofList_toList]

/-! ### Paths of file URIs -/

/-- What follows the scheme of a file URI, without the mark of an authority and the local host. -/
def localPart (cs : List Char) : List Char :=
  Text.dropStart "localhost".toList (Text.dropStart "//".toList cs)

/-- A path without the slash before its drive. -/
def fromDrive (path : String) : String :=
  match path.toList with
  | '/' :: drive :: ':' :: more =>
    if drive.isAlpha then String.ofList (drive :: ':' :: more) else path
  | _ => path

theorem path?_file (s : String) : path? ("file:" ++ s) =
    (Percent.read? (String.ofList (localPart s.toList))).map fromDrive := by
  have hscheme : Text.stripStart? "file:".toList ("file:" ++ s).toList = some s.toList := by
    rw [String.toList_append, Text.stripStart?_append]
  rw [path?, hscheme]
  change (Percent.read? (String.ofList (localPart s.toList)) >>= _) = _
  cases Percent.read? (String.ofList (localPart s.toList)) with
  | none => rfl
  | some t =>
    change _ = some (fromDrive t)
    simp only [Option.bind_eq_bind, Option.bind_some, fromDrive]
    split <;> simp_all

/-! ### What is refused -/

theorem exists_localPart (s : String) : ∃ start : String, '%' ∉ start.toList ∧
    s = start ++ String.ofList (localPart s.toList) := by
  obtain ⟨slashes, hslashes, hfirst⟩ := Text.exists_dropStart "//".toList s.toList
  obtain ⟨host, hhost, hsecond⟩ :=
    Text.exists_dropStart "localhost".toList (Text.dropStart "//".toList s.toList)
  refine ⟨String.ofList (slashes ++ host), ?_, ?_⟩
  · rw [String.toList_ofList, List.mem_append, not_or]
    constructor
    · rcases hslashes with rfl | rfl <;> decide
    · rcases hhost with rfl | rfl <;> decide
  · rw [← String.toList_inj, String.toList_append, String.toList_ofList, String.toList_ofList,
      List.append_assoc, localPart, ← hsecond, ← hfirst]

theorem path?_file_eq_none (s : String) :
    path? ("file:" ++ s) = none ↔ Percent.read? ("file:" ++ s) = none := by
  obtain ⟨start, hstart, hs⟩ := exists_localPart s
  have hscheme : '%' ∉ "file:".toList := by decide
  rw [path?_file, Percent.read?_append hscheme, Option.map_eq_none_iff, Option.map_eq_none_iff]
  rw [hs, Percent.read?_append hstart, Option.map_eq_none_iff, ← hs]

/-- The encoded text of a `file:` URI is read exactly if behind every percent sign are two digits,
the first of which may be a plus sign, and the octets that it stands for are UTF-8; it is read as
the text of these octets. If no plus sign stands behind a percent sign, this is so of hexadecimal
digits. The URI names no path exactly if it is not read. -/
theorem malformed_refused (s : String) :
    ReadsBy firstDigits s ∧ (¬['%', '+'] <:+: s.toList → ReadsBy hexDigits s) ∧
      (path? ("file:" ++ s) = none ↔ Percent.read? ("file:" ++ s) = none) :=
  ⟨Percent.readsBy_firstDigits s, Percent.readsBy_hexDigits, path?_file_eq_none s⟩

/-- A plus sign and a digit are taken for two digits. -/
theorem signed_accepted : ¬ReadsBy hexDigits "%+9" ∧ path? "file:///a%+9b" = some "/a\tb" := by
  refine ⟨fun h => ?_, by decide +kernel⟩
  have hread : Percent.read? "%+9" = some "\t" := by decide
  obtain ⟨hgrouped, -⟩ := h.1.mp ⟨_, hread⟩
  obtain ⟨high, low, rest, hpost, hhigh, -⟩ := hgrouped [] ['+', '9'] rfl
  cases hpost
  exact absurd hhigh (by decide)

/-! ### Paths through their URIs -/

/-- The path starts with a drive, as in `/C:`. -/
def HasDrive (path : String) : Prop :=
  ∃ drive more, drive.isAlpha = true ∧ path.toList = '/' :: drive :: ':' :: more

theorem fromDrive_of_not_hasDrive (h : ¬HasDrive path) : fromDrive path = path := by
  rw [fromDrive]
  split
  · next drive more hpath => exact if_neg fun halpha => h ⟨drive, more, halpha, hpath⟩
  · rfl

/-- The URI of an absolute path without backslashes is the path behind two slashes, encoded. -/
theorem uri_ofPath (hhead : path.toList.head? = some '/') (hslashes : '\\' ∉ path.toList) :
    (ofPath path).uri =
      "file:" ++ String.ofList (['/', '/'] ++ Percent.encode (Utf8.encode path)) := by
  have hscheme : "file://".toList = "file:".toList ++ ['/', '/'] := by decide
  have huri : (ofPath path).uri =
      String.ofList ("file://".toList ++ Percent.encode (Utf8.encode path)) := by
    unfold ofPath
    dsimp only
    rw [forwardSlashes_of_not_mem hslashes, if_pos hhead, List.append_nil, String.ofList_toList]
  rw [huri, hscheme, List.append_assoc, String.ofList_append, String.ofList_toList]

theorem encode_absolute (hhead : path.toList.head? = some '/') :
    ∃ more, Percent.encode (Utf8.encode path) = '/' :: more := by
  obtain ⟨cs, hpath⟩ := List.head?_eq_some_iff.mp hhead
  have hslash : Percent.encodeOctet 0x2f = ['/'] := by decide
  have hoctet : String.utf8EncodeChar '/' = [0x2f] := by decide
  rw [Utf8.encode, hpath, List.flatMap_cons, hoctet, List.singleton_append, Percent.encode,
    List.flatMap_cons, hslash]
  exact ⟨_, rfl⟩

/-- An absolute path without backslashes that does not start with a drive is the path of its URI. -/
theorem path?_ofPath (habsolute : Path.isAbsolute path = true)
    (hslashes : '\\' ∉ path.toList) (hdrive : ¬HasDrive path) :
    path? (ofPath path).uri = some path := by
  have hhead : path.toList.head? = some '/' := of_decide_eq_true habsolute
  obtain ⟨more, hmore⟩ := encode_absolute hhead
  -- Neither mark can be part of the path, which starts with a slash.
  have hlocal : localPart (['/', '/'] ++ Percent.encode (Utf8.encode path)) =
      Percent.encode (Utf8.encode path) := by
    rw [hmore]
    rfl
  rw [uri_ofPath hhead hslashes, path?_file, String.toList_ofList, hlocal, Percent.read?_encode,
    Option.map_some, fromDrive_of_not_hasDrive hdrive]

/-- A path of which each piece looks like a part of a URI. -/
theorem path?_ofPath_reserved :
    let path := "/localhost//%41 é#?\x01/C:"
    (Path.isAbsolute path = true ∧ '\\' ∉ path.toList ∧ ¬HasDrive path) ∧
      path? (ofPath path).uri = some path := by
  have habsolute : Path.isAbsolute "/localhost//%41 é#?\x01/C:" = true := by decide +kernel
  have hslashes : '\\' ∉ "/localhost//%41 é#?\x01/C:".toList := by decide +kernel
  have hdrive : ¬HasDrive "/localhost//%41 é#?\x01/C:" := by
    rintro ⟨drive, more, -, hpath⟩
    have hthird : "/localhost//%41 é#?\x01/C:".toList[2]? = some 'o' := by decide +kernel
    rw [hpath] at hthird
    cases hthird
  exact ⟨⟨habsolute, hslashes, hdrive⟩, path?_ofPath habsolute hslashes hdrive⟩

/-- With a drive the slash before it is gone. -/
example : path? (ofPath "/C:/a").uri = some "C:/a" := by decide +kernel

end Space

end ScriptBridge
