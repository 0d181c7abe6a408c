import Mathlib.Data.List.Forall2
import TagOrigin.Proofs.Encoding.Reading
import TagOrigin.Proofs.Environment
import TagOrigin.Proofs.Files.Names

/-!
Scans of many files. A scan reports on every file by itself, and on a file that the file system refuses
as well. What ends it is a file that can be read but not under the encoding: one that lacks its byte
order mark or has bytes beyond ASCII at a wrong place, or any at all if the encoding is a conversion or
refuses everything. A configuration lets all these encodings pass. Which text the other encodings read
does not count.
-/
namespace TagOrigin

open Encoding

/-- The report on a file that answers in some way to being opened and read. -/
def Report.ofOpened [Charts] (encoding path : Text) : Except Files.Cause Bytes → Except Encoding.Fault Report
  | .error cause => .ok (.unreadable path { cause, path := (Files.Path.ofText path).text })
  | .ok bytes => (readNamed encoding bytes).map fun t => .ofText path (normaliseLineEnds t)

namespace Report

variable [Charts] {encoding path : Text} {opened : Except Files.Cause Bytes} {report : Report}

/-- A report is about its path, and one that says why its file could not be read says nothing else. -/
theorem ofOpened_eq_ok (reported : ofOpened encoding path opened = .ok report) :
    report.path = path ∧ (report.error.isSome → report.bindings = [] ∧ report.usages = []) := by
  cases opened with
  | error cause =>
    obtain rfl := Except.ok.inj reported
    exact ⟨rfl, fun _ => ⟨rfl, rfl⟩⟩
  | ok bytes =>
    rw [ofOpened] at reported
    obtain ⟨t, _, rfl⟩ := map_eq_ok_iff.1 reported
    exact ⟨rfl, nofun⟩

end Report

/-- A file can be opened and read, and it holds what the encoding refuses. -/
def StopsScan (files : Files.FileSystem) (encoding path : Text) (fault : Encoding.Fault) : Prop :=
  ∃ bytes, files.readBytes (Files.Path.ofText path) = .ok bytes ∧ Refuses encoding bytes fault

section Scans

variable [Charts] {files : Files.FileSystem} {encoding : Text} {paths : List Text}

/-- The report on a file depends on nothing but what opening and reading this file gives. -/
theorem scanFile_eq_ofOpened {path : Text} (openable : Char.ofNat 0 ∉ encoding)
    (clean : Char.ofNat 0 ∉ path) :
    scanFile files encoding path =
      (Report.ofOpened encoding path (files.readBytes (Files.Path.ofText path))).mapError
        .encoding := by
  have named : encoding.contains (Char.ofNat 0) = false := by simpa using openable
  have reached := Files.Path.hasNull_ofText clean
  rw [scanFile, readText]
  simp only [named, reached, Bool.false_eq_true, if_false]
  cases files.readBytes (Files.Path.ofText path) with
  | error cause => rfl
  | ok bytes =>
    simp only [Report.ofOpened, readNamed]
    cases forReading encoding with
    | error fault => rfl
    | ok found =>
      simp only
      cases found.decode bytes with
      | error fault => rfl
      | ok t => rfl

theorem scanFiles_cons (files : Files.FileSystem) (encoding path : Text) (paths : List Text) :
    scanFiles files encoding (path :: paths) =
      match scanFile files encoding path with
      | .error failure => .error failure
      | .ok report => (scanFiles files encoding paths).map (report :: ·) := by
  rw [scanFiles, List.mapM_cons]
  cases scanFile files encoding path with
  | error failure => rfl
  | ok report =>
    show _ = (paths.mapM (scanFile files encoding)).map (report :: ·)
    cases paths.mapM (scanFile files encoding) with
    | error failure => rfl
    | ok reports => rfl

/-- Under a known encoding there is a report on a file unless the file stops the scan. -/
theorem scanFile_cases (files : Files.FileSystem) {codec : Codec} {path : Text}
    (known : find? encoding = some codec) (openable : Char.ofNat 0 ∉ encoding)
    (clean : Char.ofNat 0 ∉ path) :
    (∃ report, scanFile files encoding path = .ok report ∧
        Report.ofOpened encoding path (files.readBytes (Files.Path.ofText path)) = .ok report ∧
        ∀ fault, ¬ StopsScan files encoding path fault) ∨
      ∃ fault, scanFile files encoding path = .error (.encoding fault) ∧
        StopsScan files encoding path fault := by
  rw [scanFile_eq_ofOpened openable clean]
  cases opened : files.readBytes (Files.Path.ofText path) with
  | error cause =>
    refine .inl ⟨_, rfl, rfl, ?_⟩
    rintro fault ⟨bytes, read, _⟩
    cases opened.symm.trans read
  | ok bytes =>
    rw [Report.ofOpened]
    rcases readNamed_cases known bytes with ⟨t, read, accepted⟩ | ⟨fault, read, refused⟩
    · rw [read]
      refine .inl ⟨_, rfl, rfl, ?_⟩
      rintro fault ⟨other, same, refused⟩
      cases opened.symm.trans same
      exact accepted fault refused
    · rw [read]
      exact .inr ⟨fault, rfl, bytes, opened, refused⟩

/-- What a scan under a known encoding ends with: the reports in the order of their paths, or what the
first file that stops it is refused for. -/
theorem scanFiles_cases (files : Files.FileSystem) {codec : Codec}
    (known : find? encoding = some codec) (openable : Char.ofNat 0 ∉ encoding)
    (clean : ∀ path ∈ paths, Char.ofNat 0 ∉ path) :
    (∃ reports, scanFiles files encoding paths = .ok reports ∧
        List.Forall₂ (fun path report => Report.ofOpened encoding path
          (files.readBytes (Files.Path.ofText path)) = .ok report) paths reports ∧
        ∀ path ∈ paths, ∀ fault, ¬ StopsScan files encoding path fault) ∨
      ∃ before path behind fault, scanFiles files encoding paths = .error (.encoding fault) ∧
        paths = before ++ path :: behind ∧ StopsScan files encoding path fault ∧
        ∀ earlier ∈ before, ∀ other, ¬ StopsScan files encoding earlier other := by
  induction paths with
  | nil => exact .inl ⟨[], rfl, .nil, by simp⟩
  | cons path paths ih =>
    obtain ⟨first, rest⟩ := List.forall_mem_cons.1 clean
    rw [scanFiles_cons]
    rcases scanFile_cases files known openable first with
      ⟨report, reported, made, accepted⟩ | ⟨fault, failed, stops⟩
    · rw [reported]
      rcases ih rest with
        ⟨reports, returned, described, allAccepted⟩ |
        ⟨before, stopping, behind, fault, failed, rfl, stops, acceptedBefore⟩
      · rw [returned]
        exact .inl ⟨report :: reports, rfl, .cons made described,
          List.forall_mem_cons.2 ⟨accepted, allAccepted⟩⟩
      · rw [failed]
        exact .inr ⟨path :: before, stopping, behind, fault, rfl, rfl, stops,
          List.forall_mem_cons.2 ⟨accepted, acceptedBefore⟩⟩
    · rw [failed]
      exact .inr ⟨[], path, paths, fault, rfl, rfl, stops, by simp⟩

/-- Under an encoding that reads every byte sequence a scan always returns. -/
theorem exists_scanFiles_of_isTolerant (files : Files.FileSystem) {named : Encoding}
    (known : find? encoding = some (.text named)) (tolerant : named.IsTolerant)
    (openable : Char.ofNat 0 ∉ encoding) (clean : ∀ path ∈ paths, Char.ofNat 0 ∉ path) :
    ∃ reports, scanFiles files encoding paths = .ok reports := by
  rcases scanFiles_cases files known openable clean with
    ⟨reports, returned, _⟩ | ⟨_, _, _, _, _, _, ⟨bytes, _, refused⟩, _⟩
  · exact ⟨reports, returned⟩
  · exact absurd refused (tolerant.not_refuses known _ _)

variable {fs : Files.FileSystem} {file : Option Files.Path} {env : Environment} {settings : Settings}

/-- Under the encoding of a configuration a scan returns exactly if no file stops it. Then there is one
report for each path, in order, which depends on nothing but the file at this path, and a report with an
error is otherwise empty. Else the scan ends with what the first file that stops it is refused for. -/
theorem scanFiles_returns_iff (proper : env.IsProper)
    (configured : (Settings.configure fs file env).2 = .ok settings)
    (clean : ∀ path ∈ paths, Char.ofNat 0 ∉ path) :
    ((∃ reports, scanFiles files settings.encoding paths = .ok reports) ↔
        ∀ path ∈ paths, ∀ fault, ¬ StopsScan files settings.encoding path fault) ∧
      (∀ reports, scanFiles files settings.encoding paths = .ok reports →
        List.Forall₂ (fun path report =>
          Report.ofOpened settings.encoding path (files.readBytes (Files.Path.ofText path)) =
              .ok report ∧
            report.path = path ∧
            (report.error.isSome → report.bindings = [] ∧ report.usages = [])) paths reports) ∧
      ∀ failure, scanFiles files settings.encoding paths = .error failure →
        ∃ before path behind fault, paths = before ++ path :: behind ∧
          StopsScan files settings.encoding path fault ∧ failure = .encoding fault ∧
          ∀ earlier ∈ before, ∀ other, ¬ StopsScan files settings.encoding earlier other := by
  obtain ⟨shown, _, codec, known⟩ := Settings.configure_eq_ok configured
  have openable : Char.ofNat 0 ∉ settings.encoding := by
    rw [shown]
    exact Settings.noNull_encoding (Settings.isProper_configure proper fs file)
  rcases scanFiles_cases files known openable clean with
    ⟨reports, returned, described, accepted⟩ | ⟨before, path, behind, fault, failed, rfl, stops, first⟩
  · refine ⟨iff_of_true ⟨reports, returned⟩ accepted, ?_, ?_⟩
    · intro other returned'
      obtain rfl := Except.ok.inj (returned.symm.trans returned')
      exact described.imp fun path report made => ⟨made, Report.ofOpened_eq_ok made⟩
    · intro failure failed
      cases returned.symm.trans failed
  · refine ⟨iff_of_false ?_ ?_, ?_, ?_⟩
    · rintro ⟨reports, returned⟩
      cases failed.symm.trans returned
    · intro accepted
      exact accepted path (by simp) fault stops
    · intro reports returned
      cases failed.symm.trans returned
    · intro failure failed'
      obtain rfl := Except.error.inj (failed.symm.trans failed')
      exact ⟨before, path, behind, fault, rfl, stops, rfl, first⟩

end Scans

/-- An environment whose encoding tells its byte order by a mark. -/
def markedEnvironment : Environment :=
  [("TAGSCOPE_ENCODING".toList, "utf-16".toList)]

/-- A file with the mark and a file without it. -/
def markedAndUnmarked : Files.FileSystem where
  entries := [([], .directory true true),
    (["a.tsx".toList], .file [0xff, 0xfe, 0x3c, 0x00, 0x41, 0x00] true),
    (["b.tsx".toList], .file [0x3c, 0x41] true)]
  home := []

theorem configure_markedEnvironment : (Settings.configure .empty none markedEnvironment).2 = .ok
    { extensions := defaultExtensions, ignorePatterns := [], encoding := "utf-16".toList } := by
  rw [Settings.configure_in_empty]
  decide +kernel

open Files.FileSystem in
theorem readText_markedAndUnmarked :
    readText markedAndUnmarked "a.tsx".toList "utf-16".toList = .ok "<A".toList ∧
      readText markedAndUnmarked "b.tsx".toList "utf-16".toList =
        .error (.encoding (.unmarked 16)) ∧
      readText markedAndUnmarked "c.tsx".toList "utf-16".toList =
        .error (.file { cause := .notFound, path := "c.tsx".toList }) := by
  have marked : markedAndUnmarked.readBytes (Files.Path.ofText "a.tsx".toList) =
      .ok [0xff, 0xfe, 0x3c, 0x00, 0x41, 0x00] := by
    rw [readBytes, locate_of_single "a.tsx".toList (by decide) rfl (by decide)]
    rfl
  have unmarked : markedAndUnmarked.readBytes (Files.Path.ofText "b.tsx".toList) = .ok [0x3c, 0x41] := by
    rw [readBytes, locate_of_single "b.tsx".toList (by decide) rfl (by decide)]
    rfl
  have missing : markedAndUnmarked.readBytes (Files.Path.ofText "c.tsx".toList) = .error .notFound := by
    rw [readBytes, locate_of_single "c.tsx".toList (by decide) rfl (by decide)]
    rfl
  refine ⟨?_, ?_, ?_⟩
  · simp only [readText, marked]
    decide +kernel
  · simp only [readText, unmarked]
    decide +kernel
  · simp only [readText, missing]
    decide +kernel

theorem scanFiles_marked :
    scanFiles markedAndUnmarked "utf-16".toList ["c.tsx".toList, "a.tsx".toList] = .ok
      [.unreadable "c.tsx".toList { cause := .notFound, path := "c.tsx".toList },
        .ofText "a.tsx".toList "<A".toList] := by
  obtain ⟨marked, _, missing⟩ := readText_markedAndUnmarked
  rw [scanFiles_cons, scanFile, missing, scanFiles_cons, scanFile, marked]
  rfl

theorem scanFiles_returns_iff_marked :
    markedEnvironment.IsProper ∧
      (∀ path ∈ ["c.tsx".toList, "a.tsx".toList], Char.ofNat 0 ∉ path) ∧
      (∃ reports, scanFiles markedAndUnmarked "utf-16".toList ["c.tsx".toList, "a.tsx".toList] =
        .ok reports) ∧
      ∀ path ∈ ["c.tsx".toList, "a.tsx".toList], ∀ fault,
        ¬ StopsScan markedAndUnmarked "utf-16".toList path fault :=
  have proper : markedEnvironment.IsProper := by decide
  have clean : ∀ path ∈ ["c.tsx".toList, "a.tsx".toList], Char.ofNat 0 ∉ path := by decide
  ⟨proper, clean, ⟨_, scanFiles_marked⟩,
    (scanFiles_returns_iff proper configure_markedEnvironment clean).1.1 ⟨_, scanFiles_marked⟩⟩

/-- The encoding of a configuration, and one file without a mark among others: nothing is reported. -/
theorem scanFiles_fails_at_unmarked :
    markedEnvironment.IsProper ∧
      (Settings.configure .empty none markedEnvironment).2 = .ok
        { extensions := defaultExtensions, ignorePatterns := [], encoding := "utf-16".toList } ∧
      scanFiles markedAndUnmarked "utf-16".toList
        ["c.tsx".toList, "a.tsx".toList, "b.tsx".toList] = .error (.encoding (.unmarked 16)) := by
  obtain ⟨marked, unmarked, missing⟩ := readText_markedAndUnmarked
  refine ⟨by decide, configure_markedEnvironment, ?_⟩
  rw [scanFiles_cons, scanFile, missing, scanFiles_cons, scanFile, marked, scanFiles_cons, scanFile,
    unmarked]
  rfl

end TagOrigin
