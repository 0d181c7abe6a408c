import TagOrigin.Proofs.Encoding.RoundTrip
import TagOrigin.Proofs.Report
import TagOrigin.Proofs.Usage.Sightings

/-!
Reports and encodings. A file that holds a text as an encoding writes it is reported like the text. On
files that hold anything at all, the encodings that extend ASCII agree on every tag and its line, and
under UTF-8 the convention for ending lines does not show.
-/
namespace TagOrigin

open Encoding

/-- A path names a file that can be opened and read, with these bytes in it. -/
structure Files.FileSystem.Holds (fs : Files.FileSystem) (path : Text) (bytes : Bytes) : Prop where
  noNull : Char.ofNat 0 ∉ path
  opened : fs.readBytes (Files.Path.ofText path) = .ok bytes

/-- One file in the root, which is where paths begin. -/
def oneFile (name : Text) (bytes : Bytes) : Files.FileSystem where
  entries := [([], .directory true true), ([name], .file bytes true)]
  home := []

theorem holds_oneFile (bytes : Bytes) :
    (oneFile "a.tsx".toList bytes).Holds "a.tsx".toList bytes where
  noNull := by decide
  opened := by
    rw [Files.FileSystem.readBytes,
      Files.FileSystem.locate_of_single "a.tsx".toList (by decide) rfl (by decide)]
    rfl

section Scans

variable {fs other : Files.FileSystem} {path name t : Text} {encoding : Encoding} {bytes : Bytes}

/-- Bytes that can be read are reported like the text they are read as, with line feeds alone. -/
theorem scanFile_of_decode [Charts] (holds : fs.Holds path bytes) (openable : Char.ofNat 0 ∉ name)
    (known : find? name = some (.text encoding)) (reads : encoding.decode bytes = .ok t) :
    scanFile fs name path = .ok (.ofText path (normaliseLineEnds t)) := by
  have found : forReading name = .ok encoding := by rw [forReading, known]
  have read : readNamed name bytes = .ok t := by rw [readNamed, found, ← reads]
  rw [scanFile_eq_ofOpened openable holds.noNull, holds.opened, Report.ofOpened, read]
  rfl

/-- A file that holds a text as its encoding writes it is reported like the text in which pairs of
carriage return and line feed, and then carriage returns alone, have become line feeds. -/
theorem scanFile_of_written [Charts] (known : find? name = some (.text encoding))
    (openable : Char.ofNat 0 ∉ name) (written : Written encoding t bytes)
    (holds : fs.Holds path bytes) :
    let fed := Scan.replace ['\r'] ['\n'] (Scan.replace ['\r', '\n'] ['\n'] t)
    scanFile fs name path = .ok
      { path, error := none, bindings := Import.bindings fed, usages := scanSource fed } := by
  intro fed
  have same : normaliseLineEnds t = fed := normaliseLineEnds_eq_replace t
  rw [scanFile_of_decode holds openable known (decode_of_written written), same]
  rfl

/-- The usual names of the encodings that write texts. -/
def usualNames : Register Encoding :=
  [("utf-8", .utf8), ("utf-8-sig", .utf8Marked), ("utf-16-le", .utf16Ordered .little),
    ("utf-16-be", .utf16Ordered .big), ("utf-16", .utf16), ("utf-32-le", .utf32Ordered .little),
    ("utf-32-be", .utf32Ordered .big), ("utf-32", .utf32),
    ("latin-1", .latin1)].map fun (name, encoding) => (name.toList, encoding)

theorem find?_of_mem_usualNames : ∀ entry ∈ usualNames, find? entry.1 = some (.text entry.2) := by
  decide

/-- A mark of its own, a character above the basic plane and both other line ends, in big bytes. -/
theorem scanFile_of_written_markedText :
    let bytes : Bytes := [0xfe, 0xff, 0xfe, 0xff, 0xd8, 0x3d, 0xde, 0x00, 0x00, 0x0d, 0x00, 0x0a,
      0x00, 0x3c, 0x00, 0x41, 0x00, 0x0d, 0x00, 0x3c, 0x00, 0x42]
    let t : Text := [Char.ofNat 0xfeff, Char.ofNat 0x1f600] ++ "\r\n<A\r<B".toList
    let fed : Text := [Char.ofNat 0xfeff, Char.ofNat 0x1f600] ++ "\n<A\n<B".toList
    ("utf-16".toList, Encoding.utf16) ∈ usualNames ∧
      Written .utf16 t bytes ∧ (oneFile "a.tsx".toList bytes).Holds "a.tsx".toList bytes ∧
      scanFile (oneFile "a.tsx".toList bytes) "utf-16".toList "a.tsx".toList = .ok
        { path := "a.tsx".toList, error := none, bindings := Import.bindings fed,
          usages := scanSource fed } := by
  intro bytes t fed
  have named : ("utf-16".toList, Encoding.utf16) ∈ usualNames := by decide
  have written : Written .utf16 t bytes := Written.utf16 .big t
  have holds : (oneFile "a.tsx".toList bytes).Holds "a.tsx".toList bytes := holds_oneFile _
  have scanned := scanFile_of_written (find?_of_mem_usualNames _ named) (by decide) written holds
  have same : Scan.replace ['\r'] ['\n'] (Scan.replace ['\r', '\n'] ['\n'] t) = fed := by decide
  exact ⟨named, written, holds, by simpa only [same] using scanned⟩

/-- Under UTF-8 a report does not show how the lines of the file end. -/
theorem scanFile_eq_of_lineEnds [Charts] {segments : List Bytes}
    (clean : ∀ segment ∈ segments, 0x0a ∉ segment ∧ 0x0d ∉ segment) (ending ending' : LineEnd)
    (holds : fs.Holds path (ending.bytes.intercalate segments))
    (holds' : other.Holds path (ending'.bytes.intercalate segments)) :
    scanFile fs "utf-8".toList path = scanFile other "utf-8".toList path ∧
      scanFile fs "utf-8".toList path =
        .ok (.ofText path (Text.join ['\n'] (segments.map Utf8.decode))) := by
  have pieces : ∀ piece ∈ segments.map Utf8.decode, '\n' ∉ piece ∧ '\r' ∉ piece := by
    intro piece member
    obtain ⟨segment, inside, rfl⟩ := List.mem_map.1 member
    refine ⟨fun feed => (clean segment inside).1 ?_, fun returned => (clean segment inside).2 ?_⟩
    · exact Utf8.byte_mem_of_mem_decode (by decide) feed
    · exact Utf8.byte_mem_of_mem_decode (by decide) returned
  have reported {fs : Files.FileSystem} (ending : LineEnd)
      (holds : fs.Holds path (ending.bytes.intercalate segments)) :
      scanFile fs "utf-8".toList path =
        .ok (.ofText path (Text.join ['\n'] (segments.map Utf8.decode))) := by
    have reads : Encoding.utf8.decode (ending.bytes.intercalate segments) =
        .ok (Text.join ending.text (segments.map Utf8.decode)) :=
      congrArg Except.ok (ending.decode_join segments)
    rw [scanFile_of_decode holds (by decide) (by decide) reads, ending.normaliseLineEnds_join pieces]
  exact ⟨(reported ending holds).trans (reported ending' holds').symm, reported ending holds⟩

/-- A sequence cut short before a line end, and two segments without any bytes. -/
theorem scanFile_eq_of_lineEnds_cutShort :
    let segments : List Bytes := [[0xe2, 0x82], [], [], [0x3c, 0x41]]
    let pairs : Bytes := [0xe2, 0x82, 0x0d, 0x0a, 0x0d, 0x0a, 0x0d, 0x0a, 0x3c, 0x41]
    let returns : Bytes := [0xe2, 0x82, 0x0d, 0x0d, 0x0d, 0x3c, 0x41]
    (∀ segment ∈ segments, 0x0a ∉ segment ∧ 0x0d ∉ segment) ∧
      LineEnd.pair.bytes.intercalate segments = pairs ∧
      LineEnd.carriageReturn.bytes.intercalate segments = returns ∧
      scanFile (oneFile "a.tsx".toList pairs) "utf-8".toList "a.tsx".toList =
        scanFile (oneFile "a.tsx".toList returns) "utf-8".toList "a.tsx".toList := by
  intro segments pairs returns
  have clean : ∀ segment ∈ segments, 0x0a ∉ segment ∧ 0x0d ∉ segment := by decide
  have holds : (oneFile "a.tsx".toList pairs).Holds "a.tsx".toList pairs := holds_oneFile _
  have holds' : (oneFile "a.tsx".toList returns).Holds "a.tsx".toList returns := holds_oneFile _
  have scanned := scanFile_eq_of_lineEnds clean .pair .carriageReturn holds holds'
  exact ⟨clean, rfl, rfl, scanned.1⟩

/-- Under an encoding that extends ASCII the sightings are those of the bytes taken one by one. -/
theorem exists_scanFile_of_mem_asciiNames [Charts] (known : name ∈ asciiNames)
    (holds : fs.Holds path bytes) :
    ∃ report, scanFile fs name path = .ok report ∧ report.error = none ∧
      sightings report.usages = sightings (scanSource (normaliseLineEnds (byteText bytes))) := by
  obtain ⟨encoding, t, found, reads, front, rest, rfl, high, alike⟩ :=
    exists_alike_of_mem_asciiNames known bytes
  have openable : Char.ofNat 0 ∉ name := by
    have all : ∀ name ∈ asciiNames, Char.ofNat 0 ∉ name := by decide
    exact all name known
  have foreign := isForeign_of_mem_byteText high
  have clean : '\r' ∉ byteText front := fun member => absurd (foreign _ member) (by decide)
  have same : Usage.sights 1 (normaliseLineEnds t) =
      Usage.sights 1 (normaliseLineEnds (byteText (front ++ rest))) := by
    rw [byteText, List.map_append, ← byteText, ← byteText, normaliseLineEnds_append clean,
      Usage.sights_append_of_foreign 1 foreign, Usage.sights_of_alike 1 alike.normaliseLineEnds]
  exact ⟨_, scanFile_of_decode holds openable found reads, rfl, sightings_usages same _ _⟩

/-- Which of the encodings that extend ASCII is chosen does not show in the tags that are found and in
their lines, whatever the file holds. -/
theorem sightings_eq_of_mem_asciiNames [Charts] {name' : Text} (known : name ∈ asciiNames)
    (known' : name' ∈ asciiNames) (holds : fs.Holds path bytes) :
    ∃ report report', scanFile fs name path = .ok report ∧ scanFile fs name' path = .ok report' ∧
      sightings report.usages = sightings report'.usages ∧
      sightings report.usages = sightings (scanSource (normaliseLineEnds (byteText bytes))) ∧
      report.error = none ∧ report'.error = none := by
  obtain ⟨report, scanned, fine, seen⟩ := exists_scanFile_of_mem_asciiNames known holds
  obtain ⟨report', scanned', fine', seen'⟩ := exists_scanFile_of_mem_asciiNames known' holds
  exact ⟨report, report', scanned, scanned', seen.trans seen'.symm, seen, fine, fine'⟩

/-- A mark, a sequence cut short right before a tag, and a byte that begins none behind a line end. -/
theorem sightings_eq_of_mem_asciiNames_malformed :
    let bytes : Bytes :=
      [0xef, 0xbb, 0xbf, 0xe2, 0x82, 0x3c, 0x41, 0x0d, 0x0a, 0xff, 0x3c, 0x42, 0x20, 0xc0, 0xbc, 0x43]
    let files := oneFile "a.tsx".toList bytes
    let shown := [("A".toList, [("A".toList, 1)]), ("B".toList, [("B".toList, 2)])]
    "utf-8-sig".toList ∈ asciiNames ∧ "cp1252".toList ∈ asciiNames ∧
      files.Holds "a.tsx".toList bytes ∧
      ∃ report report', scanFile files "utf-8-sig".toList "a.tsx".toList = .ok report ∧
        scanFile files "cp1252".toList "a.tsx".toList = .ok report' ∧
        sightings report.usages = shown ∧ sightings report'.usages = shown := by
  intro bytes files shown
  have marked : "utf-8-sig".toList ∈ asciiNames := by decide
  have single : "cp1252".toList ∈ asciiNames := by decide
  have holds : files.Holds "a.tsx".toList bytes := holds_oneFile bytes
  obtain ⟨report, report', scanned, scanned', same, seen, -, -⟩ :=
    sightings_eq_of_mem_asciiNames marked single holds
  have found : sightings (scanSource (normaliseLineEnds (byteText bytes))) = shown := by decide
  exact ⟨marked, single, holds, report, report', scanned, scanned', seen.trans found,
    same.symm.trans (seen.trans found)⟩

end Scans

end TagOrigin
