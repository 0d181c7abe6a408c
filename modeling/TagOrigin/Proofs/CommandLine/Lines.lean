import TagOrigin.CommandLine.Run
import TagOrigin.Proofs.Display.Console
import TagOrigin.Proofs.Environment

/-!
The lines of a scan. Whatever paths, names, source lines and reasons stand in them, and whichever glyphs
are replaced, they can be printed: an escaped text opens tags at most, so the closing tag of the line on an
unreadable file finds its opening one, and all other lines have their tags closed before the text begins.
-/
namespace TagOrigin.CommandLine

open Display (Console)
open Display.Markup

section Reports

variable (console : Console)

theorem isDigit_of_mem_ofNat {c : Char} {n : Nat} (member : c ∈ Text.ofNat n) : c.isDigit :=
  Nat.isDigit_of_mem_toDigits (by decide) (by decide) member

theorem not_mem_ofNat {c : Char} (other : c.isDigit = false) (n : Nat) : c ∉ Text.ofNat n := by
  intro member
  rw [isDigit_of_mem_ofNat member] at other
  cases other

theorem prints_usageLines (usage : Usage) : ∀ line ∈ usageLines usage, console.Prints line := by
  have counted : '[' ∉ "    Line ".toList ++ Text.ofNat usage.line ++ ": ".toList := by
    simp [not_mem_ofNat]
  have clear : ("    Line ".toList ++ Text.ofNat usage.line ++ ": ".toList).getLast? ≠ some '\\' := by
    rw [List.getLast?_append]
    simp
  have place := console.prints_append_escape (console.isClosed_present_of_not_mem counted clear) usage.text
  intro line member
  rw [usageLines] at member
  rcases List.mem_cons.1 member with rfl | member
  · exact place
  · split at member
    · cases member
    · cases member
    · next statement _ _ =>
      obtain rfl := List.mem_singleton.1 member
      exact console.prints_append_escape (console.isClosed_present (by decide) (by decide +kernel)) statement

theorem prints_componentLines (entry : Text × List Usage) :
    ∀ line ∈ componentLines entry, console.Prints line := by
  intro line member
  rw [componentLines] at member
  rcases List.mem_cons.1 member with rfl | member
  · exact console.prints_append_escape (console.isClosed_present (by decide) (by decide +kernel)) entry.1
  · obtain ⟨usage, -, within⟩ := List.mem_flatMap.1 member
    exact prints_usageLines console usage line within

theorem prints_reportLines (report : Report) : ∀ line ∈ reportLines report, console.Prints line := by
  intro line member
  rw [reportLines, List.mem_append, List.mem_append, List.mem_pair, List.mem_singleton] at member
  rcases member with ((rfl | rfl) | within) | rfl
  · exact console.prints_append_escape (console.isClosed_present (by decide) (by decide +kernel)) report.path
  · exact console.prints_of_not_mem (by decide)
  · obtain ⟨entry, -, within⟩ := List.mem_flatMap.1 within
    exact prints_componentLines console entry line within
  · exact console.prints_of_not_mem (by decide)

/-- The tag of the line above the files is closed behind their number. -/
theorem prints_filesHead (n : Nat) :
    console.Prints ("[bold]Scanned Files (".toList ++ Text.ofNat n ++ "):[/bold]".toList) := by
  have without {c : Char} (stays : Display.Stays c) (other : c.isDigit = false) :
      c ∉ console.present (Text.ofNat n) := by
    rw [console.mem_present_iff stays]
    exact not_mem_ofNat other n
  have clear : (console.present (Text.ofNat n)).getLast? ≠ some '\\' :=
    fun last => without (by decide) rfl (List.mem_of_getLast? last)
  have numeral : brackets (console.present (Text.ofNat n)) = [] :=
    brackets_eq_nil (.inl (without Display.stays_opening rfl))
  have closes : openAfter [] (brackets "[bold]Scanned Files (".toList ++
      ([] ++ brackets "):[/bold]".toList)) = some [] := by decide +kernel
  have resolves : ∀ b ∈ brackets "[bold]Scanned Files (".toList ++ ([] ++ brackets "):[/bold]".toList),
      b.Resolves := by decide +kernel
  have opening := console.present_eq_self (t := "[bold]Scanned Files (".toList) (by decide)
  have closing := console.present_eq_self (t := "):[/bold]".toList) (by decide)
  have whole : brackets (console.present ("[bold]Scanned Files (".toList ++ Text.ofNat n ++
      "):[/bold]".toList)) = brackets "[bold]Scanned Files (".toList ++
        ([] ++ brackets "):[/bold]".toList) := by
    rw [List.append_assoc, console.present_append, console.present_append, opening, closing,
      brackets_enclosed (by decide) (by decide) clear (by decide), numeral]
  apply console.prints_of_resolves
  · rwa [whole]
  · rw [whole, closes]
    rfl

theorem prints_fileLines (files : List Text) : ∀ line ∈ fileLines files, console.Prints line := by
  intro line member
  rw [fileLines] at member
  rcases List.mem_cons.1 member with rfl | member
  · exact prints_filesHead console files.length
  · obtain ⟨path, -, rfl⟩ := List.mem_map.1 member
    exact console.prints_append_escape (console.isClosed_present_of_not_mem (by decide) (by decide)) path

/-- The line on an unreadable file before the path, and behind it up to the reason. -/
def unreadableOpening : Text := "[bold red]Error reading file ".toList

def unreadableClosing : Text := "[/bold red] ".toList

theorem unreadableLine_eq (path error : Text) :
    unreadableLine path error =
      unreadableOpening ++ ((escape path ++ [':']) ++ (unreadableClosing ++ escape error)) := by
  have opening : "[bold red]Error reading file ".toList = unreadableOpening := by decide +kernel
  have closing : ":[/bold red] ".toList = [':'] ++ unreadableClosing := by decide +kernel
  unfold unreadableLine
  rw [opening, closing]
  simp only [List.append_assoc]

/-- The brackets of this line are those of its own two tags, of the path and of the reason. -/
theorem brackets_unreadableLine (path error : Text) :
    brackets (console.present (unreadableLine path error)) =
      brackets unreadableOpening ++ (brackets (console.present (escape path)) ++
        (brackets unreadableClosing ++ brackets (console.present (escape error)))) := by
  have opening : console.present unreadableOpening = unreadableOpening :=
    console.present_eq_self (by decide +kernel)
  have closing : console.present unreadableClosing = unreadableClosing :=
    console.present_eq_self (by decide +kernel)
  have colon : console.present [':'] = [':'] := console.present_eq_self (by decide)
  have closed : firstBracket? unreadableClosing.reverse ≠ some '[' := by decide +kernel
  have first : firstBracket? (unreadableClosing ++ console.present (escape error)) ≠ some ']' := by
    have begins : firstBracket? unreadableClosing = some '[' := by decide +kernel
    rw [firstBracket?] at begins ⊢
    rw [List.find?_append, begins, Option.some_or]
    decide
  rw [unreadableLine_eq, console.present_append, console.present_append, console.present_append,
    console.present_append, opening, closing, colon,
    brackets_enclosed (by decide +kernel) (by decide +kernel) (by simp) first,
    brackets_append_of_not_mem (by decide),
    brackets_append (.inl (by decide +kernel)) (not_crosses_of_last closed)]

/-- Its closing tag finds the opening one, whatever tags the path opens. -/
theorem prints_unreadableLine (path error : Text) : console.Prints (unreadableLine path error) := by
  obtain ⟨tag, isTag⟩ : ∃ tag, tag = (⟨"bold red".toList, []⟩ : Opened) := ⟨_, rfl⟩
  have opens : openAfter [] (brackets unreadableOpening) = some [tag] := by
    rw [isTag]
    decide +kernel
  obtain ⟨more, behindPath⟩ := console.exists_openAfter_escape [tag] path
  have closes : brackets unreadableClosing = [⟨0, "/bold red".toList⟩] := by decide +kernel
  obtain ⟨left, closed⟩ : ∃ left, applyTag (more ++ [tag]) "/bold red".toList 0 = .ok left := by
    have closing : "/bold red".toList.takeWhile (· ≠ '=') = '/' :: "bold red".toList := by decide +kernel
    have member : tag ∈ more ++ [tag] := List.mem_append_right more List.mem_cons_self
    refine exists_applyTag_closing closing member ?_ ?_ ?_ 0
    · rw [isTag]
      decide +kernel
    · decide +kernel
    · rw [isTag]
      decide
  have behindClosing : openAfter (more ++ [tag]) (brackets unreadableClosing) = some left := by
    rw [closes, openAfter_cons_of_isLive (by decide), closed]
    rfl
  obtain ⟨last, behindReason⟩ := console.exists_openAfter_escape left error
  have resolvesOpening : ∀ b ∈ brackets unreadableOpening, b.Resolves := by decide +kernel
  have resolvesClosing : ∀ b ∈ brackets unreadableClosing, b.Resolves := by decide +kernel
  apply console.prints_of_resolves
  · rw [brackets_unreadableLine]
    simp only [List.forall_mem_append]
    exact ⟨resolvesOpening, console.resolves_escape path, resolvesClosing, console.resolves_escape error⟩
  · rw [brackets_unreadableLine, openAfter_append, opens, Option.bind_some, openAfter_append, behindPath,
      Option.bind_some, openAfter_append, behindClosing, Option.bind_some, behindReason]
    rfl

/-- All messages of an outcome can be shown. -/
def Outcome.IsPrintable (outcome : Outcome) : Prop :=
  ∀ message ∈ outcome.messages, ∃ shown, message.written console = .ok shown

theorem exists_transcript {outcome : Outcome} (printable : outcome.IsPrintable console) :
    ∃ transcript, outcome.transcript console = .ok transcript := by
  have written : ∀ messages : List Message,
      (∀ message ∈ messages, ∃ shown, message.written console = .ok shown) →
        ∃ shown, (messages.mapM fun message => (message.written console).map (message.stream, ·)) =
          .ok shown := by
    intro messages each
    induction messages with
    | nil => exact ⟨[], rfl⟩
    | cons message messages ih =>
      obtain ⟨⟨here, shown⟩, later⟩ := List.forall_mem_cons.1 each
      obtain ⟨others, behind⟩ := ih later
      exact ⟨(message.stream, here) :: others, by rw [List.mapM_cons, shown, behind]; rfl⟩
  obtain ⟨shown, all⟩ := written outcome.messages printable
  rw [Outcome.transcript, all]
  exact ⟨_, rfl⟩

theorem isPrintable_refused (code : Nat) (message : Text) :
    (Outcome.refused code message).IsPrintable console := by
  intro complaint member
  obtain rfl := List.mem_singleton.1 member
  exact console.exists_errorLine message

theorem exists_written_reportMessages (report : Report) :
    ∀ message ∈ reportMessages report, ∃ shown, message.written console = .ok shown := by
  intro message member
  unfold reportMessages at member
  split at member
  · obtain rfl := List.mem_singleton.1 member
    exact prints_unreadableLine console report.path _
  · split at member
    · cases member
    · obtain ⟨line, within, rfl⟩ := List.mem_map.1 member
      exact prints_reportLines console report line within

theorem isPrintable_scanChosen [Encoding.Charts] {fs : Files.FileSystem} {encoding root : Text}
    {extensions files : List Text} {listFiles : Bool} {outcome : Outcome}
    (scanned : scanChosen fs encoding root extensions files listFiles = .ok outcome) :
    outcome.IsPrintable console := by
  unfold scanChosen at scanned
  cases read : scanFiles fs encoding files with
  | error failure =>
    rw [read] at scanned
    cases scanned
  | ok reports =>
    rw [read] at scanned
    cases scanned
    intro message member
    rw [List.mem_append, List.mem_append] at member
    rcases member with (warning | reported) | listed
    · split at warning
      · obtain rfl := List.mem_singleton.1 warning
        exact console.exists_warningLine _
      · cases warning
    · obtain ⟨report, -, within⟩ := List.mem_flatMap.1 reported
      exact exists_written_reportMessages console report message within
    · split at listed
      · obtain ⟨line, within, rfl⟩ := List.mem_map.1 listed
        exact prints_fileLines console files line within
      · cases listed

theorem isPrintable_scanWith [Encoding.Charts] {fs : Files.FileSystem} {settings : Settings}
    {root ignore : Text} {given : List Text} {listFiles : Bool} {outcome : Outcome}
    (scanned : scanWith fs settings root ignore given listFiles = .ok outcome) :
    outcome.IsPrintable console := by
  unfold scanWith at scanned
  split at scanned
  · cases scanned
  · cases scanned
    exact isPrintable_refused console 1 _
  · dsimp only at scanned
    split at scanned
    · cases scanned
      exact isPrintable_refused console 1 _
    · cases scanned
    · exact isPrintable_scanChosen console scanned

theorem isPrintable_withSettings {fs : Files.FileSystem} {env : Environment}
    {command : Settings → Except Failure Outcome} {outcome : Outcome}
    (printable : ∀ settings, command settings = .ok outcome → outcome.IsPrintable console)
    (answers : withSettings fs env command = .ok outcome) : outcome.IsPrintable console := by
  unfold withSettings at answers
  split at answers
  · next settings _ => exact printable settings answers
  · split at answers
    · cases answers
      exact isPrintable_refused console 1 _
    · cases answers

/-- Errors and warnings, the lines of a report, the line on an unreadable file and the list of files can be
printed on every console, whatever the texts in them are. So every scan that comes to an outcome is shown. -/
theorem scan_lines_print [Encoding.Charts] :
    (∀ message, console.Prints (Display.errorLine message) ∧ console.Prints (Display.warningLine message)) ∧
      (∀ report, ∀ line ∈ reportLines report, console.Prints line) ∧
      (∀ path error, console.Prints (unreadableLine path error)) ∧
      (∀ files, ∀ line ∈ fileLines files, console.Prints line) ∧
      ∀ fs env root ignore given listFiles outcome,
        (Request.scan root ignore given listFiles).run fs env = .ok outcome →
          ∃ transcript, outcome.transcript console = .ok transcript := by
  refine ⟨?_, prints_reportLines console, prints_unreadableLine console, prints_fileLines console, ?_⟩
  · intro message
    exact ⟨console.exists_errorLine message, console.exists_warningLine message⟩
  · intro fs env root ignore given listFiles outcome scanned
    apply exists_transcript
    exact isPrintable_withSettings console (fun settings => isPrintable_scanWith console) scanned

/-- Below a name that leads nowhere nothing is scanned. -/
theorem run_scan_empty (listFiles : Bool) :
    (Request.scan "[✗]".toList [] [] listFiles).run .empty [] =
      .ok (.refused 1 ("Not a directory: ".toList ++ "[✗]".toList)) := by
  have checked : (Settings.ofEnvironment []).check = .ok (Settings.ofEnvironment []) := by decide +kernel
  have missing : Files.FileSystem.empty.locate (Files.Path.ofText "[✗]".toList) = .error .notFound :=
    Files.FileSystem.locate_of_single "[✗]".toList (by decide) rfl (by decide)
  have absent : Files.FileSystem.empty.isDirectory (Files.Path.ofText "[✗]".toList) = .ok false := by
    rw [Files.FileSystem.isDirectory, missing]
    rfl
  rw [Request.run, withSettings, Settings.configure_in_empty]
  dsimp only
  rw [checked]
  dsimp only
  rw [scanWith, absent]

/-- Closing tags, lone backslashes and glyphs in brackets, where glyphs are replaced. -/
theorem scan_lines_print_brackets :
    let console : Console := ⟨"ascii".toList⟩
    let usage : Usage := ⟨"A".toList, 7, "<A>[/✗]\\".toList, some "[✓ red][/dim]".toList⟩
    let report : Report := ⟨"[✗]\\[/bold]".toList, none, [], [("[/A".toList, [usage])]⟩
    let line := "    Line ".toList ++ Text.ofNat 7 ++ ": ".toList ++ escape usage.text
    line ∈ reportLines report ∧ console.Prints line ∧
      ∃ outcome, (Request.scan "[✗]".toList [] [] true).run .empty [] = .ok outcome ∧
        ∃ transcript, outcome.transcript console = .ok transcript := by
  intro console usage report line
  have lines := scan_lines_print console
  have member : line ∈ reportLines report := by
    simp [reportLines, componentLines, usageLines, report, line, usage]
  exact ⟨member, lines.2.1 report line member, _, run_scan_empty true,
    lines.2.2.2.2 .empty [] _ [] [] true _ (run_scan_empty true)⟩

end Reports

end TagOrigin.CommandLine
