import TagOrigin.CommandLine.Run
import TagOrigin.Proofs.Display.Console
import TagOrigin.Proofs.Display.Crossing

/-!
The verdict of a comparison as exit code. An invalid pattern is always reported. Otherwise path and
pattern are escaped one by one and shown in one line, and the verdict is given exactly if no tag begins
in the path and ends in the pattern that cannot be applied there or asks for a style that cannot be read.
-/
namespace TagOrigin.CommandLine

open Display (Console)
open Display.Markup

section Lines

variable {fs : Files.FileSystem} {env : Environment} {console : Console} {args : List Text}
  {request : Request} {code : Nat} {stream : Stream} {markup : Text}

/-- A request that answers one line finishes if the line can be printed. -/
theorem exists_finished_of_line [Encoding.Charts]
    (asked : Request.ofArguments args = some request)
    (answers : request.run fs env = .ok ⟨code, [⟨stream, .line markup⟩]⟩)
    (printed : ∃ shown, console.line [.markup markup] = .ok shown) :
    ∃ transcript, run fs env console args = .finished transcript ∧ transcript.exitCode = code := by
  obtain ⟨shown, line⟩ := printed
  have written : Outcome.transcript console ⟨code, [⟨stream, .line markup⟩]⟩ =
      .ok { exitCode := code, stdout := onStream .out [(stream, shown)],
            stderr := onStream .err [(stream, shown)] } := by
    simp [Outcome.transcript, Message.written, line, Except.map, bind, Except.bind, pure, Except.pure]
  simp only [run, asked, answers, written]
  exact ⟨_, rfl, rfl⟩

/-- It fails if the line is no markup. -/
theorem run_eq_failed_of_line [Encoding.Charts] {fault : Fault}
    (asked : Request.ofArguments args = some request)
    (answers : request.run fs env = .ok ⟨code, [⟨stream, .line markup⟩]⟩)
    (refused : console.line [.markup markup] = .error fault) :
    run fs env console args = .failed (.markup fault) := by
  have written : Outcome.transcript console ⟨code, [⟨stream, .line markup⟩]⟩ =
      .error (.markup fault) := by
    simp [Outcome.transcript, Message.written, refused, Except.map, bind, Except.bind]
  simp only [run, asked, answers, written]

end Lines

/-- The sign of a verdict, and the words between path and pattern. -/
def verdictSign (matched : Bool) : Text :=
  if matched then "[green]✓[/green] ".toList else "[red]✗[/red] ".toList

def verdictWords (matched : Bool) : Text :=
  if matched then " matches ".toList else " does not match ".toList

/-- The line of a verdict up to the pattern. -/
def verdictFront (matched : Bool) (path : Text) : Text :=
  verdictSign matched ++ (escape path ++ verdictWords matched)

section Verdicts

variable {fs : Files.FileSystem} {env : Environment} {args : List Text}
  {path pattern : Text} {matched : Bool}

theorem verdict_of_ok (compared : Glob.pathMatches path pattern = .ok matched) :
    verdict path pattern = ⟨if matched then 0 else 1,
      [⟨.out, .line (verdictFront matched path ++ escape pattern)⟩]⟩ := by
  rw [verdict, compared]
  cases matched with
  | true => simp [say, verdictFront, verdictSign, verdictWords]
  | false => simp [say, verdictFront, verdictSign, verdictWords]

variable (console : Console)

theorem isClosed_verdictSign (matched : Bool) : IsClosed (console.present (verdictSign matched)) := by
  cases matched with
  | true => exact console.present_cases (by decide +kernel) (by decide +kernel)
  | false => exact console.present_cases (by decide +kernel) (by decide +kernel)

theorem present_verdictWords (matched : Bool) :
    console.present (verdictWords matched) = verdictWords matched := by
  cases matched with
  | true => exact console.present_eq_self (by decide)
  | false => exact console.present_eq_self (by decide)

theorem brackets_verdictFront (matched : Bool) (path : Text) :
    brackets (console.present (verdictFront matched path)) =
      brackets (console.present (verdictSign matched)) ++ brackets (console.present (escape path)) := by
  have without : ']' ∉ verdictWords matched := by revert matched; decide
  rw [verdictFront, console.present_append, (isClosed_verdictSign console matched).brackets_append,
    console.present_append, present_verdictWords, brackets_append_of_not_mem without]

/-- The tags that are open behind the path are those that the path itself opens. -/
theorem openAfter_verdictFront (matched : Bool) (path : Text) :
    openAfter [] (brackets (console.present (verdictFront matched path))) =
      openAfter [] (brackets (console.present (escape path))) := by
  rw [brackets_verdictFront, openAfter_append, (isClosed_verdictSign console matched).tags,
    Option.bind_some]

theorem resolves_verdictFront (matched : Bool) (path : Text) :
    ∀ b ∈ brackets (console.present (verdictFront matched path)), b.Resolves := by
  rw [brackets_verdictFront, List.forall_mem_append]
  exact ⟨(isClosed_verdictSign console matched).resolves, console.resolves_escape path⟩

theorem getLast?_verdictFront (matched : Bool) (path : Text) :
    (console.present (verdictFront matched path)).getLast? ≠ some '\\' := by
  have blank : (verdictWords matched).getLast? = some ' ' := by revert matched; decide
  have last : (console.present (verdictFront matched path)).getLast? = some ' ' := by
    rw [verdictFront, console.present_append, console.present_append, present_verdictWords,
      List.getLast?_append, List.getLast?_append, blank]
    rfl
  rw [last]
  decide

/-- The line of a verdict is printed exactly if no tag breaks it. -/
theorem exists_verdictLine_iff (matched : Bool) (path pattern : Text) :
    (∃ shown, console.line [.markup (verdictFront matched path ++ escape pattern)] = .ok shown) ↔
      ¬ ∃ b, Breaks (console.present (verdictFront matched path)) (console.present (escape pattern)) b := by
  obtain ⟨stack, opened⟩ := console.exists_openAfter_escape [] path
  have begun := (openAfter_verdictFront console matched path).trans opened
  rw [console.exists_line_iff, console.present_append]
  exact exists_resolve_append_iff (getLast?_verdictFront console matched path) begun
    (fun stack => (console.exists_openAfter_escape stack pattern).imp' (· ++ stack) fun _ => id)
    (resolves_verdictFront console matched path) (console.resolves_escape pattern)

/-- Where glyphs are shown no tag is open behind the path, so any tag that closes one breaks the line, and the
style of any other reaches to the end. -/
theorem breaks_verdictFront_iff (shows : console.showsGlyphs) {b : Bracket} :
    Breaks (console.present (verdictFront matched path)) (console.present (escape pattern)) b ↔
      Crosses (console.present (verdictFront matched path)) (console.present (escape pattern)) b ∧
        b.IsLive ∧ (b.body.head? = some '/' ∨ ¬ Display.Style.Resolves (b.body.takeWhile (· ≠ '=')) ∨
          (∃ tag ∈ opened? b.body, ¬ Display.Style.Resolves tag.style) ∧
            IsLookedUp (console.present (verdictFront matched path)) (console.present (escape pattern))) := by
  have begun := (openAfter_verdictFront console matched path).trans
    (console.openAfter_escape_of_showsGlyphs shows [] path)
  have plain : ∀ b ∈ brackets (console.present (escape pattern)), ¬ b.IsLive :=
    fun b member live => (console.fromGlyph_of_mem_brackets pattern b member live).1 shows
  have refuses : Refuses (console.present (verdictFront matched path)) b ↔
      b.body.head? = some '/' ∨ ¬ Display.Style.Resolves (b.body.takeWhile (· ≠ '=')) := by
    rw [Refuses, begun, ← applyTag_nil_eq_error_iff 0]
    simp
  rw [← or_assoc, ← refuses]
  constructor
  · rintro ⟨crosses, live, fails⟩
    rw [spoils_iff crosses live begun (resolves_verdictFront console matched path) plain] at fails
    exact ⟨crosses, live, fails⟩
  · rintro ⟨crosses, live, fails⟩
    rw [← spoils_iff crosses live begun (resolves_verdictFront console matched path) plain] at fails
    exact ⟨crosses, live, fails⟩

/-- The arguments of a comparison behind the end of the options. -/
theorem ofArguments_compare (path pattern : Text) :
    Request.ofArguments ["match".toList, "--".toList, path, pattern] =
      some (.compare path pattern) := rfl

/-- An invalid pattern ends a comparison with 2 on every console. Otherwise the verdict is the exit code
exactly if no tag breaks the line; else the line fails as markup. Where glyphs are shown, a tag breaks it
if it begins in the path, ends in the pattern and closes a tag, or if its name has a colour with an amount
that cannot be read, or the style that it asks for has one and is looked up. -/
theorem compare_returns_iff [Encoding.Charts]
    (asked : Request.ofArguments args = some (.compare path pattern)) :
    (∀ fault, Glob.pathMatches path pattern = .error fault →
        ∃ transcript, run fs env console args = .finished transcript ∧ transcript.exitCode = 2) ∧
      ∀ matched, Glob.pathMatches path pattern = .ok matched →
        let front := console.present (verdictFront matched path)
        let rest := console.present (escape pattern)
        ((¬ ∃ b, Breaks front rest b) → ∃ transcript, run fs env console args = .finished transcript ∧
            transcript.exitCode = if matched then 0 else 1) ∧
          ((∃ b, Breaks front rest b) → ∃ fault, run fs env console args = .failed (.markup fault)) ∧
          (console.showsGlyphs → ∀ b, Breaks front rest b ↔ Crosses front rest b ∧ b.IsLive ∧
            (b.body.head? = some '/' ∨ ¬ Display.Style.Resolves (b.body.takeWhile (· ≠ '=')) ∨
              (∃ tag ∈ opened? b.body, ¬ Display.Style.Resolves tag.style) ∧ IsLookedUp front rest)) := by
  refine ⟨?_, ?_⟩
  · intro fault invalid
    have answers : (Request.compare path pattern).run fs env = .ok (verdict path pattern) := rfl
    rw [verdict, invalid] at answers
    exact exists_finished_of_line asked answers (console.exists_errorLine _)
  · intro matched compared front rest
    have answers : (Request.compare path pattern).run fs env = .ok (verdict path pattern) := rfl
    rw [verdict_of_ok compared] at answers
    have printed := exists_verdictLine_iff console matched path pattern
    refine ⟨?_, ?_, ?_⟩
    · intro unbroken
      exact exists_finished_of_line asked answers (printed.2 unbroken)
    · intro broken
      cases line : console.line [.markup (verdictFront matched path ++ escape pattern)] with
      | ok shown => exact absurd broken (printed.1 ⟨shown, line⟩)
      | error fault => exact ⟨fault, run_eq_failed_of_line asked answers line⟩
    · intro shows b
      exact breaks_verdictFront_iff console shows

/-- A console that shows glyphs. -/
def unicodeConsole : Console := ⟨"utf-8".toList⟩

/-- A path that closes no tag of its own and leaves a bracket open, and a pattern with a tag. -/
theorem compare_returns_iff_bracketed :
    let args := ["match".toList, "--".toList, "src/[/id]/[b.tsx".toList, "src/[/id]/*".toList]
    Request.ofArguments args = some (.compare "src/[/id]/[b.tsx".toList "src/[/id]/*".toList) ∧
      Glob.pathMatches "src/[/id]/[b.tsx".toList "src/[/id]/*".toList = .ok true ∧
      ∃ transcript, run .empty [] unicodeConsole args = .finished transcript ∧
        transcript.exitCode = 0 := by
  have asked := ofArguments_compare "src/[/id]/[b.tsx".toList "src/[/id]/*".toList
  have compared : Glob.pathMatches "src/[/id]/[b.tsx".toList "src/[/id]/*".toList = .ok true := by
    decide +kernel
  have first : firstBracket? (unicodeConsole.present (escape "src/[/id]/*".toList)) = some '[' := by
    cbv
  have unbroken : ¬ ∃ b, Breaks (unicodeConsole.present (verdictFront true "src/[/id]/[b.tsx".toList))
      (unicodeConsole.present (escape "src/[/id]/*".toList)) b := by
    intro broken
    obtain ⟨b, breaks⟩ := broken
    cases first.symm.trans breaks.crosses.first
  exact ⟨asked, compared, ((compare_returns_iff unicodeConsole asked).2 true compared).1 unbroken⟩

/-- A bracket of the path and one of the pattern make a closing tag in the line: no verdict is given. -/
theorem compare_fails_at_joined_brackets :
    let args := ["match".toList, "[/x".toList, "]".toList]
    Request.ofArguments args = some (.compare "[/x".toList "]".toList) ∧
      Glob.pathMatches "[/x".toList "]".toList = .ok false ∧
      run .empty [] unicodeConsole args =
        .failed (.markup (.unmatched "/x does not match ".toList 13)) := by
  have asked : Request.ofArguments ["match".toList, "[/x".toList, "]".toList] =
      some (.compare "[/x".toList "]".toList) := rfl
  have compared : Glob.pathMatches "[/x".toList "]".toList = .ok false := by decide +kernel
  have answers : (Request.compare "[/x".toList "]".toList).run .empty [] =
      .ok (verdict "[/x".toList "]".toList) := rfl
  rw [verdict_of_ok compared] at answers
  have line : verdictFront false "[/x".toList ++ escape "]".toList =
      "[red]✗[/red] [/x does not match ]".toList := by cbv
  have shown : unicodeConsole.present "[red]✗[/red] [/x does not match ]".toList =
      "[red]✗[/red] [/x does not match ]".toList := if_pos (by decide)
  have refused : styled "[red]✗[/red] [/x does not match ]".toList =
      .error (.unmatched "/x does not match ".toList 13) := by decide +kernel
  refine ⟨asked, compared, run_eq_failed_of_line asked answers (unicodeConsole.line_eq_error ?_)⟩
  rw [line, shown, refused]

/-- So does a tag whose style lacks the amounts of a colour, although its name can be read. -/
example : run .empty [] unicodeConsole ["match".toList, "[bold=on rgb(,,)".toList, "]".toList] =
    .failed (.markup .missingAmount) := by decide +kernel

end Verdicts

end TagOrigin.CommandLine
