import TagOrigin.CommandLine.Run
import TagOrigin.Proofs.CommandLine.Options
import TagOrigin.Proofs.Environment.Loading
import TagOrigin.Proofs.Filter.Lists
import TagOrigin.Proofs.Report

/-!
Two routes to one scan. A scan takes its encoding from the settings, and its extensions and patterns from
the settings or the command line. Scans that agree on them and on what the check of the settings sees
end alike. Hence patterns may be moved between the variable and the argument, and extensions
between the variable and the options, without a variables file in the way.
-/
namespace TagOrigin.CommandLine

open Display (Console)
open Environment (LacksFile)
open Settings (ofEnvironment isDotted)

/-- The extensions of a scan. -/
def chosenExtensions (settings : Settings) (given : List Text) : List Text :=
  if given = [] then settings.extensions else given.map normaliseExtension

/-- Two pairs of settings and arguments that a scan cannot tell apart. -/
structure Alike (settings settings' : Settings) (ignore ignore' : Text) (given given' : List Text) :
    Prop where
  encoding : settings.encoding = settings'.encoding
  undotted : (settings.extensions.filter fun ext => !isDotted ext) =
    settings'.extensions.filter fun ext => !isDotted ext
  extensions : chosenExtensions settings given = chosenExtensions settings' given'
  patterns : settings.ignorePatterns ++ parseList ignore = settings'.ignorePatterns ++ parseList ignore'

section Runs

variable {fs : Files.FileSystem} {env env' : Environment} {settings settings' : Settings}
  {root ignore ignore' : Text} {given given' : List Text} {listFiles : Bool}

theorem Alike.scanWith_eq [Encoding.Charts]
    (alike : Alike settings settings' ignore ignore' given given') :
    scanWith fs settings root ignore given listFiles =
      scanWith fs settings' root ignore' given' listFiles := by
  have extensions := alike.extensions
  rw [chosenExtensions, chosenExtensions] at extensions
  simp only [scanWith, extensions, alike.patterns, alike.encoding]

/-- The check passes both settings or has the same fault to find with both. -/
theorem Alike.check_cases (alike : Alike settings settings' ignore ignore' given given') :
    (settings.check = .ok settings ∧ settings'.check = .ok settings') ∨
      ∃ failure, settings.check = .error failure ∧ settings'.check = .error failure := by
  rw [Settings.check, Settings.check, alike.undotted, alike.encoding]
  split
  · split
    · exact .inl ⟨rfl, rfl⟩
    · exact .inr ⟨_, rfl, rfl⟩
  · exact .inr ⟨_, rfl, rfl⟩

theorem Alike.run_eq [Encoding.Charts] (absent : LacksFile fs Settings.defaultFile)
    (alike : Alike (ofEnvironment env) (ofEnvironment env') ignore ignore' given given') :
    (Request.scan root ignore given listFiles).run fs env =
      (Request.scan root ignore' given' listFiles).run fs env' := by
  have configured (env : Environment) : Settings.configure fs none env =
      (env, (ofEnvironment env).check) :=
    Settings.configure_of_empty (Environment.variablesText_of_lacksFile rfl absent)
  rw [Request.run, Request.run, withSettings, withSettings, configured, configured]
  rcases alike.check_cases with ⟨passed, passed'⟩ | ⟨failure, failed, failed'⟩
  · rw [passed, passed']
    exact alike.scanWith_eq
  · rw [failed, failed']

/-- Command lines end alike if they are read alike and their requests run alike. -/
theorem run_congr [Encoding.Charts] {console : Console} {args args' : List Text}
    (same : (Request.ofArguments args).map (·.run fs env) =
      (Request.ofArguments args').map (·.run fs env')) :
    run fs env console args = run fs env' console args' := by
  cases read : Request.ofArguments args with
  | none =>
    rw [read, Option.map_none, eq_comm, Option.map_eq_none_iff] at same
    rw [run, run, read, same]
  | some request =>
    rw [read, Option.map_some, eq_comm, Option.map_eq_some_iff] at same
    obtain ⟨request', read', answers⟩ := same
    simp only [run, read, read', answers]

end Runs

theorem ofArguments_scan (args : List Text) :
    Request.ofArguments ("scan".toList :: args) = Command.scan.request args := rfl

section Moves

/-- Patterns of the variable come before those of the argument. -/
theorem alike_of_patterns (env : Environment) (a b : Text) (given : List Text) :
    Alike (ofEnvironment (env.put "TAGSCOPE_IGNORE".toList a))
      (ofEnvironment (env.erase "TAGSCOPE_IGNORE".toList)) b (a ++ ',' :: b) given given := by
  have encodings := Register.get?_put_eq_get?_erase a env
    (show "TAGSCOPE_ENCODING".toList ≠ "TAGSCOPE_IGNORE".toList by decide)
  have extensions := Register.get?_put_eq_get?_erase a env
    (show "TAGSCOPE_EXTENSIONS".toList ≠ "TAGSCOPE_IGNORE".toList by decide)
  exact {
    encoding := by rw [ofEnvironment, ofEnvironment, encodings]
    undotted := by rw [ofEnvironment, ofEnvironment, extensions]
    extensions := by rw [chosenExtensions, chosenExtensions, ofEnvironment, ofEnvironment, extensions]
    patterns := by
      rw [ofEnvironment, ofEnvironment, Register.get?_put_self, Register.get?_erase_self,
        parseList_append]
      rfl }

/-- Extensions with their points replace the default ones either way. -/
theorem alike_of_extensions (env : Environment) (ignore : Text) {given : List Text}
    (nonempty : given ≠ []) (listable : ∀ ext ∈ given, IsListable ext) :
    Alike (ofEnvironment (env.erase "TAGSCOPE_EXTENSIONS".toList))
      (ofEnvironment (env.put "TAGSCOPE_EXTENSIONS".toList (extensionList given)))
      ignore ignore given [] := by
  have set : (ofEnvironment (env.put "TAGSCOPE_EXTENSIONS".toList (extensionList given))).extensions =
      given.map normaliseExtension := by
    rw [ofEnvironment, Register.get?_put_self,
      Settings.extensionsOf_some (extensionList_ne_nil listable nonempty),
      parseList_extensionList listable]
  have unset : (ofEnvironment (env.erase "TAGSCOPE_EXTENSIONS".toList)).extensions =
      defaultExtensions := by
    rw [ofEnvironment, Register.get?_erase_self]
    rfl
  have dotted : ((given.map normaliseExtension).filter fun ext => !isDotted ext) = [] :=
    List.filter_eq_nil_iff.2 (List.forall_mem_map.2 fun ext _ => by
      simp [isDotted_normaliseExtension])
  have encodings := Register.get?_put_eq_get?_erase (extensionList given) env
    (show "TAGSCOPE_ENCODING".toList ≠ "TAGSCOPE_EXTENSIONS".toList by decide)
  have patterns := Register.get?_put_eq_get?_erase (extensionList given) env
    (show "TAGSCOPE_IGNORE".toList ≠ "TAGSCOPE_EXTENSIONS".toList by decide)
  exact {
    encoding := by rw [ofEnvironment, ofEnvironment, encodings]
    undotted := by
      rw [set, unset, dotted]
      decide
    extensions := by rw [chosenExtensions, chosenExtensions, if_neg nonempty, if_pos rfl, set]
    patterns := by rw [ofEnvironment, ofEnvironment, patterns] }

variable {fs : Files.FileSystem} (env : Environment) (console : Console)

/-- Extensions may be given by any options, and stand anywhere among them. -/
theorem run_of_separate [Encoding.Charts] (absent : LacksFile fs Settings.defaultFile) {args plain : List Text}
    {switches others : List Switch} {positional : List Text}
    (reads : separate .scan args = some (switches, positional))
    (readsPlain : separate .scan plain = some (others, positional))
    (bare : extensionsIn others = []) (listing : listFilesIn switches = listFilesIn others)
    (nonempty : extensionsIn switches ≠ [])
    (listable : ∀ ext ∈ extensionsIn switches, IsListable ext) :
    run fs (env.erase "TAGSCOPE_EXTENSIONS".toList) console ("scan".toList :: args) =
      run fs (env.put "TAGSCOPE_EXTENSIONS".toList (extensionList (extensionsIn switches))) console
        ("scan".toList :: plain) := by
  have alike (ignore : Text) := alike_of_extensions env ignore nonempty listable
  apply run_congr
  rw [ofArguments_scan, ofArguments_scan, request_scan reads, request_scan readsPlain]
  match positional with
  | [] => rfl
  | [root] =>
    rw [scanRequest, scanRequest, bare, listing]
    exact congrArg _ ((alike []).run_eq absent)
  | [root, ignore] =>
    rw [scanRequest, scanRequest, bare, listing]
    exact congrArg _ ((alike ignore).run_eq absent)
  | _ :: _ :: _ :: _ => rfl

/-- Without a variables file it makes no difference whether patterns or extensions are given by a variable
or on the command line. -/
theorem scan_routes_agree [Encoding.Charts] (absent : LacksFile fs Settings.defaultFile) :
    (∀ options switches root a b, Options .scan options switches →
        run fs (env.put "TAGSCOPE_IGNORE".toList a) console
            ("scan".toList :: options ++ ["--".toList, root, b]) =
          run fs (env.erase "TAGSCOPE_IGNORE".toList) console
            ("scan".toList :: options ++ ["--".toList, root, a ++ ',' :: b])) ∧
      (∀ given rest, given ≠ [] → (∀ ext ∈ given, IsListable ext) →
        (∀ switches positional, separate .scan rest = some (switches, positional) →
          extensionsIn switches = []) →
        run fs (env.erase "TAGSCOPE_EXTENSIONS".toList) console
            ("scan".toList :: extensionOptions given ++ rest) =
          run fs (env.put "TAGSCOPE_EXTENSIONS".toList (extensionList given)) console
            ("scan".toList :: rest)) ∧
      ∀ args plain switches others positional, separate .scan args = some (switches, positional) →
        separate .scan plain = some (others, positional) → extensionsIn others = [] →
        listFilesIn switches = listFilesIn others → extensionsIn switches ≠ [] →
        (∀ ext ∈ extensionsIn switches, IsListable ext) →
        run fs (env.erase "TAGSCOPE_EXTENSIONS".toList) console ("scan".toList :: args) =
          run fs (env.put "TAGSCOPE_EXTENSIONS".toList (extensionList (extensionsIn switches))) console
            ("scan".toList :: plain) := by
  refine ⟨?_, ?_, ?_⟩
  · intro options switches root a b given
    have alike := alike_of_patterns env a b (extensionsIn switches)
    apply run_congr
    rw [List.cons_append, List.cons_append, ofArguments_scan, ofArguments_scan,
      request_scan (given.separate_positional [root, b]),
      request_scan (given.separate_positional [root, a ++ ',' :: b])]
    exact congrArg some (alike.run_eq absent)
  · intro given rest nonempty listable bare
    have reads := (options_extensionOptions given).separate_append rest
    cases separated : separate .scan rest with
    | none =>
      rw [separated] at reads
      apply run_congr
      rw [List.cons_append, ofArguments_scan, ofArguments_scan, request_scan_eq_none reads,
        request_scan_eq_none separated]
      rfl
    | some entry =>
      obtain ⟨others, positional⟩ := entry
      have bareRest := bare others positional separated
      have extensions : extensionsIn (given.map .extension ++ others) = given := by
        rw [extensionsIn_append, extensionsIn_map_extension, bareRest, List.append_nil]
      rw [separated] at reads
      have agree := run_of_separate env console absent reads separated bareRest
        (listFilesIn_map_extension_append given others)
      rw [extensions] at agree
      exact agree nonempty listable
  · intro args plain switches others positional reads readsPlain bare listing nonempty listable
    exact run_of_separate env console absent reads readsPlain bare listing nonempty listable

/-- Two patterns, and an extension without its point. -/
theorem scan_routes_agree_twoFiles :
    let run := fun env args => run markedAndUnmarked env ⟨"utf-8".toList⟩ (args.map String.toList)
    LacksFile markedAndUnmarked Settings.defaultFile ∧
      run [("TAGSCOPE_IGNORE".toList, "a.*".toList)] ["scan", "-q", "--", ".", "*.js"] =
        run [] ["scan", "-q", "--", ".", "a.*,*.js"] ∧
      run [] ["scan", "-e", "tsx", "-e", ".d.ts", ".", "--hide-files"] =
        run [("TAGSCOPE_EXTENSIONS".toList, ".tsx,.d.ts".toList)] ["scan", ".", "--hide-files"] ∧
      run [] ["scan", ".", "--ext=tsx"] =
        run [("TAGSCOPE_EXTENSIONS".toList, ".tsx".toList)] ["scan", "."] := by
  have missing : markedAndUnmarked.locate Settings.defaultFile = .error .notFound :=
    Files.FileSystem.locate_of_single ".env".toList (by decide) rfl (by decide)
  have absent : LacksFile markedAndUnmarked Settings.defaultFile := by
    intro place contents readable located
    cases missing.symm.trans located
  obtain ⟨patterns, extensions, anywhere⟩ := scan_routes_agree [] ⟨"utf-8".toList⟩ absent
  have quiet : Options .scan ["-q".toList] ([.quiet] ++ []) :=
    .complete (by decide) (by decide) rfl .none
  refine ⟨absent, ?_, ?_, ?_⟩
  · exact patterns _ _ ".".toList "a.*".toList "*.js".toList quiet
  · refine extensions ["tsx".toList, ".d.ts".toList] [".".toList, "--hide-files".toList] (by simp)
      (by decide) ?_
    intro switches positional reads
    obtain rfl := (Prod.mk.inj (Option.some.inj reads)).1
    rfl
  · exact anywhere [".".toList, "--ext=tsx".toList] [".".toList] [.extension "tsx".toList] []
      [".".toList] rfl rfl rfl rfl (by simp [extensionsIn]) (by decide)

end Moves

end TagOrigin.CommandLine
