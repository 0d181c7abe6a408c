import TagOrigin.CommandLine.Arguments

/-!
Options of a command line. Options in front are read on their own: what stands behind them is read as if it
stood alone, and behind the end of the options everything is positional.
-/
namespace TagOrigin.CommandLine

/-- Arguments that are options of a command, with the switches that they amount to. -/
inductive Options (command : Command) : List Text → List Switch → Prop where
  | none : Options command [] []
  | complete {arg : Text} {given switches : List Switch} {options : List Text}
      (inside : arg ≠ "--".toList) (begins : isSwitch arg)
      (reads : readSwitches command arg = some (.complete given))
      (more : Options command options switches) : Options command (arg :: options) (given ++ switches)
  | valued {arg value : Text} {given switches : List Switch} {options : List Text}
      (inside : arg ≠ "--".toList) (begins : isSwitch arg)
      (reads : readSwitches command arg = some (.needsValue given))
      (more : Options command options switches) :
      Options command (arg :: value :: options) (given ++ .extension value :: switches)

section Options

variable {command : Command} {options : List Text} {switches : List Switch}

theorem Options.separate_append (given : Options command options switches) (rest : List Text) :
    separate command (options ++ rest) =
      (separate command rest).map fun (more, positional) => (switches ++ more, positional) := by
  induction given with
  | none =>
    rw [List.nil_append]
    cases separate command rest with
    | none => rfl
    | some entry => rfl
  | complete inside begins reads _ ih =>
    rw [List.cons_append, separate, if_neg inside, if_pos begins, reads]
    simp only [ih, Option.map_map]
    congr 1
    funext entry
    simp
  | valued inside begins reads _ ih =>
    rw [List.cons_append, List.cons_append, separate, if_neg inside, if_pos begins, reads]
    simp only [ih, Option.map_map]
    congr 1
    funext entry
    simp

/-- Behind the end of the options everything is positional. -/
theorem Options.separate_positional (given : Options command options switches)
    (positional : List Text) :
    separate command (options ++ "--".toList :: positional) = some (switches, positional) := by
  rw [given.separate_append, separate, if_pos rfl, Option.map_some]
  simp only [List.append_nil]

/-- A scan takes a root and, if it is given, a list of patterns. -/
def scanRequest (switches : List Switch) : List Text → Option Request
  | [root] => some (.scan root [] (extensionsIn switches) (listFilesIn switches))
  | [root, ignore] => some (.scan root ignore (extensionsIn switches) (listFilesIn switches))
  | _ => none

theorem request_scan {args positional : List Text}
    (reads : separate .scan args = some (switches, positional)) :
    Command.scan.request args = scanRequest switches positional := by
  rw [Command.request, reads]
  match positional with
  | [] => rfl
  | [_] => rfl
  | [_, _] => rfl
  | _ :: _ :: _ :: _ => rfl

theorem request_scan_eq_none {args : List Text} (refused : separate .scan args = none) :
    Command.scan.request args = none := by
  rw [Command.request, refused]

end Options

/-- Extensions, each behind a short option of its own. -/
def extensionOptions (extensions : List Text) : List Text :=
  extensions.flatMap fun ext => ["-e".toList, ext]

theorem options_extensionOptions (extensions : List Text) :
    Options .scan (extensionOptions extensions) (extensions.map .extension) := by
  induction extensions with
  | nil => exact .none
  | cons ext extensions ih =>
    have reads : readSwitches .scan "-e".toList = some (.needsValue []) := rfl
    exact .valued (by decide) (by decide) reads ih

theorem extensionsIn_append (switches more : List Switch) :
    extensionsIn (switches ++ more) = extensionsIn switches ++ extensionsIn more :=
  List.filterMap_append

theorem extensionsIn_map_extension (extensions : List Text) :
    extensionsIn (extensions.map .extension) = extensions := by
  rw [extensionsIn, List.filterMap_map]
  exact List.filterMap_some

/-- Extensions do not count for the listing of files. -/
theorem listFilesIn_map_extension_append (extensions : List Text) (switches : List Switch) :
    listFilesIn (extensions.map .extension ++ switches) = listFilesIn switches := by
  induction extensions with
  | nil => rfl
  | cons _ extensions ih => exact ih

end TagOrigin.CommandLine
