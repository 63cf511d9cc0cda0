import EdgeHealthd.ConfigFile
import EdgeHealthd.LoggingCore

/-!
`main` of `src/main.cpp` up to the daemon: the command line, the configuration file with its
fallback, the level of the log and the check. What `--dump-config` prints is what the daemon
runs with, and starting from the printed file changes nothing.
-/

namespace EdgeHealthd

structure Args where
  configFile : String := "/etc/edge/healthd.conf"
  foreground : Bool := false
  verbose : Bool := false
  once : Bool := false
  dumpConfig : Bool := false
  help : Bool := false
  version : Bool := false
  deriving DecidableEq

namespace Args

def setFlag (args : Args) (arg : String) : Args :=
  if arg = "-h" ∨ arg = "--help" then { args with help := true }
  else if arg = "--version" then { args with version := true }
  else if arg = "-f" ∨ arg = "--foreground" then { args with foreground := true }
  else if arg = "-v" ∨ arg = "--verbose" then { args with verbose := true }
  else if arg = "--once" then { args with once := true }
  else if arg = "--dump-config" then { args with dumpConfig := true }
  else args

def takesFile (arg : String) : Bool := arg == "-c" || arg == "--config"

def parseFrom (args : Args) : List String → Args
  | [] => args
  | [arg] => args.setFlag arg
  | arg :: next :: rest =>
      if takesFile arg then parseFrom { args with configFile := next } rest
      else parseFrom (args.setFlag arg) (next :: rest)

def complete : List String → Bool
  | [] => true
  | [arg] => !takesFile arg
  | arg :: next :: rest => if takesFile arg then complete rest else complete (next :: rest)

theorem parseFrom_cons (args : Args) {arg : String} (flag : takesFile arg = false)
    (rest : List String) : args.parseFrom (arg :: rest) = (args.setFlag arg).parseFrom rest := by
  cases rest with
  | nil => rfl
  | cons next rest => simp [parseFrom, flag]

theorem parseFrom_append (args : Args) {first : List String} (whole : complete first = true)
    (second : List String) :
    args.parseFrom (first ++ second) = (args.parseFrom first).parseFrom second := by
  induction first using complete.induct generalizing args with
  | case1 => rfl
  | case2 arg =>
      have flag : takesFile arg = false := by simpa [complete] using whole
      exact parseFrom_cons args flag second
  | case3 arg next rest file ih =>
      rw [complete, if_pos file] at whole
      simp only [List.cons_append, parseFrom, if_pos file]
      exact ih _ whole
  | case4 arg next rest flag ih =>
      rw [complete, if_neg flag] at whole
      simp only [List.cons_append, parseFrom, if_neg flag]
      exact ih _ whole

theorem setFlag_of_takesFile (args : Args) {arg : String} (file : takesFile arg = true) :
    args.setFlag arg = args := by
  simp only [takesFile, Bool.or_eq_true, beq_iff_eq] at file
  rcases file with rfl | rfl <;> rfl

/-- Behind a last `-c` the flag would be a file name. -/
theorem complete_of_dumpConfig (args : Args) {first : List String}
    (running : (args.parseFrom first).dumpConfig = false)
    (dumps : (args.parseFrom (first ++ ["--dump-config"])).dumpConfig = true) :
    complete first = true := by
  induction first using complete.induct generalizing args with
  | case1 => rfl
  | case2 arg =>
      by_contra incomplete
      have file : takesFile arg = true := by simpa [complete] using incomplete
      have same : (args.parseFrom ([arg] ++ ["--dump-config"])).dumpConfig = args.dumpConfig := by
        simp [parseFrom, file]
      have idle : (args.parseFrom [arg]).dumpConfig = args.dumpConfig :=
        congrArg Args.dumpConfig (setFlag_of_takesFile args file)
      rw [same, ← idle, running] at dumps
      cases dumps
  | case3 arg next rest file ih =>
      rw [complete, if_pos file]
      simp only [List.cons_append, parseFrom, if_pos file] at running dumps
      exact ih _ running dumps
  | case4 arg next rest flag ih =>
      rw [complete, if_neg flag]
      simp only [List.cons_append, parseFrom, if_neg flag] at running dumps
      exact ih _ running dumps

end Args

def parseArgs (argv : List String) : Args := Args.parseFrom {} argv

inductive ConfigWarning where
  | failedToLoad (file : String)
  | notFound (file : String)
  deriving DecidableEq

inductive Started where
  | usage
  | version
  | configurationError (message : String)
  | dumped (document : Json)
  | daemon (config : Config) (level : Log.Level) (once : Bool)

structure Launch where
  warning : Option ConfigWarning
  started : Started

def loadConfig (file : String) (content : StateFile) : Config × Option ConfigWarning :=
  match content with
  | .missing => ({}, some (.notFound file))
  | .corrupt | .json _ =>
      match Config.load content with
      | .ok config => (config, none)
      | .error _ => ({}, some (.failedToLoad file))

def overrideLevel (verbose : Bool) (config : Config) : Config :=
  if verbose then { config with logLevel := "debug" } else config

def startWith (dumpConfig once : Bool) (config : Config) : Started :=
  match config.validate with
  | some error => .configurationError error
  | none =>
      if dumpConfig then .dumped config.toJson
      else .daemon config (Log.parseLogLevel config.logLevel) once

def Args.launch (args : Args) (files : String → StateFile) : Launch :=
  if args.help then ⟨none, .usage⟩
  else if args.version then ⟨none, .version⟩
  else
    let (config, warning) := loadConfig args.configFile (files args.configFile)
    ⟨warning, startWith args.dumpConfig args.once (overrideLevel args.verbose config)⟩

def launch (argv : List String) (files : String → StateFile) : Launch :=
  (parseArgs argv).launch files

section Restart

variable {config : Config} {document : Json}

theorem loadConfig_representable (file : String) {content : StateFile}
    (parsed : ∀ document, content = .json document → document.Parsed) :
    (loadConfig file content).1.Representable := by
  cases content with
  | missing | corrupt => exact representable_defaults
  | json document =>
      simp only [loadConfig]
      cases loaded : Config.load (.json document) with
      | ok config => exact load_representable (parsed document rfl) loaded
      | error _ => exact representable_defaults

theorem loadConfig_toJson (file : String) (representable : config.Representable) :
    loadConfig file (.json config.toJson) = (config, none) := by
  simp only [loadConfig, load_toJson representable]

theorem overrideLevel_representable (verbose : Bool) (representable : config.Representable) :
    (overrideLevel verbose config).Representable := by
  unfold overrideLevel
  split
  · have debug : normalizeLogLevel "debug" = "debug" := by decide
    exact { representable with logLevel := debug }
  · exact representable

theorem overrideLevel_idem (verbose : Bool) (config : Config) :
    overrideLevel verbose (overrideLevel verbose config) = overrideLevel verbose config := by
  unfold overrideLevel
  split <;> rfl

theorem startWith_dumped {once : Bool} (dumped : startWith true once config = .dumped document) :
    config.validate = none ∧ document = config.toJson := by
  unfold startWith at dumped
  split at dumped
  · cases dumped
  · rename_i valid
    exact ⟨valid, (Started.dumped.inj dumped).symm⟩

theorem startWith_daemon (valid : config.validate = none) (once : Bool) :
    startWith false once config = .daemon config (Log.parseLogLevel config.logLevel) once := by
  simp [startWith, valid]

theorem launch_dumped {args : Args} {files : String → StateFile}
    {warning : Option ConfigWarning} (dumped : args.launch files = ⟨warning, .dumped document⟩) :
    args.help = false ∧ args.version = false ∧ args.dumpConfig = true := by
  unfold Args.launch at dumped
  have printed := congrArg Launch.started dumped
  cases help : args.help with
  | true => simp [help] at printed
  | false =>
      cases version : args.version with
      | true => simp [help, version] at printed
      | false =>
          refine ⟨rfl, rfl, ?_⟩
          by_contra runs
          simp only [help, version, startWith, runs, if_false, Bool.false_eq_true] at printed
          split at printed <;> cases printed

end Restart

/-- For every command line and every set of files: what `--dump-config` prints is the checked
configuration the daemon starts with otherwise, and given back as the file it makes the daemon
start with the same configuration, level and mode, without a warning. -/
theorem dump_config_restarts (argv : List String)
    (running : (parseArgs argv).dumpConfig = false) (files : String → StateFile)
    (parsed : ∀ file document, files file = .json document → document.Parsed)
    (warning : Option ConfigWarning) (document : Json)
    (dumped : launch (argv ++ ["--dump-config"]) files = ⟨warning, .dumped document⟩)
    (path : String) :
    ∃ config level once, config.validate = none ∧
      launch argv files = ⟨warning, .daemon config level once⟩ ∧
      launch (argv ++ ["-c", path]) (fun file => if file = path then .json document else files file) =
        ⟨none, .daemon config level once⟩ := by
  have whole := Args.complete_of_dumpConfig {} running (launch_dumped dumped).2.2
  have dumps : parseArgs (argv ++ ["--dump-config"]) =
      { parseArgs argv with dumpConfig := true } := Args.parseFrom_append {} whole _
  have redirects : parseArgs (argv ++ ["-c", path]) = { parseArgs argv with configFile := path } :=
    Args.parseFrom_append {} whole _
  simp only [launch, dumps, redirects] at dumped ⊢
  generalize parseArgs argv = args at dumped running ⊢
  obtain ⟨help, version, _⟩ := launch_dumped dumped
  dsimp only at help version
  have representable := overrideLevel_representable args.verbose
    (loadConfig_representable args.configFile fun document => parsed args.configFile document)
  simp only [Args.launch, help, version, running, if_true, if_false, Bool.false_eq_true] at dumped ⊢
  generalize loadConfig args.configFile (files args.configFile) = loaded at dumped representable ⊢
  obtain ⟨rfl, printed⟩ := Launch.mk.inj dumped
  obtain ⟨valid, rfl⟩ := startWith_dumped printed
  refine ⟨_, _, args.once, valid, congrArg _ (startWith_daemon valid args.once), ?_⟩
  rw [loadConfig_toJson path representable, overrideLevel_idem, startWith_daemon valid]

def noFiles (_ : String) : StateFile := .missing

theorem default_config_restarts :
    ∃ document, launch ["-v", "--once", "--dump-config"] noFiles =
        ⟨some (.notFound "/etc/edge/healthd.conf"), .dumped document⟩ ∧
      ∃ config level once, config.validate = none ∧
        launch ["-v", "--once", "-c", "/etc/edge/dumped.conf"]
            (fun file => if file = "/etc/edge/dumped.conf" then .json document else noFiles file) =
          ⟨none, .daemon config level once⟩ := by
  refine ⟨_, rfl, ?_⟩
  obtain ⟨config, level, once, valid, _, again⟩ := dump_config_restarts ["-v", "--once"]
    (by decide) noFiles (fun _ _ found => by cases found) _ _ rfl "/etc/edge/dumped.conf"
  exact ⟨config, level, once, valid, again⟩

end EdgeHealthd
