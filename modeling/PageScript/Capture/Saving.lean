import PageScript.Capture.Router
import PageScript.FileTree

/-!
# Saving captured bodies

The router says which files to write; here they are written into the downloads directory. That a
file cannot be written is told in the log and changes nothing else.
-/

namespace PageScript

/-- Writes a file into the downloads directory. Gives the files afterwards and what the log
tells. -/
def Download.save (d : Download) (files : FileTree) (downloads : Path) :
    FileTree × List LogLine :=
  let path := downloads.join d.name
  match files.write path d.bytes with
  | .ok files => (files, [])
  | .error trouble =>
    (files, [.failure ("Failed to write capture " ++ path.text ++ ": " ++ trouble.message)])

/-- Something that observing the network leads to. -/
inductive Finding where
  | line (line : LogLine)
  | file (download : Download)

namespace Finding

/-- Puts a finding where it belongs, files into the downloads directory. Gives the files
afterwards and what the log tells. -/
def save (files : FileTree) (downloads : Path) : Finding → FileTree × List LogLine
  | .line told => (files, [told])
  | .file download => download.save files downloads

/-- Puts findings where they belong, first finding first. -/
def saveAll (files : FileTree) (downloads : Path) : List Finding → FileTree × List LogLine
  | [] => (files, [])
  | finding :: rest =>
    let (files, lines) := finding.save files downloads
    let (files, later) := saveAll files downloads rest
    (files, lines ++ later)

end Finding

namespace Router

/-- What settling a body leads to. -/
def Settled.findings (settled : Settled) : List Finding :=
  settled.log.map .line ++ settled.download.toList.map .file

/-- The body of a request was read, or could not be: settles it and writes the file it asks for. -/
def settleInto (r : Router) (files : FileTree) (downloads : Path) (id : String)
    (body : Except String ResponseBody) : Router × FileTree × List LogLine :=
  let settled := r.settle id body
  let (files, lines) := Finding.saveAll files downloads settled.findings
  (settled.router, files, lines)

end Router

end PageScript
